import CallAtlas.Script.Builtin.Basic

/-!
The commands of the shell about permissions of new files and limits of processes.
-/

namespace CallAtlas.Script

namespace Permissions

def digit (current : Nat) : List Char → Nat
  | [] => 0
  | c :: rest =>
      let bits := match c with
        | 'r' => 4
        | 'w' => 2
        | 'x' => 1
        | 'u' => current / 64 % 8
        | 'g' => current / 8 % 8
        | 'o' => current % 8
        | 'X' => if current &&& 0o111 = 0 then 0 else 1
        | _ => 0
      bits ||| digit current rest

def places : List Char → Nat
  | [] => 0
  | c :: rest =>
      let place := match c with
        | 'u' => 0o100
        | 'g' => 0o010
        | 'o' => 0o001
        | _ => 0o111
      place ||| places rest

/-- Changes permissions as clauses say that are separated by commas, unless they are malformed. -/
def change : Nat → Nat → ByteText → Option Nat
  -- The bound is on their number.
  | 0, _, _ => none
  | bound + 1, current, clauses =>
      let who := clauses.takeWhile fun c => "augo".toList.contains c
      let everywhere := if who.isEmpty then 0o111 else places who
      match clauses.drop who.length with
      | [] => some current
      | operator :: rest =>
          let letters := rest.takeWhile fun c => "rwxugoXs".toList.contains c
          let bits := digit current letters * everywhere
          let next := match operator with
            | '=' => some (bits ||| (current &&& (0o777 ^^^ (everywhere * 7))))
            | '+' => some (current ||| bits)
            | '-' => some (current &&& (0o777 ^^^ bits))
            | _ => none
          match next, rest.drop letters.length with
          | none, _ => none
          | some next, [] => some next
          | some next, ',' :: more => change bound next more
          | some next, more => change bound next more

def letters (permissions : Nat) : ByteText :=
  let part := fun (who : Char) (shift : Nat) =>
    let granted := permissions / Nat.pow 8 shift % 8
    let right := fun (bit : Nat) (letter : Char) => if granted / bit % 2 = 0 then [] else [letter]
    who :: '=' :: right 4 'r' ++ right 2 'w' ++ right 1 'x'
  ByteText.join [','] [part 'u' 2, part 'g' 1, part 'o' 0]

end Permissions

namespace Builtin

def mask : Builtin := fun arguments => do
  let given ← options ['S'] [] arguments
  let shell ← get
  let granted := 0o777 - shell.process.mask
  Action.setStatus 0
  match given.operands with
  | [] =>
      let digits := Nat.toDigits 8 shell.process.mask
      if given.has 'S' then print (Permissions.letters granted ++ ['\n'])
      else print (List.replicate (4 - digits.length) '0' ++ digits ++ ['\n'])
  | first :: _ =>
      let next ← if first.head?.any Char.isDigit then
          if first.all fun c => '0' ≤ c && c ≤ '7' then
            pure ((Arithmetic.digits 8 first).1 % 0o1000)
          else Action.fail s!"Illegal number: {first.toText}"
        else
          match Permissions.change (first.length + 1) granted first with
          | some granted => pure (0o777 - granted)
          | none => Action.fail s!"Illegal mode: {first.toText}"
      modify fun shell => { shell with process := { shell.process with mask := next } }

def limitLetters : List Char := "HSatfdscmlpnvwr".toList

/-- Shows or sets a limit; there are none. -/
def limit : Builtin := fun arguments => do
  let given ← options limitLetters [] arguments
  Action.setStatus 0
  match given.operands with
  | [] => print "unlimited\n".toList
  | [value] =>
      unless value.toText = "unlimited" || (!value.isEmpty && value.all Char.isDigit) do
        Action.fail "bad number"
  | _ => Action.fail "too many arguments"

end Builtin

end CallAtlas.Script
