import CallAtlas.Script.Arithmetic

/-!
Modes, as utilities are given them: permissions in octal digits, or changes of them by
letters.
-/

namespace CallAtlas.Script.Utility

inductive ModeOperator where
  | set
  | add
  | remove
  deriving DecidableEq

inductive ModeSource where
  | given (bits : Nat)
  | ifExecutable (bits : Nat)
  | copied (bits : Nat)

structure ModeChange where
  operator : ModeOperator
  /-- The bits of the users that are named; none stands for all users. -/
  affected : Nat
  source : ModeSource
  mentioned : Nat

def without (bits others : Nat) : Nat := bits - (bits &&& others)

def allBits : Nat := 0o7777

namespace ModeChange

def spread (bits : Nat) : Nat :=
  let right := fun (mask : Nat) => if bits &&& mask = 0 then 0 else mask
  right 0o444 ||| right 0o222 ||| right 0o111

/-- What a change makes of a mode; users that are not named do not get what `mask` denies. -/
def apply (isDirectory : Bool) (mask mode : Nat) (change : ModeChange) : Nat :=
  let kept := without (if isDirectory then 0o6000 else 0) change.mentioned
  let bits := match change.source with
    | .given bits => bits
    | .ifExecutable bits =>
        if mode &&& 0o111 ≠ 0 || isDirectory then bits ||| 0o111 else bits
    | .copied bits => spread (bits &&& mode)
  let limit := if change.affected = 0 then without allBits mask else change.affected
  let bits := without (bits &&& limit) kept
  match change.operator with
  | .set =>
      let preserved := (if change.affected = 0 then 0 else without allBits change.affected) ||| kept
      (mode &&& preserved) ||| bits
  | .add => mode ||| bits
  | .remove => without mode bits

end ModeChange

abbrev Mode := List ModeChange

namespace Mode

def isOctal (c : Char) : Bool := '0' ≤ c && c ≤ '7'

def octal? (digits : ByteText) : Option Nat :=
  let value := (Arithmetic.digits 8 digits).1
  if value ≤ allBits then some value else none

def operator? (c : Char) : Option ModeOperator :=
  match c with
  | '=' => some .set
  | '+' => some .add
  | '-' => some .remove
  | _ => none

def users (c : Char) : Nat :=
  match c with
  | 'u' => 0o4700
  | 'g' => 0o2070
  | 'o' => 0o1007
  | _ => 0o7777

def rights (c : Char) : Nat :=
  match c with
  | 'r' => 0o444
  | 'w' => 0o222
  | 'x' => 0o111
  | 's' => 0o6000
  | 't' => 0o1000
  | _ => 0

def union (bits : Char → Nat) (letters : ByteText) : Nat :=
  letters.foldl (fun all c => all ||| bits c) 0

def source? (affected : Nat) (text : ByteText) : Option (ModeSource × Nat × ByteText) :=
  match text with
  | 'u' :: rest => some (.copied 0o700, 0, rest)
  | 'g' :: rest => some (.copied 0o070, 0, rest)
  | 'o' :: rest => some (.copied 0o007, 0, rest)
  | _ =>
      let digits := text.takeWhile isOctal
      if !digits.isEmpty then
        let rest := text.drop digits.length
        if affected = 0 && (rest.isEmpty || rest.head? = some ',') then
          (octal? digits).map fun bits => (.given bits, allBits, rest)
        else none
      else
        let letters := text.takeWhile ("rwxXst".toList.contains ·)
        let bits := union rights letters
        some (if letters.contains 'X' then .ifExecutable bits else .given bits, 0,
          text.drop letters.length)

/-- The changes of a clause behind its users, and of the clauses behind it. -/
def changes? : Nat → Option Nat → ByteText → Option Mode
  -- The bound is on the length of the text.
  | 0, _, _ => none
  | bound + 1, none, text =>
      let letters := text.takeWhile ("ugoa".toList.contains ·)
      let rest := text.drop letters.length
      if (rest.head?.bind operator?).isSome then changes? bound (some (union users letters)) rest
      else none
  | bound + 1, some affected, text =>
      match text with
      | [] => some []
      | c :: rest =>
          match operator? c with
          | none => if c = ',' then changes? bound none rest else none
          | some operator => do
              let (source, mentioned, behind) ← source? affected rest
              let named := match source with
                | .given bits => bits
                | .ifExecutable bits => bits
                | .copied bits => bits
              let mentioned := if mentioned ≠ 0 then mentioned
                else if affected ≠ 0 then affected &&& named
                else named
              let reached := if mentioned = allBits then allBits else affected
              let more ← changes? bound (some affected) behind
              return { operator, affected := reached, source, mentioned } :: more

def parse? (text : ByteText) : Option Mode :=
  if text.head?.any isOctal then
    if text.all isOctal then do
      let bits ← octal? text
      let mentioned := if text.length < 5 then (bits &&& 0o7000) ||| 0o777 else allBits
      return [{ operator := .set, affected := allBits, source := .given bits, mentioned }]
    else none
  else changes? (2 * text.length + 2) none text

def apply (mode : Mode) (isDirectory : Bool) (mask before : Nat) : Nat :=
  mode.foldl (ModeChange.apply isDirectory mask) (before &&& allBits)

end Mode

def modeLetters (mode : Nat) : ByteText :=
  let digit := fun (place special : Nat) (letter : Char) =>
    let bits := mode / place % 8
    let last := match bits % 2 == 1, mode / 0o1000 / special % 2 == 1 with
      | true, true => letter
      | false, true => letter.toUpper
      | true, false => 'x'
      | false, false => '-'
    [if 4 ≤ bits then 'r' else '-', if bits / 2 % 2 = 1 then 'w' else '-', last]
  digit 0o100 4 's' ++ digit 0o10 2 's' ++ digit 1 1 't'

end CallAtlas.Script.Utility
