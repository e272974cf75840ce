import CallAtlas.Script.Utility.Records

/-!
Comparing two files byte by byte.
-/

namespace CallAtlas.Script.Utility

namespace Comparison

structure Form where
  showsAll : Bool := false
  isSilent : Bool := false
  showsBytes : Bool := false
  skipped : Nat × Nat := (0, 0)
  limit : Option Nat := none

structure Side where
  name : ByteText
  content : ByteText
  isRegular : Bool

def shownByte (c : Char) : ByteText :=
  let code := c.toNat
  let low := fun (code : Nat) =>
    if code < 32 then ['^', Char.ofNat (code + 64)]
    else if code = 127 then ['^', '?']
    else [Char.ofNat code]
  if code < 128 then low code else 'M' :: '-' :: low (code - 128)

def octalNumber (c : Char) : ByteText :=
  let digits := Nat.toDigits 8 c.toNat
  List.replicate (3 - digits.length) ' ' ++ digits

def leftColumn (width : Nat) (text : ByteText) : ByteText :=
  text ++ List.replicate (width - text.length) ' '

def offsetWidth (form : Form) (first second : Side) : Nat :=
  let sizes := ([first, second].filter (·.isRegular)).map (·.content.length)
  let largest := (form.limit.toList ++ sizes).foldl min (Nat.pow 2 63 - 1)
  (Nat.toDigits 10 largest).length

def allLines (form : Form) (first second : Side) : ByteText :=
  let width := offsetWidth form first second
  let differing := (first.content.zip second.content).zipIdx.filter fun ((a, b), _) => a ≠ b
  differing.flatMap fun ((a, b), index) =>
    let bytes := if form.showsBytes then
        octalNumber a ++ ' ' :: leftColumn 4 (shownByte a) ++ ' ' :: octalNumber b ++
          ' ' :: shownByte b
      else octalNumber a ++ ' ' :: octalNumber b
    column width (index + 1) ++ ' ' :: bytes ++ ['\n']

def tellEnd (form : Form) (shorter : Side) : Task Nat := do
  let size := shorter.content.length
  let lines := shorter.content.count '\n'
  let place := if size = 0 then "which is empty"
    else if form.showsAll then s!"after byte {size}"
    else if shorter.content.getLast? = some '\n' then s!"after byte {size}, line {lines}"
    else s!"after byte {size}, in line {lines + 1}"
  unless form.isSilent do Task.complain s!"cmp: EOF on {shorter.name.toText} {place}"
  return 1

def compare (form : Form) (first second : Side) : Task Nat := do
  let cut := fun (text : ByteText) => form.limit.elim text text.take
  let first := { first with content := cut (first.content.drop form.skipped.1) }
  let second := { second with content := cut (second.content.drop form.skipped.2) }
  let pairs := first.content.zip second.content
  let same := (pairs.takeWhile fun (a, b) => a = b).length
  let shorter := if first.content.length < second.content.length then first else second
  let isCut := first.content.length ≠ second.content.length
  match pairs[same]? with
  | none => if isCut then tellEnd form shorter else return 0
  | some (a, b) =>
      if form.isSilent then return 1
      else if form.showsAll then do
        Task.print (allLines form first second)
        if isCut then tellEnd form shorter else return 1
      else do
        let line := (first.content.take same).count '\n' + 1
        let unit := if form.showsBytes then "byte" else "char"
        let names := first.name ++ ' ' :: second.name
        let bytes := if form.showsBytes then
            " is ".toList ++ octalNumber a ++ ' ' :: shownByte a ++ ' ' :: octalNumber b ++
              ' ' :: shownByte b
          else []
        Task.print (names ++ s!" differ: {unit} {same + 1}, line {line}".toList ++ bytes ++ ['\n'])
        return 1

def side (operand : ByteText) : Task (Except FileError Side) := do
  let isRegular := operand ≠ ['-'] || (← Task.identity? 0).isSome
  match ← readOperand operand with
  | .ok content => return .ok { name := operand, content, isRegular }
  | .error cause => return .error cause

def isSameFile (form : Form) (first second : ByteText) : Task Bool := do
  if form.skipped.1 ≠ form.skipped.2 then return false
  else if first = second then return true
  else
    match ← known? true first, ← known? true second with
    | .ok known, .ok other =>
        return known.isSame other && first ≠ ['-'] && second ≠ ['-']
    | _, _ => return false

def refuse (name complaint : String) : Task Nat := do
  tell s!"{name}: {complaint}"
  giveUp 2 s!"{name}: Try '{name} --help' for more information."

def size? (text : ByteText) : Option Nat := (count? "kKMGTPEZY".toList text).toOption

def skippedBy (text : ByteText) : Except String (Nat × Nat) := do
  let number := fun (part : ByteText) =>
    match size? part with
    | some value => Except.ok value
    | none => .error s!"invalid --ignore-initial value '{part.toText}'"
  let first := text.takeWhile (· ≠ ':')
  let size ← if first.length = text.length then number text
    else (number first).mapError fun _ => s!"invalid --ignore-initial value '{text.toText}'"
  if first.length = text.length then return (size, size)
  else return (size, ← number (text.drop (first.length + 1)))

def fault? (given : Given) (letter : Char) (value : ByteText) : Option ValueFault :=
  let wrong := fun (complaint : String) => some { complaint, hints := true : ValueFault }
  match letter with
  | 'l' => if given.has 's' then wrong "options -l and -s are incompatible" else none
  | 's' => if given.has 'l' then wrong "options -l and -s are incompatible" else none
  | 'n' => if (size? value).isSome then none else wrong s!"invalid --bytes value '{value.toText}'"
  | 'i' =>
      match skippedBy value with
      | .ok _ => none
      | .error complaint => wrong complaint
  | _ => none

def parse (given : Given) : Except String Form := do
  let skipped ← (given.values 'i').foldlM (fun (skipped : Nat × Nat) value => do
    let (first, second) ← skippedBy value
    return (max skipped.1 first, max skipped.2 second)) (0, 0)
  let limits ← (given.values 'n').mapM fun value =>
    match size? value with
    | some limit => Except.ok limit
    | none => .error s!"invalid --bytes value '{value.toText}'"
  let own ← ((given.operands.drop 2).take 2).mapM fun value =>
    match size? value with
    | some size => Except.ok size
    | none => .error s!"invalid --ignore-initial value '{value.toText}'"
  match given.operands.drop 4 with
  | extra :: _ => throw s!"extra operand '{extra.toText}'"
  | [] => pure ()
  return {
    showsAll := given.has 'l', isSilent := given.has 's', showsBytes := given.has 'b' || given.has 'c'
    skipped := (max skipped.1 (own.headD 0), max skipped.2 ((own.drop 1).headD 0))
    limit := limits.foldl (fun least limit => some (least.elim limit (min limit))) none }

def openFault? (operand : ByteText) : Task (Option FileError) := do
  if operand = ['-'] then return none
  else
    match ← Task.openPath .reading operand with
    | .ok _ => return none
    | .error cause => return some cause

/-- Compares two files that operands name. -/
def run (name : String) (form : Form) (first second : ByteText) : Task Nat := do
  -- Both are opened before they are read.
  let failed := fun (operand : ByteText) (cause : FileError) =>
    giveUp 2 s!"{name}: {operand.toText}: {cause.reason}"
  match ← openFault? first, ← openFault? second with
  | some cause, _ => if form.isSilent then return 2 else failed first cause
  | none, some cause => if form.isSilent then return 2 else failed second cause
  | none, none => do
      if ← isSameFile form first second then return 0
      else
        match ← side first with
        | .error cause => failed first cause
        | .ok one =>
            match ← side second with
            | .error cause => failed second cause
            | .ok other => compare form one other

end Comparison

def compareFiles : Program := fun called arguments =>
  let run := withOptions
    { flags := ['b', 'c', 'l', 's'], valued := ['i', 'n']
      long := [("print-bytes", 'b'), ("print-chars", 'c'), ("ignore-initial", 'i'),
        ("verbose", 'l'), ("bytes", 'n'), ("silent", 's'), ("quiet", 's')]
      usage := fun name => [s!"{name}: Try '{name} --help' for more information."]
      check := Comparison.fault? } 2
    fun name given => do
      let last := arguments.getLastD called
      match Comparison.parse given, given.operands with
      | .error complaint, _ => Comparison.refuse name complaint
      | .ok _, [] => Comparison.refuse name s!"missing operand after '{last.toText}'"
      | .ok form, first :: rest => Comparison.run name form first (rest.headD ['-'])
  run called arguments

end CallAtlas.Script.Utility
