import CallAtlas.Script.Format
import CallAtlas.Script.Utility.Options

/-!
Printing arguments as they are, with escapes in them, or as a format asks for.
-/

namespace CallAtlas.Script.Utility

def isHexadecimal (c : Char) : Bool := Arithmetic.digitValue c < 16

def byteOf (base : Nat) (digits : ByteText) : Char :=
  Char.ofNat ((Arithmetic.digits base digits).1 % 256)

def resolved : Nat → ByteText → ByteText × Bool
  | 0, _ => ([], false)
  | _, [] => ([], false)
  | bound + 1, '\\' :: c :: rest =>
      let numbered := fun (base : Nat) (digits behind : ByteText) =>
        let (text, ended) := resolved bound behind
        (byteOf base digits :: text, ended)
      let octal := ((c :: rest).takeWhile isOctal).take (if c = '0' then 4 else 3)
      let hexadecimal := (rest.takeWhile isHexadecimal).take 2
      match controlChars.lookup c with
      | some control =>
          let (text, ended) := resolved bound rest
          (control :: text, ended)
      | none =>
          if c = 'c' then ([], true)
          else if c = 'x' && !hexadecimal.isEmpty then
            numbered 16 hexadecimal (rest.drop hexadecimal.length)
          else if !octal.isEmpty then numbered 8 octal ((c :: rest).drop octal.length)
          else
            let (text, ended) := resolved bound rest
            ('\\' :: c :: text, ended)
  | bound + 1, c :: rest =>
      let (text, ended) := resolved bound rest
      (c :: text, ended)

def resolvedWords : List ByteText → ByteText × Bool
  | [] => ([], false)
  | first :: rest =>
      match resolved (first.length + 1) first with
      | (text, true) => (text, true)
      | (text, false) =>
          if rest.isEmpty then (text, false)
          else
            let (more, ended) := resolvedWords rest
            (text ++ ' ' :: more, ended)

/-- Prints its arguments; escapes count only if they are asked for. -/
def printWords : Program := fun _ arguments => do
  let isOption := fun (argument : ByteText) =>
    1 < argument.length && argument.head? = some '-' && argument.tail.all ("neE".toList.contains ·)
  let options := (arguments.takeWhile isOption).flatMap List.tail
  let words := arguments.dropWhile isOption
  let escapes := (options.reverse.find? fun c => c = 'e' || c = 'E') = some 'e'
  let (text, ended) :=
    if escapes then resolvedWords words else (ByteText.join [' '] words, false)
  Task.print (if ended || options.contains 'n' then text else text ++ ['\n'])
  return 0

namespace Formatting

structure Feed where
  arguments : List ByteText
  hasTaken : Bool := false
  hasFailed : Bool := false

abbrev Printer := StateT Feed (ExceptT Nat Task)

def ofTask {α : Type} (task : Task α) : Printer α := fun feed =>
  ExceptT.lift ((·, feed) <$> task)

def emit (text : ByteText) : Printer Unit := ofTask (Task.print text)

def fail {α : Type} (name complaint : String) : Printer α := do
  ofTask (tell s!"{name}: {complaint}")
  throw 1

def next? : Printer (Option ByteText) := do
  let feed ← get
  match feed.arguments with
  | [] => return none
  | first :: rest => do
      set { feed with arguments := rest, hasTaken := true }
      return some first

def number {α : Type} (name : String) (ofNat : Nat → α) (read : ByteText → Script.Reading α)
    (text : ByteText) : Printer α := do
  -- What is wrong with it is said, and the number at its front counts.
  let wrong := fun (complaint : String) => do
    ofTask (tell s!"{name}: {cite text}{complaint}")
    modify fun feed => { feed with hasFailed := true }
  let plain := do
    match read text with
    | none => do
        unless text.isEmpty do wrong ": expected a numeric value"
        return ofNat 0
    | some (value, rest, fits) => do
        if !fits then wrong ": Numerical result out of range"
        else if !rest.isEmpty then wrong ": value not completely converted"
        return value
  match text with
  | quote :: c :: rest => do
      if quote = '\'' || quote = '"' then
        unless rest.isEmpty do
          let shown := ByteText.toText rest
          ofTask (tell (s!"{name}: warning: {shown}: character(s) following character constant " ++
            "have been ignored"))
        return ofNat c.toNat
      else plain
  | _ => plain

def integer (name : String) (text : ByteText) : Printer Int := number name Int.ofNat readInt text

def natural (name : String) (text : ByteText) : Printer Nat := number name id readNat text

def real (name : String) (text : ByteText) : Printer Signed :=
  let ofNat := fun value => { size := (Decimal.RealFormat.extended.nearest ⟨value, 1⟩).1 : Signed }
  number name ofNat (readReal .extended) text

def letters (flags : ByteText) (hasPrecision : Bool) : List Char :=
  let excluded := flags.flatMap fun flag =>
    match flag with
    | 'I' => "aAceEosxX".toList
    | '\'' => "aAceEosxX".toList
    | '#' => "cdisu".toList
    | '0' => "cs".toList
    | _ => []
  "aAcdeEfFgGiosuxX".toList.filter fun letter =>
    !excluded.contains letter && !(hasPrecision && letter = 'c')

def shown (name : String) (directive : Directive) (letter : Char) (argument : ByteText) :
    Printer ByteText := do
  match letter with
  | 's' => return directive.padText argument
  | 'c' => return directive.pad [argument.headD '\x00']
  | 'd' => return directive.signed (← integer name argument)
  | 'i' => return directive.signed (← integer name argument)
  | 'u' => return directive.unsigned 10 [] (← natural name argument)
  | 'o' => return directive.octal (← natural name argument)
  | 'x' => return directive.unsigned 16 ['0', 'x'] (← natural name argument)
  | 'X' => return (directive.unsigned 16 ['0', 'x'] (← natural name argument)).map Char.toUpper
  | _ => return directive.real .extended letter (← real name argument)

def sizeOf (name : String) (what : String) (text : ByteText) : Printer (Option Int × ByteText) := do
  match text with
  | '*' :: rest => do
      match ← next? with
      | none => return (some 0, rest)
      | some argument => do
          let value ← integer name argument
          if Int.pow 2 31 ≤ value || (value < -Int.pow 2 31 && what = "field width") then
            fail name s!"invalid {what}: {cite argument}"
          return (some value, rest)
  | _ =>
      let digits := text.takeWhile Char.isDigit
      return (some (Arithmetic.digits 10 digits).1, text.drop digits.length)

def runDirective (name : String) (text : ByteText) : Printer ByteText := do
  -- The rest of the format is returned.
  let isFlag := fun c => "I'-+ #0".toList.contains c
  let flags := text.takeWhile isFlag
  let (width?, rest) ← sizeOf name "field width" (text.drop flags.length)
  let hasPrecision := rest.head? = some '.'
  let (precision?, rest) ← if hasPrecision then sizeOf name "precision" rest.tail
    else pure (none, rest)
  let width := width?.getD 0
  let directive : Directive :=
    { flags := if width < 0 then '-' :: flags else flags
      width := width.natAbs
      precision := precision?.bind fun size => if size < 0 then none else some size.toNat }
  let rest := rest.dropWhile ("lLhjtz".toList.contains ·)
  match rest with
  | [] => fail name s!"%{text.toText}: invalid conversion specification"
  | letter :: behind => do
      unless (letters flags hasPrecision).contains letter do
        let read := text.take (text.length - behind.length)
        fail name s!"%{ByteText.toText read}: invalid conversion specification"
      emit (← shown name directive letter ((← next?).getD []))
      return behind

def codeChar (value : Nat) : ByteText :=
  -- Only those of one byte can be shown.
  let digits := (Nat.toDigits 16 value).map Char.toUpper
  let size := if value < 0x10000 then 4 else 8
  if value < 0x80 then [Char.ofNat value]
  else '\\' :: (if size = 4 then 'u' else 'U') :: List.replicate (size - digits.length) '0' ++ digits

def codeEscape (name : String) (letter : Char) (text : ByteText) : Printer ByteText := do
  let size := if letter = 'u' then 4 else 8
  let digits := text.take size
  if digits.length < size || !digits.all isHexadecimal then
    fail name "missing hexadecimal number in escape"
  let value := (Arithmetic.digits 16 digits).1
  if (value ≤ 0x9f && value ≠ 0x24 && value ≠ 0x40 && value ≠ 0x60) ||
      (0xd800 ≤ value && value ≤ 0xdfff) then
    let shown := ByteText.toText (digits.map Char.toLower)
    fail name s!"invalid universal character name \\{letter}{shown}"
  emit (codeChar value)
  return text.drop size

/-- Prints the escape behind a backslash; in an argument a zero may stand in front of octal
digits. -/
def runEscape (name : String) (inArgument : Bool) (text : ByteText) : Printer ByteText := do
  -- What is behind it is returned.
  match text with
  | [] => do
      emit ['\\']
      return []
  | 'c' :: _ => throw 0
  | '"' :: rest => do
      emit ['"']
      return rest
  | 'x' :: rest => do
      let digits := (rest.takeWhile isHexadecimal).take 2
      if digits.isEmpty then fail name "missing hexadecimal number in escape"
      emit [byteOf 16 digits]
      return rest.drop digits.length
  | c :: rest => do
      match controlChars.lookup c with
      | some control => do
          emit [control]
          return rest
      | none =>
          if isOctal c then
            let digits := (text.takeWhile isOctal).take (if inArgument && c = '0' then 4 else 3)
            emit [byteOf 8 digits]
            return text.drop digits.length
          else if c = 'u' || c = 'U' then codeEscape name c rest
          else
            emit ['\\', c]
            return rest

def runArgument (name : String) : Nat → ByteText → Printer Unit
  | 0, _ => pure ()
  | _, [] => pure ()
  | bound + 1, '\\' :: rest => do runArgument name bound (← runEscape name true rest)
  | bound + 1, c :: rest => do
      emit [c]
      runArgument name bound rest

def runFormat (name : String) : Nat → ByteText → Printer Unit
  | 0, _ => pure ()
  | _, [] => pure ()
  | bound + 1, '\\' :: rest => do runFormat name bound (← runEscape name false rest)
  | bound + 1, '%' :: '%' :: rest => do
      emit ['%']
      runFormat name bound rest
  | bound + 1, '%' :: 'b' :: rest => do
      let argument := (← next?).getD []
      runArgument name (argument.length + 1) argument
      runFormat name bound rest
  | bound + 1, '%' :: 'q' :: rest => do
      match ← next? with
      | none => pure ()
      | some argument => emit (readableName argument)
      runFormat name bound rest
  | bound + 1, '%' :: rest => do runFormat name bound (← runDirective name rest)
  | bound + 1, c :: rest => do
      emit [c]
      runFormat name bound rest

def runFormats (name : String) (format : ByteText) : Nat → Printer Unit
  | 0 => pure ()
  | bound + 1 => do
      modify fun feed => { feed with hasTaken := false }
      runFormat name (format.length + 1) format
      let feed ← get
      match feed.arguments with
      | [] => pure ()
      | first :: _ =>
          if !feed.hasTaken then
            let shown := cite first
            ofTask (tell
              s!"{name}: warning: ignoring excess arguments, starting with {shown}")
          else runFormats name format bound

end Formatting

def printFormat : Program := fun called arguments => do
  let name := called.toText
  let arguments := if arguments.head? = some ['-', '-'] then arguments.tail else arguments
  match arguments with
  | [] => misuse 1 name "missing operand"
  | format :: rest => do
      let printer := Formatting.runFormats name format (rest.length + 1)
      match ← (printer.run { arguments := rest }).run with
      | .ok (_, feed) => return if feed.hasFailed then 1 else 0
      | .error status => return status

end CallAtlas.Script.Utility
