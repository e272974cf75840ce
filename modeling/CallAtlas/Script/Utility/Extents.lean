import CallAtlas.Script.Utility.Records

/-!
The beginnings, the ends and the sizes of files.
-/

namespace CallAtlas.Script.Utility

inductive Extent where
  | first (size : Nat)
  | allButLast (size : Nat)
  | last (size : Nat)
  | after (size : Nat)

def Extent.of {α : Type} (extent : Extent) (all : List α) : List α :=
  match extent with
  | first size => all.take size
  | allButLast size => all.take (all.length - size)
  | last size => all.drop (all.length - size)
  | after size => all.drop size

structure PartForm where
  extent : Extent
  inBytes : Bool := false
  ending : Char := '\n'
  hasHeadings : Bool := false
  stopsAtDirectory : Bool := false

def PartForm.part (form : PartForm) (text : ByteText) : ByteText :=
  if form.inBytes then form.extent.of text
  else (form.extent.of (endedRecords form.ending text)).flatten

def chunkSize : Nat := 8192

/-- How much of the input is gone once a part of it was printed: that part, but from a pipe whole
chunks. -/
def consumedSize (form : PartForm) (isPipe : Bool) (printed available : Nat) : Nat :=
  match form.extent with
  | .first _ =>
      if isPipe && !form.inBytes then
        min available ((printed + chunkSize - 1) / chunkSize * chunkSize)
      else printed
  | .allButLast _ => if isPipe then available else printed
  | _ => available

def PartForm.run (form : PartForm) (name : String) : Bool → List ByteText → Task Nat
  -- `isFirst` tells that no heading was printed yet.
  | _, [] => return 0
  | isFirst, operand :: rest => do
      let shown := headingName operand
      let heading := (if isFirst then [] else ['\n']) ++ "==> ".toList ++ shown ++ " <==\n".toList
      let printHeading : Task Unit := if form.hasHeadings then Task.print heading else pure ()
      let result ← if operand = ['-'] then Task.peek 0 else Task.readPath operand
      match result with
      | .ok content => do
          printHeading
          let part := form.part content
          Task.print part
          if operand = ['-'] then
            let isPipe := match ← Task.target? 0 with
              | some (.pipe _) => true
              | _ => false
            Task.skip 0 (consumedSize form isPipe part.length content.length)
          run form name false rest
      | .error cause => do
          if cause = .isADirectory || operand = ['-'] then
            printHeading
            tell s!"{name}: error reading {quote shown}: {cause.reason}"
            if form.stopsAtDirectory then return 1
            else return max 1 (← run form name false rest)
          else
            tell s!"{name}: cannot open {quote operand} for reading: {cause.reason}"
            return max 1 (← run form name isFirst rest)

def countArguments (digits letters : ByteText) : Except Char (List ByteText) := do
  let step := fun (state : Bool × ByteText × List ByteText) (c : Char) =>
    let (inBytes, unit, flags) := state
    match c with
    | 'c' => Except.ok (true, [], flags)
    | 'b' => .ok (true, [c], flags)
    | 'k' => .ok (true, [c], flags)
    | 'm' => .ok (true, [c], flags)
    | 'l' => .ok (false, unit, flags)
    | _ => if ['q', 'v', 'z'].contains c then .ok (inBytes, unit, flags ++ [['-', c]]) else .error c
  let (inBytes, unit, flags) ← letters.foldlM step (false, [], [])
  return ['-', if inBytes then 'c' else 'n'] :: (digits ++ unit) :: flags

def countedBy (letter : Char) : String :=
  if letter = 'c' then "number of bytes" else "number of lines"

/-- What is wrong with the value of an option that counts; `number` leaves out the sign. -/
def countFault? (number : ByteText → ByteText) (letter : Char) (value : ByteText) :
    Option ValueFault :=
  if letter = 'c' || letter = 'n' then
    match count? unitLetters (number value) with
    | .ok _ => none
    | .error fault => some { complaint := fault.message (countedBy letter) (number value) }
  else none

def sizeOf? (given : Given) (number : ByteText → ByteText) : Option (ByteText × Nat × Bool) :=
  (given.options.reverse.find? fun option => option.1 = 'n' || option.1 = 'c').map
    fun (letter, value) => (value, ((count? unitLetters (number value)).toOption).getD 0, letter = 'c')

def printParts (name : String) (given : Given) (extent : Extent) (inBytes : Bool)
    (stopsAtDirectory : Bool := false) : Task Nat :=
  let form : PartForm :=
    { extent, inBytes, stopsAtDirectory
      ending := if given.has 'z' then '\x00' else '\n'
      hasHeadings := match given.last? ['q', 'v'] with
        | some letter => letter = 'v'
        | none => 1 < given.operands.length }
  form.run name true given.inputs

def withoutDash : ByteText → ByteText
  | '-' :: digits => digits
  | digits => digits

def head : Program := fun name arguments =>
  let trailing := fun (c : Char) => s!"invalid trailing option -- {c}"
  let body := withOptions
    { flags := ['q', 'v', 'z'] ++ digitFlags, valued := ['c', 'n']
      long := [("bytes", 'c'), ("lines", 'n'), ("quiet", 'q'), ("silent", 'q'), ("verbose", 'v'),
        ("zero-terminated", 'z')]
      check := fun _ letter value =>
        if digitFlags.contains letter then some { complaint := trailing letter, hints := true }
        else countFault? withoutDash letter value }
    1 fun name given =>
      match sizeOf? given withoutDash with
      | none => printParts name given (.first 10) false
      | some ('-' :: _, size, inBytes) => printParts name given (.allButLast size) inBytes
      | some (_, size, inBytes) => printParts name given (.first size) inBytes
  match arguments with
  | ('-' :: c :: more) :: rest =>
      if c.isDigit then
        let digits := (c :: more).takeWhile Char.isDigit
        match countArguments digits ((c :: more).drop digits.length) with
        | .ok options => body name (options ++ rest)
        | .error letter => misuse 1 name.toText (trailing letter)
      else body name arguments
  | _ => body name arguments

/-- The number that the first argument of a call gives, with what is counted from where, if it gives
one by itself. -/
def obsoleteExtent? (arguments : List ByteText) : Option (Extent × Bool × List ByteText) := do
  let (first, rest) ← match arguments with
    | [first] => some (first, [])
    | [first, second] =>
        if second.head? = some '-' && second.length ≠ 1 && second ≠ ['-', '-'] then none
        else some (first, if second = ['-', '-'] then [] else [second])
    | [first, ['-', '-'], second] => some (first, [second])
    | _ => none
  let fromStart := first.head? = some '+'
  if !fromStart && first.head? ≠ some '-' then none
  let body := first.drop 1
  if !fromStart && (body.isEmpty || body = ['c']) then none
  let digits := body.takeWhile Char.isDigit
  let (unit, behind) := match body.drop digits.length with
    | 'b' :: behind => (some 512, behind)
    | 'c' :: behind => (some 1, behind)
    | 'l' :: behind => (none, behind)
    | behind => (none, behind)
  let behind := if behind.head? = some 'f' then behind.drop 1 else behind
  if !behind.isEmpty then none
  let size := (if digits.isEmpty then 10 else (Arithmetic.digits 10 digits).1) * unit.getD 1
  return (if fromStart then .after (size - 1) else .last size, unit.isSome, rest)

def endExtent (given : Given) : Extent × Bool :=
  let fromStart := given.options.any fun (letter, value) =>
    (letter = 'n' || letter = 'c') && value.head? = some '+'
  match sizeOf? given withoutDash with
  | none => (.last 10, false)
  | some (_, size, inBytes) => (if fromStart then .after (size - 1) else .last size, inBytes)

/-- Whether the end of a file is printed as it is read, so that one which cannot be read ends
all. -/
def Extent.isCopied (extent : Extent) (inBytes : Bool) : Bool :=
  match extent with
  | after 0 => true
  | _ => inBytes

def tail : Program := fun name arguments =>
  -- Nothing is read if nothing would be printed.
  match obsoleteExtent? arguments with
  | some (.last 0, _) => return 0
  | some (extent, inBytes, operands) =>
      let form : PartForm := { extent, inBytes, stopsAtDirectory := extent.isCopied inBytes }
      form.run name.toText true (if operands.isEmpty then [['-']] else operands)
  | none =>
      withOptions
        { flags := ['f', 'F', 'q', 'v', 'z', Char.ofNat 0x1170] ++ digitFlags
          valued := ['c', 'n', 's', Char.ofNat 0x1171], optional := [Char.ofNat 0x1172]
          long := [("bytes", 'c'), ("follow", Char.ofNat 0x1172), ("lines", 'n'),
            ("max-unchanged-stats", Char.ofNat 0x1171), ("pid", Char.ofNat 0x1171), ("quiet", 'q'),
            ("retry", Char.ofNat 0x1170), ("silent", 'q'), ("sleep-interval", 's'),
            ("verbose", 'v'), ("zero-terminated", 'z')]
          check := fun _ letter value =>
            if digitFlags.contains letter then
              some { complaint := s!"option used in invalid context -- {letter}" }
            else countFault? withoutDash letter value }
        1 (fun name given =>
          match endExtent given with
          | (.last 0, _) => return 0
          | (extent, inBytes) =>
              printParts name given extent inBytes (extent.isCopied inBytes))
        name arguments

structure TextSize where
  lines : Nat := 0
  words : Nat := 0
  bytes : Nat := 0
  longest : Nat := 0

def lineWidth (line : ByteText) : Nat :=
  let (width, longest) := line.foldl (fun (state : Nat × Nat) c =>
    let (width, longest) := state
    if c = '\t' then ((width / 8 + 1) * 8, longest)
    else if c = '\r' || c = '\x0c' then (0, max longest width)
    else if isPrintable c then (width + 1, longest)
    else state) (0, 0)
  max width longest

def TextSize.of (text : ByteText) : TextSize where
  lines := text.count '\n'
  words := ((wordsOf text).filter fun word => word.any isPrintable).length
  bytes := text.length
  longest := ((records '\n' text).map lineWidth).foldl max 0

def TextSize.add (first second : TextSize) : TextSize where
  lines := first.lines + second.lines
  words := first.words + second.words
  bytes := first.bytes + second.bytes
  longest := max first.longest second.longest

/-- How wide the columns of counts are. -/
def countWidth (given : Given) (columns : Nat) : Task Nat := do
  -- They have room for the size of all files together; what is no file wants at least seven
  -- columns.
  if given.inputs.length = 1 && columns = 1 then return 1
  else
    let sizes ← given.inputs.mapM fun (operand : ByteText) => do
      let object? ← if operand = ['-'] then do
          match ← Task.target? 0 with
          | some (.object identity) => pure ((← get).world.object? identity)
          | some _ => pure (some (.device .null))
          | none => pure none
        else do pure (← Task.stat operand).toOption
      match object? with
      | some (.file content _) => return some (some content.size)
      | some _ => return some none
      | none => return none
    let digits := (Nat.toDigits 10 ((sizes.filterMap fun size => size.join).foldl (· + ·) 0)).length
    let isSpecial := sizes.any fun size => size = some none
    return if sizes.head? = some none && given.inputs.length = 1 then 1
      else if isSpecial then max digits 7
      else digits

inductive TotalForm where
  | auto
  | always
  | only
  | never
  deriving DecidableEq

def totalWords : List (String × TotalForm) :=
  [("auto", .auto), ("always", .always), ("only", .only), ("never", .never)]

def totalLetter : Char := Char.ofNat 0x1181

def wordCount : Program :=
  withOptions
    { flags := "clLmw".toList, valued := [Char.ofNat 0x1180, totalLetter]
      long := [("bytes", 'c'), ("chars", 'm'), ("lines", 'l'), ("words", 'w'),
        ("files0-from", Char.ofNat 0x1180), ("max-line-length", 'L'), ("total", totalLetter)]
      check := fun _ letter value =>
        if letter = totalLetter then wordFault? "--total" totalWords value else none }
    1 fun name given => do
      let total := ((given.value? totalLetter).bind (chosenWord? totalWords ·)).getD .auto
      let isDefault := !(given.options.any fun option => "clLmw".toList.contains option.1)
      let wanted := fun (letter : Char) (byDefault : Bool) =>
        given.has letter || (isDefault && byDefault)
      let row := fun (size : TextSize) =>
        (if wanted 'l' true then [size.lines] else []) ++
        (if wanted 'w' true then [size.words] else []) ++
        (if wanted 'm' false then [size.bytes] else []) ++
        (if wanted 'c' true then [size.bytes] else []) ++
        (if wanted 'L' false then [size.longest] else [])
      let width ← if total = .only then pure 1 else countWidth given (row {}).length
      let line := fun (size : TextSize) (label : ByteText) =>
        ByteText.join [' '] ((row size).map (column width)) ++
          (if label.isEmpty then [] else ' ' :: label) ++ ['\n']
      let tellSize := fun (size : TextSize) (label : ByteText) => do
        unless total = .only do Task.print (line size label)
      let sizes ← given.inputs.mapM fun (operand : ByteText) => do
        if operand.isEmpty then return ({}, ← giveUp 1 s!"{name}: invalid zero-length file name")
        else
          let label := if given.operands.isEmpty then []
            else if operand.contains '\n' then shownName operand
            else operand
          let result ← readOperand operand
          let size := TextSize.of (result.toOption.getD [])
          match result with
          | .ok _ => do
              tellSize size label
              return (size, 0)
          | .error cause => do
              let shown := if given.operands.isEmpty then "'standard input'" else bare operand
              tell s!"{name}: {shown}: {cause.reason}"
              if cause = .isADirectory then tellSize size label
              return (size, 1)
      let isTotalTold : Bool := match total with
        | .auto => 1 < given.operands.length
        | .never => false
        | _ => true
      if isTotalTold then
        Task.print (line ((sizes.map (·.1)).foldl TextSize.add {})
          (if total = .only then [] else "total".toList))
      return (sizes.map (·.2)).foldl max 0

end CallAtlas.Script.Utility
