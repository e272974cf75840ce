import CallAtlas.Script.Utility.Records

/-!
Printing files one behind the other, and the input in several places at once.
-/

namespace CallAtlas.Script.Utility

structure CatForm where
  numbersLines : Bool := false
  skipsBlank : Bool := false
  squeezes : Bool := false
  showsEnds : Bool := false
  showsTabs : Bool := false
  showsControls : Bool := false

structure CatState where
  number : Nat := 0
  /-- How many line ends were last, with the beginning counted as one; none if something else was. -/
  ends : Option Nat := some 0

namespace CatForm

def isPlain (form : CatForm) : Bool :=
  !(form.numbersLines || form.squeezes || form.showsEnds || form.showsTabs || form.showsControls)

def controlText (code : Nat) : ByteText := ['^', Char.ofNat ((code + 64) % 128)]

def shownChar (form : CatForm) (c : Char) : ByteText :=
  let code := c.toNat
  if c = '\t' then (if form.showsTabs then controlText code else [c])
  else if !form.showsControls then [c]
  else
    let low := fun (code : Nat) =>
      if code < 32 then controlText code else if code = 127 then ['^', '?'] else [Char.ofNat code]
    if code < 128 then low code else 'M' :: '-' :: low (code - 128)

def numbered (state : CatState) : ByteText × CatState :=
  (column 6 (state.number + 1) ++ ['\t'], { state with number := state.number + 1 })

def shown (form : CatForm) : ByteText → CatState → List ByteText × CatState
  | [], state => ([], state)
  | '\n' :: rest, state =>
      let ends := match state.ends with
        | none => 0
        | some count => min (count + 1) 2
      if form.squeezes && ends = 2 then
        shown form rest { state with ends := some ends }
      else
        let (front, state) := if 0 < ends && form.numbersLines && !form.skipsBlank then numbered state
          else ([], state)
        let mark := if form.showsEnds then ['$', '\n'] else ['\n']
        let (more, last) := shown form rest { state with ends := some ends }
        (front :: mark :: more, last)
  | c :: rest, state =>
      let (front, state) := if state.ends.isSome && form.numbersLines then numbered state
        else ([], state)
      let text := if c = '\r' && form.showsEnds && rest.head? = some '\n' then controlText 13
        else form.shownChar c
      let (more, last) := shown form rest { state with ends := none }
      (front :: text :: more, last)

end CatForm

def feedsItself (input : OpenFile) : Task Bool := do
  match ← Task.file? 1 with
  | none => return false
  | some output =>
      match input.target, output.target with
      | .object first, .object second =>
          let size := match (← get).world.object? second with
            | some (.file content _) => content.size
            | _ => 0
          let position := if output.append then size else output.offset
          return first = second && input.offset < position
      | _, _ => return false

/-- Prints files one behind the other; a file that is printed to is not among them. -/
def catenate : Program :=
  withOptions
    { flags := "AbeEnstTuv".toList
      long := [("number-nonblank", 'b'), ("number", 'n'), ("squeeze-blank", 's'),
        ("show-nonprinting", 'v'), ("show-ends", 'E'), ("show-tabs", 'T'), ("show-all", 'A')] }
    1 fun name given => do
      let badDescriptor := FileError.badDescriptor.reason
      let form : CatForm :=
        { numbersLines := given.has 'n' || given.has 'b'
          skipsBlank := given.has 'b'
          squeezes := given.has 's'
          showsEnds := given.has 'E' || given.has 'e' || given.has 'A'
          showsTabs := given.has 'T' || given.has 't' || given.has 'A'
          showsControls := given.has 'v' || given.has 'e' || given.has 't' || given.has 'A' }
      if (← Task.target? 1).isNone then giveUp 1 s!"{name}: standard output: {badDescriptor}"
      else
        let status ← printAll name form given.inputs {}
        if (← Task.target? 0).isNone && given.inputs.contains ['-'] then
          giveUp 1 s!"{name}: closing standard input: {badDescriptor}"
        else return status
where
  printAll (name : String) (form : CatForm) : List ByteText → CatState → Task Nat
    | [], _ => return 0
    | operand :: rest, state => do
        let failed := fun (reason : String) => do
          tell s!"{name}: {bare operand}: {reason}"
          return max 1 (← printAll name form rest state)
        let opened ← if operand = ['-'] then do
            match ← Task.file? 0 with
            | some file => pure (.ok file)
            | none => pure (.error FileError.badDescriptor)
          else Task.openPath .reading operand
        match opened with
        | .error cause => failed cause.reason
        | .ok file =>
            if ← feedsItself file then failed "input file is output file"
            else
              match ← readOperand operand with
              | .error cause => failed cause.reason
              | .ok content => do
                  let (pieces, state) := if form.isPlain then ([content], state)
                    else form.shown content state
                  Task.printNow pieces.flatten
                  if (← get).unprinted.isSome then return 1 else printAll name form rest state

def partsBetween (separator : ByteText) : Nat → ByteText → List ByteText
  | _, [] => [[]]
  | passed + 1, _ :: rest => partsBetween separator passed rest
  | 0, c :: rest =>
      if separator.isPrefixOf (c :: rest) then
        [] :: partsBetween separator (separator.length - 1) rest
      else
        match partsBetween separator 0 rest with
        | [] => [[c]]
        | part :: more => (c :: part) :: more

def recordsBackwards (separator : ByteText) (isBefore : Bool) (text : ByteText) : List ByteText :=
  -- A separator ends its record, or begins the next one. Separators are looked for from the end.
  let parts := (partsBetween separator.reverse 0 text.reverse).map List.reverse
  if isBefore then
    parts.dropLast.map (separator ++ ·) ++ parts.drop (parts.length - 1)
  else parts.take 1 ++ (parts.drop 1).map (· ++ separator)

def reverseLines : Program :=
  -- What is wrong with files is said first.
  withOptions
    { flags := ['b', 'r'], valued := ['s']
      long := [("before", 'b'), ("regex", 'r'), ("separator", 's')] } 1 fun name given => do
    let given? := given.value? 's'
    if given? = some [] && given.has 'r' then giveUp 1 s!"{name}: separator cannot be empty"
    else
      let separator := match given?.getD ['\n'] with
        | [] => ['\x00']
        | text => text
      let results ← given.inputs.mapM fun (operand : ByteText) => do
        match ← readOperand operand with
        | .ok content => return (recordsBackwards separator (given.has 'b') content, 0)
        | .error .isADirectory =>
            let reason := FileError.invalidArgument.reason
            return ([], ← giveUp 1 s!"{name}: {bare operand}: read error: {reason}")
        | .error cause =>
            let shown := quote operand
            return ([], ← giveUp 1 s!"{name}: failed to open {shown} for reading: {cause.reason}")
      Task.print (results.flatMap (·.1)).flatten
      return (results.map (·.2)).foldl max 0

def reverseChars : Program :=
  -- What is wrong with files is said first.
  withOptions
    { flags := ['0', 'V', 'h'], long := [("zero", '0')]
      usage := fun name =>
        [s!"Try '{(baseName (ByteText.ofString name)).toText} --help' for more information."] }
    1 fun name given => do
      let short := (baseName (ByteText.ofString name)).toText
      let ending := if given.has '0' then '\x00' else '\n'
      let reversed := fun (content : ByteText) =>
        (endedRecords ending content).flatMap fun record =>
          if record.getLast? = some ending then record.dropLast.reverse ++ [ending]
          else record.reverse
      if given.operands.isEmpty then
        Task.print (reversed ((← Task.read 0).toOption.getD []))
        return 0
      else
        forOperands given.operands fun operand => do
          match ← Task.readPath operand with
          | .ok content => do
              Task.print (reversed content)
              return 0
          | .error cause => do
              Task.complain s!"{short}: cannot open {operand.toText}: {cause.reason}"
              return 1

def tee : Program :=
  withOptions
    { flags := ['a', 'i', 'p'], optional := [Char.ofNat 0x1160]
      long := [("append", 'a'), ("ignore-interrupts", 'i'), ("output-error", Char.ofNat 0x1160)] }
    1 fun name given => do
      let opened ← given.operands.mapM fun (operand : ByteText) => do
        let form := if given.has 'a' then OpenForm.appending else .writing
        match ← Task.openPath form operand with
        | .ok file => return some (operand, file)
        | .error cause => do
            tell s!"{name}: {bare operand}: {cause.reason}"
            return none
      let status := if opened.all Option.isSome then 0 else 1
      match ← Task.read 0 with
      | .error cause => giveUp 1 s!"{name}: read error: {cause.reason}"
      | .ok content => do
          let printed ← if content.isEmpty then pure none else Task.writeTo 1 content
          let first ← match printed with
            | some cause => giveUp 1 s!"{name}: 'standard output': {cause.reason}"
            | none => pure 0
          let written ← (opened.filterMap id).mapM fun (operand, file) => do
            match ← Task.writeOpen file content with
            | some cause => giveUp 1 s!"{name}: {bare operand}: {cause.reason}"
            | none => return 0
          return written.foldl max (max status first)

end CallAtlas.Script.Utility
