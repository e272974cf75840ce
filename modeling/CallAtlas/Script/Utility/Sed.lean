import CallAtlas.Script.Utility.Sed.Editing

/-!
The stream editor as a program: its options, and what it edits.
-/

namespace CallAtlas.Script.Utility.Sed

structure Piece where
  text : ByteText
  file : Option ByteText := none

def placeOf : Nat → List Piece → Nat → String
  | number, piece :: rest, place =>
      let number := if piece.file.isNone then number + 1 else number
      if place ≤ piece.text.length || rest.isEmpty then
        match piece.file with
        | none => s!"-e expression #{number}, char {place}"
        | some file =>
            let line := (piece.text.take place).count '\n' + 1
            s!"file {file.toText} line {line}"
      else placeOf number rest (place - piece.text.length - 1)
  | number, [], place => s!"-e expression #{number}, char {place}"

def Fault.message (fault : Fault) (pieces : List Piece) : String :=
  let size := (ByteText.join ['\n'] (pieces.map (·.text))).length
  let place := match fault.left with
    | some left => placeOf 0 pieces (size - left)
    | none =>
        match (pieces.getLast?.bind (·.file)) with
        | some file => s!"file {file.toText} line 0"
        | none => s!"-e expression #{pieces.length}, char 0"
  s!"{place}: {fault.complaint}"

structure Call where
  name : String
  form : Form
  commands : List Command
  isSeparate : Bool := false

def Call.edit (call : Call) (inputs : List Input) (editor : Editor) :
    Task (Except (Nat × Stop) Nat × Editor) := do
  let (result, after) ←
    ((runLines call.form maxSteps (10 * maxSteps) true).run { editor with rest := inputs })
  match result with
  | .ok status => return (.ok status, after)
  | .error stop => return (.error (1, stop), after)

def stopMessage : Stop → String
  | .noExpression => "-e expression #1, char 0: no previous regular expression"
  | .noLabel name => s!"can't find label for jump to \x60{name.toText}'"

/-- The contents of operands, up to one that cannot be read though it is there. -/
def readAll (name : String) : List ByteText → Task (List (ByteText × ByteText) × Nat × Bool)
  -- Others that cannot be read are complained about.
  | [] => return ([], 0, false)
  | operand :: rest => do
      match ← readOperand operand with
      | .ok content => do
          let (more, status, fails) ← readAll name rest
          return ((operand, content) :: more, status, fails)
      | .error .isADirectory => do
          Task.complain
            s!"{name}: read error on {operand.toText}: {FileError.isADirectory.reason}"
          return ([], 4, true)
      | .error cause => do
          let reason := if operand = ['-'] then s!"read error on stdin: {cause.reason}"
            else s!"can't read {operand.toText}: {cause.reason}"
          Task.complain s!"{name}: {reason}"
          let (more, status, fails) ← readAll name rest
          return (more, max 2 status, fails)

def Call.print (call : Call) (operands : List ByteText) : Task Nat := do
  let (contents, status, _) ← readAll call.name operands
  let inputs := inputsOf call.form.ending call.isSeparate contents
  let (result, after) ← call.edit inputs { ranges := initialRanges call.commands }
  Task.print after.printed.text
  match result with
  | .ok code => return if code ≠ 0 then code else status
  | .error (code, stop) => giveUp code s!"{call.name}: {stopMessage stop}"

def backupName (suffix path : ByteText) : ByteText :=
  let base := baseName path
  if suffix.contains '*' then
    let name := suffix.flatMap fun c => if c = '*' then base else [c]
    if name.contains '/' then name else path.take (path.length - base.length) ++ name
  else path ++ suffix

def Call.replace (call : Call) (suffix : ByteText) : List ByteText → Editor → Task Nat
  | [], _ => return 0
  | operand :: rest, editor => do
      match ← known? true operand with
      | .error cause => do
          Task.complain s!"{call.name}: can't read {operand.toText}: {cause.reason}"
          return max 2 (← Call.replace call suffix rest editor)
      | .ok known =>
          match known.object with
          | .file content attributes => do
              let text := ByteText.ofBytes content
              let inputs := inputsOf call.form.ending true [(operand, text)]
              let (result, after) ← call.edit inputs { editor with printed := {}, lacksEnd := false }
              match result with
              | .error (code, stop) => giveUp code s!"{call.name}: {stopMessage stop}"
              | .ok code => do
                  unless suffix.isEmpty do
                    discard (Task.attempt (·.rename operand.toPath (backupName suffix operand).toPath))
                  let files ← Task.files
                  let left := ByteText.join [] ((after.rest).map fun input =>
                    input.text ++ (if input.isEnded then [call.form.ending] else []))
                  let edited := ByteText.toBytes (after.printed.text ++ left)
                  let fresh := { attributes with identity := none }
                  Task.setFiles (files.put known.location (.file edited fresh))
                  if code ≠ 0 then return code
                  Call.replace call suffix rest { after with rest := [] }
          | _ => do
              Task.complain s!"{call.name}: couldn't edit {operand.toText}: not a regular file"
              return max 4 (← Call.replace call suffix rest editor)

def options : OptionForm where
  flags := "bnErsuz".toList ++ [Char.ofNat 0x11d0]
  valued := ['e', 'f', 'l']
  optional := ['i']
  long := [("binary", 'b'), ("debug", Char.ofNat 0x11d0), ("expression", 'e'), ("file", 'f'),
    ("follow-symlinks", Char.ofNat 0x11d0), ("in-place", 'i'), ("line-length", 'l'),
    ("null-data", 'z'), ("quiet", 'n'), ("posix", Char.ofNat 0x11d0), ("regexp-extended", 'E'),
    ("sandbox", Char.ofNat 0x11d0), ("separate", 's'), ("silent", 'n'), ("unbuffered", 'u'),
    ("zero-terminated", 'z')]
  usage := fun name =>
    [s!"Usage: {name} [OPTION]... \x7bscript-only-if-no-other-script\x7d [input-file]..."]

def piecesOf (name : String) (given : Given) : Task (Except Nat (List Piece)) := do
  let pieces ← (given.options.filter fun option => option.1 = 'e' || option.1 = 'f').mapM
    fun (letter, value) => do
      if letter = 'e' then return Except.ok { text := value : Piece }
      else
        match ← readOperand value with
        | .ok content =>
            let text := if content.getLast? = some '\n' then content.dropLast else content
            return .ok { text, file := some value }
        | .error .isADirectory => return .ok { text := [], file := some value }
        | .error cause => return .error (value, cause)
  let failure := pieces.findSome? fun piece =>
    match piece with
    | .error failure => some failure
    | .ok _ => none
  match failure with
  | some (path, cause) => do
      Task.complain s!"{name}: couldn't open file {path.toText}: {cause.reason}"
      return .error 4
  | none => return .ok (pieces.filterMap Except.toOption)

def program : Program :=
  withOptions options 1 fun name given => do
    match ← piecesOf name given with
    | .error status => return status
    | .ok given' =>
        let (pieces, operands) := match given', given.operands with
          | [], script :: rest => ([{ text := script : Piece }], rest)
          | pieces, operands => (pieces, operands)
        if pieces.isEmpty then
          (options.usage name).forM Task.complain
          return 1
        else
          let script := ByteText.join ['\n'] (pieces.map (·.text))
          let isExtended := given.has 'E' || given.has 'r'
          match parse { isExtended } script with
          | .error fault => giveUp 1 s!"{name}: {fault.message pieces}"
          | .ok commands => do
              match missingLabel? commands with
              | some label => giveUp 4 s!"{name}: {stopMessage (.noLabel label)}"
              | none => do
                  (writtenFiles commands).forM fun path => do
                    unless path.take 5 = "/dev/".toList do
                      discard (Task.writePath .writing path [])
                  let isMarked := script.take 2 = ['#', 'n'] && script[2]?.all (· = '\n')
                  let isSeparate := given.has 's' || given.has 'i'
                  let call : Call :=
                    { name, commands, isSeparate
                      form :=
                        { commands := commands.toArray
                          isQuiet := given.has 'n' || isMarked
                          ending := if given.has 'z' then '\x00' else '\n'
                          width := ((given.value? 'l').map fun width =>
                            (Arithmetic.digits 10 width).1).getD 70 } }
                  if given.has 'i' then
                    call.replace ((given.value? 'i').getD []) operands
                      { ranges := initialRanges commands }
                  else call.print (if operands.isEmpty then [['-']] else operands)

end CallAtlas.Script.Utility.Sed
