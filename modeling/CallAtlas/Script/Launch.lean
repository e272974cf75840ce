import CallAtlas.Script.Subshell
import CallAtlas.Script.Utility.Table

/-!
Starting programs. A program file is a script that names its interpreter on its first
line, or a utility of the machine, which its content tells.
-/

namespace CallAtlas.Script

def utilityMark : ByteText := ['\x7f', 'E', 'L', 'F']

def utilityContent (name : String) : ByteArray :=
  ByteText.toBytes (utilityMark ++ name.toList)

def utilityName? (content : ByteText) : Option String :=
  if utilityMark.isPrefixOf content then some (String.ofList (content.drop utilityMark.length))
  else none

def shells : List String := ["sh", "dash"]

def isBlankChar (c : Char) : Bool := c = ' ' || c = '\t'

def headSize : Nat := 256

def endsPath (c : Char) : Bool := isBlankChar c || c = '\x00'

def interpreterLine? (content : ByteText) : Option ByteText :=
  -- What is looked at is as long as `headSize`, with zero bytes behind a shorter file. A line that
  -- ends there loses the blanks at its end; one that goes on lends only what is looked at, unless
  -- its path may go on too.
  let padding := List.replicate (headSize - content.length) '\x00'
  let line := (content.take headSize ++ padding).drop 2
  let withoutBlanks := fun (text : ByteText) => (text.reverse.dropWhile isBlankChar).reverse
  let ended := line.takeWhile fun c => c ≠ '\n' && c ≠ '\x00'
  if (line.drop ended.length).head? = some '\n' then some (withoutBlanks ended)
  else
    match line.dropWhile isBlankChar with
    | [] => none
    | path => if path.any endsPath then some (withoutBlanks line.dropLast ++ ['\x00']) else none

/-- The interpreter that the first line of a script names, with its one argument. -/
def interpreter? (content : ByteText) : Option (ByteText × List ByteText) := do
  -- Both may be empty if the line lacks its end.
  let line := (← interpreterLine? content).dropWhile isBlankChar
  let path := line.takeWhile (!endsPath ·)
  let argument := (line.drop path.length).dropWhile isBlankChar
  if line.isEmpty then none
  else if argument.length = (line.drop path.length).length then some (path, [])
  else some (path, [argument.takeWhile (· ≠ '\x00')])

def isScript (content : ByteText) : Bool :=
  ['#', '!'].isPrefixOf content

structure ShellOptions where
  letters : List Char := []
  isCommand : Bool := false
  operands : List ByteText := []

def ShellOptions.switch (options : ShellOptions) (on : Bool) (letter : Char) : ShellOptions :=
  let others := options.letters.filter (· ≠ letter)
  { options with letters := if on then others ++ [letter] else others }

/-- Reads letters of options; one of them takes the name of an option from the next argument. -/
def shellLetters (on : Bool) : List Char → List ByteText → ShellOptions →
    Except String (ShellOptions × List ByteText)
  | [], rest, options => .ok (options, rest)
  | letter :: more, rest, options =>
      if letter = 'c' then shellLetters on more rest { options with isCommand := true }
      else if letter = 'l' then shellLetters on more rest options
      else if letter = 'o' then
        match rest with
        | [] => shellLetters on more [] options
        | name :: rest =>
            match optionNames.lookup name.toText with
            | some named => shellLetters on more rest (options.switch on named)
            | none => .error s!"Illegal option -o {name.toText}"
      else if optionLetters.contains letter then
        shellLetters on more rest (options.switch on letter)
      else .error s!"Illegal option -{letter}"

/-- Reads the options of a shell; the bound is on the number of arguments. -/
def shellOptions : Nat → List ByteText → ShellOptions → Except String ShellOptions
  | 0, rest, options => .ok { options with operands := rest }
  | _, [], options => .ok options
  | bound + 1, first :: rest, options =>
      match first with
      | ['-'] => .ok { options with operands := rest }
      | ['-', '-'] => .ok { options with operands := rest }
      | '-' :: letters => do
          let (options, rest) ← shellLetters true letters rest options
          shellOptions bound rest options
      | '+' :: letters => do
          let (options, rest) ← shellLetters false letters rest options
          shellOptions bound rest options
      | _ => .ok { options with operands := first :: rest }

def standardSearchPath : String := "/usr/sbin:/usr/bin:/sbin:/bin"

def defaultSearchPath : String := "/usr/local/sbin:/usr/local/bin:/usr/sbin:/usr/bin:/sbin:/bin"

def toldDirectory? (process : Process) : Option ByteText :=
  let told := (process.environment.lookup "PWD").getD []
  match told, process.files.find told.toPath true with
  | '/' :: _, .ok (.present location _) =>
      if location = process.workingDirectory then some told else none
  | _, _ => none

def startDirectory (process : Process) : ByteText :=
  (toldDirectory? process).getD (pathOf process.workingDirectory)

def initialVariables (process : Process) : List (String × Variable) :=
  let given := process.environment.map fun (name, value) =>
    (name, { value := some value, exported := true : Variable })
  let own := [("IFS", Shell.defaultSeparators), ("OPTIND", ['1']), ("PS1", ['$', ' ']),
    ("PS2", ['>', ' ']), ("PS4", ['+', ' ']), ("PATH", defaultSearchPath.toList),
    ("PPID", Shell.number (process.ancestors.head?.getD (process.world.nextProcess - 1)))]
  let all := own.foldl (fun all (name, value) =>
    if (all.lookup name).isSome && name ≠ "IFS" then all
    else setKey name { value := some value : Variable } all) given
  setKey "PWD" { value := some (startDirectory process), exported := true : Variable } all

namespace Evaluator

abbrev Ended := ExitStatus × World

def runScript (evaluator : Evaluator) (process : Process) (options : List Char) (name : ByteText)
    (arguments : List ByteText) (script : Action Unit) : Ended :=
  let number := process.world.nextProcess
  let held := initialVariables process
  let process := { process with
    world := { process.world with nextProcess := number + 1 }
    ancestors := number :: process.ancestors }
  let shell : Shell :=
    { process, name, arguments, options, bindings := held
      directory := startDirectory process
      physical? := if (toldDirectory? process).isSome then none else some (startDirectory process)
      scriptProcess := number, ownProcess := number }
  let (result, after) := script.run shell
  let (status, last) := evaluator.finish result after
  (status, last.process.world)

def runShell (evaluator : Evaluator) (process : Process) (called : ByteText)
    (arguments : List ByteText) : Ended :=
  let failed := fun (message : String) =>
    let (_, after) := (Task.complain s!"{called.toText}: 0: {message}").run process
    (ExitStatus.exited 2, after.world)
  match shellOptions (arguments.length + 1) arguments {} with
  | .error message => failed message
  | .ok options =>
      let readsInput := options.letters.contains 's' || options.operands.isEmpty
      if options.isCommand then
        match options.operands with
        | [] => failed "-c requires an argument"
        | [text] =>
            evaluator.runScript process options.letters called [] (evaluator.runOnly text)
        | text :: name :: rest =>
            evaluator.runScript process options.letters name rest (evaluator.runOnly text)
      else if readsInput then
        let letters := 's' :: options.letters.filter (· ≠ 's')
        evaluator.runScript process letters called options.operands do
          evaluator.runFile (← Action.ofTask (Task.readAll 0))
      else
        match options.operands with
        | [] => failed "-c requires an argument"
        | script :: rest =>
            match process.files.read script.toPath with
            | .ok content =>
                evaluator.runScript process options.letters script rest
                  (evaluator.runFile (ByteText.ofBytes content))
            | .error .isADirectory =>
                evaluator.runScript process options.letters script rest (evaluator.runFile [])
            | .error cause => failed (openFault script false cause)

def candidates (directories : ByteText) (name : ByteText) : List ByteText :=
  (ByteText.split ':' directories).map fun directory =>
    if directory.isEmpty then name else directory ++ '/' :: name

/-- The paths at which a program of a name may stand; a name with a slash is a path itself. -/
def programPaths (directories name : ByteText) : List ByteText :=
  if name.contains '/' then [name] else candidates directories name

def isMissing (cause : FileError) : Bool := cause = .notFound || cause = .notADirectory

/-- The first place among some paths, counted from the given one, at which a program stands. -/
def findPlace (files : FileSystem) (known? : Option Nat) :
    Nat → FileError → List ByteText → Except FileError Nat
  -- A program that was found before the working directory changed is known to be at its place if
  -- the path there starts at the root, and at no such path before it.
  | _, cause, [] => .error cause
  | place, cause, path :: rest =>
      if path.head? = some '/' && known?.any (place ≤ ·) then
        if known? = some place then .ok place else findPlace files known? (place + 1) cause rest
      else
        match files.stat path.toPath with
        | .ok file =>
            if file.isProgram then .ok place
            else findPlace files known? (place + 1) .permissionDenied rest
        | .error other =>
            findPlace files known? (place + 1) (if isMissing other then cause else other) rest

/-- Looks for a program in some directories: the path at which it was found and those behind it. -/
def locateProgram (directories name : ByteText) : Action (Except FileError (List ByteText)) := do
  -- What is found on the search path is remembered, and not looked for again.
  let shell ← get
  let text := String.ofList name
  let paths := programPaths directories name
  if name.contains '/' then return .ok paths
  else
    let isUsual := decide (directories = (shell.value? "PATH").getD [])
    let held? := if isUsual then shell.located.lookup text else none
    let look := fun known? => findPlace shell.process.files known? 0 .notFound paths
    let found := match held? with
      | some held => if held.isStale then look (some held.place) else .ok held.place
      | none => look none
    if isUsual then
      match found with
      | .ok place => set { shell with located := setKey text { place } shell.located }
      | .error _ => set { shell with located := shell.located.filter (·.1 ≠ text) }
    return found.map paths.drop

/-- Starts a program in a process: the file at a path, the name it is called by, and its
arguments. -/
abbrev Start := Process → ByteText → ByteText → List ByteText → Except FileError Ended

def startFault (cause : FileError) : String :=
  if isMissing cause then "not found" else cause.reason

def startFirst (start : ByteText → Except FileError Ended) :
    FileError → List ByteText → Except FileError Ended
  -- If there is none, the last cause that tells more than that a file is missing counts.
  | cause, [] => .error cause
  | cause, path :: rest =>
      match start path with
      | .ok ended => .ok ended
      | .error other => startFirst start (if isMissing other then cause else other) rest

def fallbackPath : String := "/bin:/usr/bin"

def runner (start : Start) : Utility.Runner := fun command => do
  match command with
  | [] => return .ok (.exited 0)
  | [] :: _ => return .error .notFound
  | name :: rest => do
      let process ← get
      let directories := (process.environment.lookup "PATH").getD fallbackPath.toList
      let child := { process with printed := {}, unprinted := none }
      match startFirst (start child · name rest) .notFound (programPaths directories name) with
      | .ok (status, world) => do
          set { process with world }
          return .ok status
      | .error cause => return .error cause

def lossOf (isOpen : Bool) (before after : Option FileError) : Option Utility.Loss :=
  -- What is printed last tells the cause.
  match before, after with
  | none, none => none
  | some cause, none => some { cause, isFresh := !isOpen }
  | _, some cause => some { cause, isFresh := true }

/-- Runs a utility to its end; that results could not be printed is said. -/
def runToEnd (utility : String) (called : ByteText) (body : Task ExitStatus) : Task ExitStatus := do
  modify fun process => { process with printed := {}, unprinted := none }
  let status ← body
  let before := (← get).unprinted
  modify fun process => { process with unprinted := none }
  Task.flush
  match lossOf (← Task.target? 1).isSome before (← get).unprinted with
  | none => return status
  | some loss => do
      let (lines, status) := loss.report utility called.toText
      lines.forM Task.complain
      return .exited status

def utilityTask? (start : Start) (utility : String) (called : ByteText)
    (arguments : List ByteText) : Option (Task ExitStatus) :=
  match Utility.launchers.lookup utility with
  | some launcher => some (launcher (runner start) called arguments)
  | none =>
      (Utility.programs.lookup utility).map fun program => do
        return .exited ((← program called arguments) % 256)

def runUtility (evaluator : Evaluator) (start : Start) (process : Process) (utility : String)
    (called : ByteText) (arguments : List ByteText) : Except FileError Ended :=
  if shells.contains utility then .ok (evaluator.runShell process called arguments)
  else
    match utilityTask? start utility called arguments with
    | none => .error .badFormat
    | some body =>
        let (status, after) := (runToEnd utility called body).run process
        .ok (status, after.world)

/-- Starts a program file. -/
def start (evaluator : Evaluator) : Nat → Start
  -- Interpreters can be scripts themselves, so deep at most.
  | 0, _, _, _, _ => .error .tooManyLinks
  | depth + 1, process, path, called, arguments => do
      match ← process.files.stat path.toPath with
      | .file content attributes =>
          unless attributes.grants .execute do throw .permissionDenied
          let content := ByteText.ofBytes content
          match utilityName? content with
          | some utility =>
              let inner := fun (process : Process) (path called : ByteText)
                  (arguments : List ByteText) =>
                match start evaluator depth process path called arguments with
                | .error .badFormat =>
                    .ok (evaluator.runShell process "/bin/sh".toList (path :: arguments))
                | result => result
              evaluator.runUtility inner process utility called arguments
          | none =>
              if !isScript content then throw .badFormat
              else
                match interpreter? content with
                | none => throw .badFormat
                | some (interpreter, argument) =>
                    if interpreter.isEmpty then throw .permissionDenied
                    start evaluator depth process interpreter interpreter
                      (argument ++ path :: arguments)
      | _ => throw .permissionDenied

def maxInterpreters : Nat := 6

def startFile (evaluator : Evaluator) : Start := fun process path called arguments =>
  match evaluator.start maxInterpreters process path called arguments with
  | .error .badFormat => .ok (evaluator.runShell process path (path :: arguments))
  | result => result

end Evaluator

end CallAtlas.Script
