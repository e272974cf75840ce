import CallAtlas.Script.Utility.Running

/-!
Running a command in a changed environment. An argument can hold several words, which it is
split into.
-/

namespace CallAtlas.Script.Utility

namespace Environment

structure Fault where
  lines : List String
  isMisuse : Bool := false

structure Splitting where
  words : List ByteText := []
  word : Option ByteText := none

def Splitting.add (splitting : Splitting) (text : ByteText) : Splitting :=
  { splitting with word := some (splitting.word.getD [] ++ text) }

def Splitting.finish (splitting : Splitting) : Splitting :=
  { words := splitting.words ++ splitting.word.toList }

def splitEscapes : List (Char × Char) :=
  [('"', '"'), ('#', '#'), ('$', '$'), ('\'', '\''), ('\\', '\\'), ('f', '\x0c'), ('n', '\n'),
    ('r', '\r'), ('t', '\t'), ('v', '\x0b')]

def braced (environment : List (String × ByteText)) (text : ByteText) :
    Except String (ByteText × ByteText) :=
  let isName := fun (c : Char) => c.isAlphanum || c = '_'
  match text with
  | '\x7b' :: rest =>
      let name := rest.takeWhile isName
      match rest.drop name.length with
      | '\x7d' :: behind =>
          if name.isEmpty || name.head?.any Char.isDigit then wrong
          else .ok ((environment.lookup (String.ofList name)).getD [], behind)
      | _ => wrong
  | _ => wrong
where
  wrong := .error s!"only $\x7bVARNAME\x7d expansion is supported, error at: ${text.toText}"

def split (environment : List (String × ByteText)) : Nat → Option Char → ByteText → Splitting →
    Except String (List ByteText)
  -- The bound is on the length of the text.
  | 0, _, _, splitting => .ok splitting.finish.words
  | _, some _, [], _ => .error "no terminating quote in -S string"
  | _, none, [], splitting => .ok splitting.finish.words
  | bound + 1, quote, c :: rest, splitting =>
      let go := split environment bound
      if c = '\'' && quote ≠ some '"' then
        go (if quote.isSome then none else some c) rest (splitting.add [])
      else if c = '"' && quote ≠ some '\'' then
        go (if quote.isSome then none else some c) rest (splitting.add [])
      else if Arithmetic.isSpace c && quote.isNone then go quote rest splitting.finish
      else if c = '#' && quote.isNone && splitting.word.isNone then .ok splitting.words
      else if c = '\\' && quote = some '\'' then
        match rest with
        | escaped :: behind =>
            if escaped = '\\' || escaped = '\'' then go quote behind (splitting.add [escaped])
            else go quote rest (splitting.add [c])
        | [] => go quote rest (splitting.add [c])
      else if c = '\\' then
        match rest with
        | [] => .error "invalid backslash at end of string in -S"
        | '_' :: behind =>
            if quote.isSome then go quote behind (splitting.add [' '])
            else go quote behind splitting.finish
        | 'c' :: behind =>
            if quote.isSome then .error "'\\c' must not appear in double-quoted -S string"
            else if behind.isEmpty then .ok splitting.finish.words
            else .ok splitting.finish.words
        | escaped :: behind =>
            match splitEscapes.lookup escaped with
            | some shown => go quote behind (splitting.add [shown])
            | none => .error s!"invalid sequence '\\{ByteText.toText [escaped]}' in -S"
      else if c = '$' && quote ≠ some '\'' then
        match braced environment rest with
        | .ok (value, behind) => go quote behind (splitting.add value)
        | .error complaint => .error complaint
      else go quote rest (splitting.add [c])

/-- The options. Those on signals have an optional value and change nothing. -/
def form : OptionForm where
  flags := ['i', '0', 'v', 'l', helpLetter, versionLetter]
  valued := ['u', 'C', 'S', 'a']
  optional := ['b', 'd', 'g']
  long := [("ignore-environment", 'i'), ("null", '0'), ("unset", 'u'), ("chdir", 'C'),
    ("default-signal", 'd'), ("ignore-signal", 'g'), ("block-signal", 'b'),
    ("list-signal-handling", 'l'), ("debug", 'v'), ("split-string", 'S'), ("help", helpLetter),
    ("version", versionLetter)]

def letterForm : OptionForm :=
  { form with flags := ['i', '0', 'v'], valued := ['u', 'C', 'S'], optional := [] }

/-- Reads options up to the first operand; the words of a split text take its place. -/
def readOptions (environment : List (String × ByteText)) : Nat → List ByteText → Given →
    Except Fault Given
  -- The bound is on the number of arguments.
  | 0, arguments, given => .ok { given with operands := arguments }
  | _, [], given => .ok given
  | bound + 1, first :: rest, given => do
      let read : Option (Reading (Given × List ByteText)) := match first with
        | ['-', '-'] => none
        | '-' :: '-' :: name => some (readLong form name rest given)
        | '-' :: c :: letters => some (readLetters letterForm (c :: letters) rest given)
        | _ => none
      match read with
      | none => return { given with operands := if first = ['-', '-'] then rest else first :: rest }
      | some (.error fault) => throw { lines := [fault.message], isMisuse := true }
      | some (.ok (given, rest)) =>
          match given.options.getLast? with
          | some ('S', text) =>
              match split environment (text.length + 1) none text {} with
              | .ok words =>
                  readOptions environment bound (words ++ rest)
                    { given with options := given.options.dropLast }
              | .error complaint => throw { lines := [complaint] }
          | _ => readOptions environment bound rest given

def isSetting (argument : ByteText) : Bool := argument.contains '='

def set (environment : List (String × ByteText)) (setting : ByteText) : List (String × ByteText) :=
  let name := setting.takeWhile (· ≠ '=')
  setKey (String.ofList name) (setting.drop (name.length + 1)) environment

def unset (names : List ByteText) (environment : List (String × ByteText)) :
    Except Fault (List (String × ByteText)) :=
  names.foldlM (fun environment name =>
    if name.isEmpty || name.contains '=' then
      .error { lines := [s!"cannot unset {cite name}: Invalid argument"] }
    else .ok (environment.filter fun entry => entry.1 ≠ String.ofList name)) environment

def startFault (name : String) (command : ByteText) (cause : FileError) : List String :=
  let first := s!"{name}: {cite command}: {cause.reason}"
  if cause = .notFound && command.any Arithmetic.isSpace then
    [first, s!"{name}: use -[v]S to pass options in shebang lines"]
  else [first]

def trace (given : Given) (lines : List String) : Task Unit := do
  if given.has 'v' then lines.forM Task.complain

def runIn (run : Runner) (name : String) (given : Given) (command : List ByteText) :
    Task ExitStatus := do
  let start : Task ExitStatus := do
    let shown := command.zipIdx.map fun (word, index) => s!"   arg[{index}]= {cite word}"
    trace given (s!"executing: {ByteText.toText (command.headD [])}" :: shown)
    replaceBy run (startFault name) command
  match given.value? 'C' with
  | none => start
  | some directory => do
      trace given [s!"chdir:    {quote directory}"]
      match ← known? true directory with
      | .ok known =>
          if known.object.isDirectory then
            modify (·.enter known.location)
            start
          else
            tell s!"{name}: cannot change directory to {quote directory}: Not a directory"
            return .exited 125
      | .error cause => do
          tell s!"{name}: cannot change directory to {quote directory}: {cause.reason}"
          return .exited 125

end Environment

open Environment in
def runInEnvironment : Launcher := fun run called arguments => do
  let name := called.toText
  let refused := fun (fault : Environment.Fault) => do
    fault.lines.forM fun line => tell s!"{name}: {line}"
    if fault.isMisuse then discard (hint 125 name)
    return ExitStatus.exited 125
  let inherited := (← get).environment
  let size := (arguments.map (·.length + 2)).foldr (· + ·) 0
  match readOptions inherited size arguments {} with
  | .error fault => refused fault
  | .ok given => do
      let isCleared := given.has 'i' || given.operands.head? = some ['-']
      let operands := if given.operands.head? = some ['-'] then given.operands.tail
        else given.operands
      let unsetNames := given.values 'u'
      match if isCleared then .ok [] else unset unsetNames inherited with
      | .error fault => refused fault
      | .ok kept => do
          if isCleared then trace given ["cleaning environ"]
          else trace given (unsetNames.map fun name => s!"unset:    {name.toText}")
          let settings := operands.takeWhile isSetting
          let command := operands.dropWhile isSetting
          trace given (settings.map fun setting => s!"setenv:   {setting.toText}")
          let environment := settings.foldl set kept
          if given.has helpLetter || given.has versionLetter then return .exited 0
          else if given.has '0' && !command.isEmpty then
            refused { lines := ["cannot specify --null (-0) with command"], isMisuse := true }
          else if (given.value? 'C').isSome && command.isEmpty then
            refused { lines := ["must specify command with --chdir (-C)"], isMisuse := true }
          else if command.isEmpty then
            let lines := environment.map fun (name, value) => name.toList ++ '=' :: value
            Task.print (joinRecords (if given.has '0' then '\x00' else '\n') lines)
            return .exited 0
          else
            modify fun process => { process with environment }
            runIn run name given command

end CallAtlas.Script.Utility
