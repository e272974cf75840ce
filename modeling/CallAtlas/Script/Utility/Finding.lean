import CallAtlas.Script.Format
import CallAtlas.Script.Regex
import CallAtlas.Script.Signal
import CallAtlas.Script.Utility.Modes
import CallAtlas.Script.Utility.Names

/-!
Finding files: tests and actions, joined to one expression, are tried on everything at and
below some paths.
-/

namespace CallAtlas.Script.Utility

/-- Starts a command by its name and arguments; the answer is how it ended, unless it could not be
started. -/
abbrev Runner := List ByteText → Task (Except FileError ExitStatus)

namespace Finding

inductive Bound where
  | equal (value : Nat)
  | more (value : Nat)
  | less (value : Nat)

def Bound.holds (bound : Bound) (value : Nat) : Bool :=
  match bound with
  | equal other => value = other
  | more other => other < value
  | less other => value < other

def Bound.parse? (text : ByteText) : Option Bound :=
  let number := fun (digits : ByteText) =>
    if !digits.isEmpty && digits.all Char.isDigit then some (Arithmetic.digits 10 digits).1
    else none
  match text with
  | '+' :: digits => (number digits).map more
  | '-' :: digits => (number digits).map less
  | digits => (number digits).map equal

inductive ModeTest where
  | exactly
  | allOf
  | anyOf
  deriving DecidableEq

inductive Test where
  | constant (value : Bool)
  | name (pattern : ByteText) (ignoresCase : Bool)
  | path (pattern : ByteText) (ignoresCase : Bool)
  | linkTarget (pattern : ByteText) (ignoresCase : Bool)
  | matching (regex : Regex) (ignoresCase : Bool)
  | kind (letters : List Char) (throughLinks : Bool)
  | isEmpty
  | size (bound : Bound) (unit : Nat)
  | mode (test : ModeTest) (bits : Nat)
  | right (right : Right)
  | names (bound : Bound)
  | age (bound : Bound)
  | sameAs (known : Known)
  | prune
  | quit
  | print (ending : Char)
  | format (text : ByteText)
  | delete
  | execute (asks : Bool) (words : List ByteText)
  | executeAll (number : Nat) (words : List ByteText)

def Test.isAction : Test → Bool
  | print _ => true
  | format _ => true
  | delete => true
  | execute .. => true
  | executeAll .. => true
  | _ => false

inductive Token where
  | test (test : Test)
  | negation (word : ByteText)
  | conjunction (word : ByteText)
  | disjunction (word : ByteText)
  | comma
  | opening
  | closing

inductive Query where
  | test (test : Test)
  | negation (query : Query)
  | conjunction (first second : Query)
  | disjunction (first second : Query)
  | sequence (first second : Query)

structure Scope where
  minDepth : Nat := 0
  maxDepth : Option Nat := none
  isDepthFirst : Bool := false
  followsLinks : Bool := false
  followsOperands : Bool := false

structure Parsed where
  tokens : List Token := []
  scope : Scope := {}
  batches : Nat := 0
  last? : Option ByteText := none
  spelling? : Option Regex.Spelling := none

def Parsed.add (parsed : Parsed) (test : Test) : Parsed :=
  { parsed with tokens := parsed.tokens ++ [.test test] }

structure Complaint where
  text : String
  guess? : Option String := none

abbrev Parsing := ExceptT Complaint Task

def refuse {α : Type} (text : String) : Parsing α := throw { text }

def accept {α : Type} (result : Except String α) : Parsing α :=
  match result with
  | .ok value => return value
  | .error text => refuse text

def kinds? (option : String) (text : ByteText) : Except String (List Char) :=
  let pieces := ByteText.split ',' text
  if pieces.all fun piece => piece.length = 1 && piece.all ("bcdpflsD".toList.contains ·) then
    .ok pieces.flatten
  else if text.isEmpty then .error s!"Arguments to {option} should contain at least one letter"
  else
    match (pieces.find? fun piece => piece.length ≠ 1).bind (·.head?) with
    | some c =>
        if "bcdpflsD".toList.contains c then
          .error s!"Must separate multiple arguments to {option} using: ','"
        else .error s!"Unknown argument to {option}: {c}"
    | none =>
        let wrong := (pieces.flatten.find? fun c => !("bcdpflsD".toList.contains c)).getD ' '
        .error s!"Unknown argument to {option}: {wrong}"

def unit? (c : Char) : Option Nat :=
  match c with
  | 'b' => some 512
  | 'c' => some 1
  | 'w' => some 2
  | 'k' => some 1024
  | 'M' => some (1024 * 1024)
  | 'G' => some (1024 * 1024 * 1024)
  | _ => none

def size? (text : ByteText) : Except String Test :=
  let last := text.getLast?.getD ' '
  let (number, unit) := if last.isDigit then (text, some 512) else (text.dropLast, unit? last)
  if text.isEmpty then .error "invalid null argument to -size"
  else
    match unit, Bound.parse? number with
    | none, _ => .error s!"invalid -size type \x60{last}'"
    | some _, none => .error s!"Invalid argument \x60{text.toText}' to -size"
    | some unit, some bound => .ok (.size bound unit)

def mode? (text : ByteText) : Except String Test :=
  let (test, rest) := match text with
    | '-' :: rest => (ModeTest.allOf, rest)
    | '/' :: rest => (ModeTest.anyOf, rest)
    | rest => (ModeTest.exactly, rest)
  match Mode.parse? rest with
  | some mode => .ok (.mode test (mode.apply false 0 0))
  | none => .error s!"invalid mode {cite text}"

def plainTest? (word : String) : Option Test :=
  match word with
  | "-true" => some (.constant true)
  | "-false" => some (.constant false)
  | "-empty" => some .isEmpty
  | "-readable" => some (.right .read)
  | "-writable" => some (.right .write)
  | "-executable" => some (.right .execute)
  | "-prune" => some .prune
  | "-quit" => some .quit
  | "-print" => some (.print '\n')
  | "-print0" => some (.print '\x00')
  | "-delete" => some .delete
  | "-nouser" => some (.constant false)
  | "-nogroup" => some (.constant false)
  | _ => none

def valuedWords : List String :=
  ["-name", "-iname", "-path", "-wholename", "-ipath", "-iwholename", "-lname", "-ilname", "-type",
    "-xtype", "-size", "-perm", "-links", "-mtime", "-atime", "-ctime", "-mmin", "-amin", "-cmin",
    "-regex", "-iregex", "-samefile", "-newer", "-anewer", "-cnewer", "-printf", "-maxdepth", "-mindepth",
    "-regextype"]

def idleWords : List String :=
  ["-xdev", "-mount", "-noleaf", "-ignore_readdir_race", "-noignore_readdir_race", "-daystart",
    "-warn", "-nowarn"]

def reference (scope : Scope) (path : ByteText) : Parsing Known := do
  match ← known? scope.followsLinks path with
  | .ok known => return known
  | .error cause => refuse s!"{cite path}: {cause.reason}"

/-- The spellings of regular expressions by their names. -/
def spellings : List (String × Option Regex.Spelling) :=
  -- The first two have operators without a backslash for repetitions only.
  let basic : Regex.Spelling := {}
  let extended : Regex.Spelling := { isExtended := true, isLoose := true }
  [("findutils-default", none), ("ed", some basic), ("emacs", none), ("gnu-awk", some extended),
    ("grep", some basic), ("posix-awk", some extended), ("awk", some extended),
    ("posix-basic", some basic), ("posix-egrep", some extended), ("egrep", some extended),
    ("posix-extended", some extended), ("posix-minimal-basic", some basic), ("sed", some basic)]

/-- An expression with operators without a backslash for repetitions only, in the extended
spelling. -/
def extendedText : Nat → ByteText → ByteText
  -- The bound is on its length.
  | 0, _ => []
  | _, [] => []
  | bound + 1, c :: rest =>
      match c, rest with
      | '\\', next :: rest =>
          if "()|".toList.contains next then next :: extendedText bound rest
          else '\\' :: next :: extendedText bound rest
      | '[', _ =>
          let inside := if rest.head? = some '^' then rest.drop 1 else rest
          match Regex.members (inside.length + 1) true (fun _ => false) inside with
          | .ok (_, behind) =>
              c :: rest.take (rest.length - behind.length) ++ extendedText bound behind
          | .error _ => c :: rest
      | _, _ =>
          if "()|\x7b\x7d".toList.contains c then '\\' :: c :: extendedText bound rest
          else c :: extendedText bound rest

def wholeRegex (parsed : Parsed) (text : ByteText) : Parsing Regex := do
  let result := match parsed.spelling? with
    | some spelling => Regex.parse spelling text
    | none => Regex.parse { isExtended := true, isLoose := true } (extendedText text.length text)
  match result with
  | .ok regex => return .sequence .lineStart (.sequence regex .lineEnd)
  | .error fault =>
      let reason := match fault with
        | .unmatchedBracket => "Invalid regular expression"
        | other => other.message
      refuse s!"failed to compile regular expression {cite text}: {reason}"

def readValued (word : String) (value : ByteText) (parsed : Parsed) : Parsing Parsed := do
  let lift := fun (result : Except String Test) => do return parsed.add (← accept result)
  let depth := fun (set : Nat → Scope) =>
    if !value.isEmpty && value.all Char.isDigit then
      return { parsed with scope := set (Arithmetic.digits 10 value).1, tokens := parsed.tokens ++ [Token.test (.constant true)] }
    else
      refuse s!"Expected a positive decimal integer argument to {word}, but got {cite value}"
  let bounded := fun (test : Bound → Test) =>
    match Bound.parse? value with
    | some bound => return parsed.add (test bound)
    | none => refuse s!"invalid argument \x60{value.toText}' to \x60{word}'"
  match word with
  | "-name" => return parsed.add (.name value false)
  | "-iname" => return parsed.add (.name value true)
  | "-path" => return parsed.add (.path value false)
  | "-wholename" => return parsed.add (.path value false)
  | "-ipath" => return parsed.add (.path value true)
  | "-iwholename" => return parsed.add (.path value true)
  | "-lname" => return parsed.add (.linkTarget value false)
  | "-ilname" => return parsed.add (.linkTarget value true)
  | "-type" => return parsed.add (.kind (← accept (kinds? word value)) false)
  | "-xtype" => return parsed.add (.kind (← accept (kinds? word value)) true)
  | "-size" => lift (size? value)
  | "-perm" => lift (mode? value)
  | "-links" => bounded .names
  | "-maxdepth" => depth fun size => { parsed.scope with maxDepth := some size }
  | "-mindepth" => depth fun size => { parsed.scope with minDepth := size }
  | "-printf" => return parsed.add (.format value)
  | "-samefile" => return parsed.add (.sameAs (← reference parsed.scope value))
  | "-newer" => do
      discard (reference parsed.scope value)
      return parsed.add (.constant false)
  | "-anewer" => do
      discard (reference parsed.scope value)
      return parsed.add (.constant false)
  | "-cnewer" => do
      discard (reference parsed.scope value)
      return parsed.add (.constant false)
  | "-regex" => return parsed.add (.matching (← wholeRegex parsed value) false)
  | "-iregex" => return parsed.add (.matching (← wholeRegex parsed value) true)
  | "-regextype" => do
      match spellings.lookup value.toText with
      | some spelling? => return { parsed.add (.constant true) with spelling? }
      | none =>
          let names := ", ".intercalate (spellings.map fun entry => "'" ++ entry.1 ++ "'")
          refuse (s!"Unknown regular expression type {cite value}; valid types are " ++ names ++ ".")
  | _ => bounded .age

def readCommand (word : String) (arguments : List ByteText) (parsed : Parsed) :
    Parsing (Parsed × List ByteText) := do
  let endsAll := fun (index : Nat) =>
    arguments[index]? = some ['+'] && 0 < index && arguments[index - 1]? = some ['\x7b', '\x7d'] &&
      word = "-exec"
  let ending := (List.range arguments.length).find? fun index =>
    arguments[index]? = some [';'] || endsAll index
  match ending with
  | none => refuse s!"missing argument to \x60{word}'"
  | some size =>
      let words := arguments.take size
      let rest := arguments.drop (size + 1)
      if words.isEmpty then refuse s!"invalid argument \x60;' to \x60{word}'"
      else if endsAll size then
        return ({ parsed.add (.executeAll parsed.batches words.dropLast) with
          batches := parsed.batches + 1 }, rest)
      else return (parsed.add (.execute (word = "-ok") words), rest)

/-- Reads the words of an expression; the bound is on their number. -/
def readWords : Nat → List ByteText → Parsed → Parsing Parsed
  | 0, _, parsed => return parsed
  | _, [], parsed => return parsed
  | bound + 1, first :: rest, before => do
      let word := first.toText
      let parsed := { before with last? := some first }
      let next := fun (token : Token) =>
        readWords bound rest { parsed with tokens := parsed.tokens ++ [token] }
      match word with
      | "(" => next .opening
      | ")" => next .closing
      | "," => next .comma
      | "!" => next (.negation first)
      | "-not" => next (.negation first)
      | "-a" => next (.conjunction first)
      | "-and" => next (.conjunction first)
      | "-o" => next (.disjunction first)
      | "-or" => next (.disjunction first)
      | _ =>
          if first.head? ≠ some '-' || first = ['-'] then
            let isThere := (← known? true first).isOk
            let guess? := (before.last?.filter fun _ => isThere).map fun last =>
              s!"possible unquoted pattern after predicate \x60{last.toText}'?"
            throw { text := s!"paths must precede expression: \x60{word}'", guess? }
          else if ["-exec", "-ok", "-execdir", "-okdir"].contains word then
            let (parsed, rest) ← readCommand word rest parsed
            readWords bound rest parsed
          else if ["-depth", "-d"].contains word then
            let scope := { parsed.scope with isDepthFirst := true }
            readWords bound rest { parsed.add (.constant true) with scope }
          else if word = "-follow" then
            let scope := { parsed.scope with followsLinks := true, followsOperands := true }
            readWords bound rest { parsed.add (.constant true) with scope }
          else if idleWords.contains word then readWords bound rest (parsed.add (.constant true))
          else if valuedWords.contains word then
            match rest with
            | [] => refuse s!"missing argument to \x60{word}'"
            | value :: rest => readWords bound rest (← readValued word value parsed)
          else
            match plainTest? word with
            | none => refuse s!"unknown predicate \x60{word}'"
            | some test =>
                let scope := match test with
                  | .delete => { parsed.scope with isDepthFirst := true }
                  | _ => parsed.scope
                readWords bound rest { parsed.add test with scope }

def operandFault (behind : Option ByteText) (tokens : List Token) : String :=
  let binary := fun (word : ByteText) =>
    s!"invalid expression; you have used a binary operator '{word.toText}' with nothing before it."
  match tokens.head?, behind with
  | some (.conjunction word), _ => binary word
  | some (.disjunction word), _ => binary word
  | some .comma, _ => binary [',']
  | some .closing, some ['('] => "invalid expression; empty parentheses are not allowed."
  | some .closing, none => "you have too many ')'"
  | some .closing, some word => s!"expected an expression between '{word.toText}' and ')'"
  | none, some ['('] =>
      "invalid expression; I was expecting to find a ')' somewhere but did not see one."
  | _, some word => s!"expected an expression after '{word.toText}'"
  | _, none => "invalid expression"

mutual

def queries : Nat → Option ByteText → List Token → Except String (Query × List Token)
  | 0, behind, tokens => .error (operandFault behind tokens)
  | bound + 1, behind, tokens => do
      let (first, rest) ← alternatives bound behind tokens
      match rest with
      | .comma :: rest => do
          let (second, rest) ← queries bound (some [',']) rest
          return (.sequence first second, rest)
      | rest => return (first, rest)

def alternatives : Nat → Option ByteText → List Token → Except String (Query × List Token)
  | 0, behind, tokens => .error (operandFault behind tokens)
  | bound + 1, behind, tokens => do
      let (first, rest) ← conditions bound behind tokens
      match rest with
      | .disjunction word :: rest => do
          let (second, rest) ← alternatives bound (some word) rest
          return (.disjunction first second, rest)
      | rest => return (first, rest)

def conditions : Nat → Option ByteText → List Token → Except String (Query × List Token)
  | 0, behind, tokens => .error (operandFault behind tokens)
  | bound + 1, behind, tokens => do
      let (first, rest) ← operand bound behind tokens
      let joined := fun (behind : Option ByteText) (rest : List Token) => do
        let (second, rest) ← conditions bound behind rest
        return (Query.conjunction first second, rest)
      match rest with
      | .conjunction word :: rest => joined (some word) rest
      | .test test :: rest => joined none (.test test :: rest)
      | .negation word :: rest => joined none (.negation word :: rest)
      | .opening :: rest => joined none (.opening :: rest)
      | rest => return (first, rest)

def operand : Nat → Option ByteText → List Token → Except String (Query × List Token)
  | 0, behind, tokens => .error (operandFault behind tokens)
  | bound + 1, behind, tokens =>
      match tokens with
      | .test test :: rest => .ok (.test test, rest)
      | .negation word :: rest => do
          let (inner, rest) ← operand bound (some word) rest
          return (.negation inner, rest)
      | .opening :: rest => do
          let (inner, rest) ← queries bound (some ['(']) rest
          match rest with
          | .closing :: rest => return (inner, rest)
          | _ => throw (operandFault (some ['(']) [])
      | _ => .error (operandFault behind tokens)

end

def query? (tokens : List Token) : Except String Query := do
  -- Without an action, what it holds of is printed.
  let printing := Query.test (.print '\n')
  let acts := tokens.any fun token =>
    match token with
    | .test test => test.isAction
    | _ => false
  if tokens.isEmpty then return printing
  let (query, rest) ← queries (6 * tokens.length + 6) none tokens
  match rest with
  | [] => return if acts then query else .conjunction query printing
  | _ => throw (operandFault none rest)

structure Candidate where
  path : ByteText
  operand : ByteText
  depth : Nat
  known : Known

structure State where
  hasQuit : Bool := false
  isPruned : Bool := false
  status : Nat := 0
  batches : List (Nat × List ByteText) := []

abbrev Search := StateT State Task

/-- Complains; the search goes on. -/
def Search.fail (complaint : String) : Search Unit := do
  tell complaint
  modify fun state => { state with status := 1 }

def accepts (ignoresCase : Bool) (pattern text : ByteText) : Bool :=
  let fold := fun (text : ByteText) => if ignoresCase then text.map Char.toLower else text
  Pattern.accepts (Pattern.items ((fold pattern).map fun c => (c, false))) (fold text)

def kindLetter : FileTree → Char
  | .file .. => 'f'
  | .directory .. => 'd'
  | .link _ => 'l'
  | .device _ => 'c'

def byteSize : FileTree → Nat
  | .file content _ => content.size
  | .link target => target.utf8ByteSize
  | .directory .. => 4096
  | .device _ => 0

def holdsNothing : FileTree → Bool
  | .file content _ => content.isEmpty
  | .directory entries _ => entries.isEmpty
  | _ => false

def Candidate.detail (candidate : Candidate) (letter : Char) : Option ByteText :=
  let object := candidate.known.object
  match letter with
  | '%' => some ['%']
  | 'p' => some candidate.path
  | 'f' => some (baseName candidate.path)
  | 'h' =>
      some (if candidate.path.contains '/' then
        ((candidate.path.reverse.dropWhile (· ≠ '/')).drop 1).reverse
      else ['.'])
  | 'H' => some candidate.operand
  | 'P' => some ((candidate.path.drop candidate.operand.length).dropWhile (· = '/'))
  | 'd' => some (Nat.toDigits 10 candidate.depth)
  | 's' => some (Nat.toDigits 10 (byteSize object))
  | 'm' => some (Nat.toDigits 8 object.attributes.mode)
  | 'M' =>
      let kind := if kindLetter object = 'f' then '-' else kindLetter object
      some (kind :: modeLetters object.attributes.mode)
  | 'y' => some [kindLetter object]
  | 'l' => match object with
      | .link target => some (ByteText.ofString target)
      | _ => some []
  | _ => none

/-- What a format prints of a candidate; the bound is on its length. -/
def Candidate.formatted (candidate : Candidate) : Nat → ByteText → ByteText
  | 0, _ => []
  | _, [] => []
  | _, '\\' :: 'c' :: _ => []
  | bound + 1, '\\' :: rest =>
      let (c, behind) := escape rest
      c :: candidate.formatted bound behind
  | bound + 1, '%' :: letter :: rest =>
      ((candidate.detail letter).getD ['%', letter]) ++ candidate.formatted bound rest
  | bound + 1, c :: rest => c :: candidate.formatted bound rest

def commandFor (path : ByteText) (words : List ByteText) : List ByteText :=
  let rec replaced : ByteText → ByteText
    | '\x7b' :: '\x7d' :: rest => path ++ replaced rest
    | c :: rest => c :: replaced rest
    | [] => []
  words.map replaced

/-- Runs a command; the answer is whether it came to zero. -/
def runCommand (run : Runner) (name : String) (words : List ByteText) : Task Bool := do
  Task.flush
  match ← run words with
  | .ok status => return status = .exited 0
  | .error cause => do
      tell s!"{name}: {cite (words.headD [])}: {cause.reason}"
      return false

def Test.holds (run : Runner) (name : String) (candidate : Candidate) (test : Test) :
    Search Bool := do
  let object := candidate.known.object
  match test with
  | .constant value => return value
  | .name pattern ignoresCase => return accepts ignoresCase pattern (baseName candidate.path)
  | .path pattern ignoresCase => return accepts ignoresCase pattern candidate.path
  | .matching regex ignoresCase => return regex.isIn ignoresCase candidate.path
  | .linkTarget pattern ignoresCase =>
      match object with
      | .link target => return accepts ignoresCase pattern (ByteText.ofString target)
      | _ => return false
  | .kind letters throughLinks =>
      let aim := (← known? true candidate.path).toOption.map (·.object)
      return letters.contains (kindLetter (if throughLinks then aim.getD object else object))
  | .isEmpty => return holdsNothing object
  | .size bound unit => return bound.holds ((byteSize object + unit - 1) / unit)
  | .mode test bits =>
      let mode := object.attributes.mode
      return match test with
        | .exactly => mode = bits
        | .allOf => mode &&& bits = bits
        | .anyOf => bits = 0 || mode &&& bits ≠ 0
  | .right wanted =>
      return (← known? true candidate.path).toOption.any (·.object.grants wanted)
  | .names bound => return bound.holds (← candidate.known.nameCount)
  | .age bound => return bound.holds 0
  | .sameAs known => return candidate.known.isSame known
  | .prune => do
      modify fun state => { state with isPruned := true }
      return true
  | .quit => do
      modify fun state => { state with hasQuit := true }
      return true
  | .print ending => do
      Task.print (candidate.path ++ [ending])
      return true
  | .format text => do
      Task.print (candidate.formatted (text.length + 1) text)
      return true
  | .delete =>
      if candidate.path = ['.'] then return true
      else
        let change := fun (files : FileSystem) =>
          if object.isDirectory then files.removeDirectory candidate.path.toPath
          else files.unlink candidate.path.toPath
        match ← Task.attempt change with
        | none => return true
        | some cause => do
            Search.fail s!"{name}: cannot delete {cite candidate.path}: {cause.reason}"
            return false
  | .execute asks words =>
      if asks then
        let shown := ByteText.toText (words.headD [])
        Task.flush
        let wanted ← confirm s!"< {shown} ... {candidate.path.toText} > ? "
        if !wanted then return false
      runCommand run name (commandFor candidate.path words)
  | .executeAll number words => do
      modify fun state =>
        let before := (state.batches.lookup number).getD words
        { state with batches := setKey number (before ++ [candidate.path]) state.batches }
      return true

def Query.holds (run : Runner) (name : String) (candidate : Candidate) : Query → Search Bool
  | .test inner => inner.holds run name candidate
  | .negation query => do return !(← query.holds run name candidate)
  | .conjunction first second => do
      if ← first.holds run name candidate then
        if (← get).hasQuit then return false else second.holds run name candidate
      else return false
  | .disjunction first second => do
      if ← first.holds run name candidate then return true
      else if (← get).hasQuit then return false
      else second.holds run name candidate
  | .sequence first second => do
      discard (first.holds run name candidate)
      if (← get).hasQuit then return false else second.holds run name candidate

def entryPath (directory name : ByteText) : ByteText :=
  if directory.getLast? = some '/' then directory ++ name else directory ++ '/' :: name

/-- Looks through a path and all below it; trees nest so deep at most. -/
def walk (run : Runner) (name : String) (scope : Scope) (query : Query) (operand : ByteText) :
    Nat → Nat → ByteText → Search Unit
  | 0, _, _ => pure ()
  | bound + 1, depth, path => do
      if (← get).hasQuit then return
      let itself ← known? false path
      let follows := scope.followsLinks || (scope.followsOperands && depth = 0)
      let aim ← known? true path
      let found := if follows && aim.isOk then aim else itself
      match found with
      | .error cause => Search.fail s!"{name}: {cite path}: {cause.reason}"
      | .ok known => do
          let visit : Search Unit := do
            if scope.minDepth ≤ depth then
              discard (query.holds run name { path, operand, depth, known })
          modify fun state => { state with isPruned := false }
          unless scope.isDepthFirst do visit
          let state ← get
          if known.object.isDirectory && !state.isPruned && !state.hasQuit &&
              scope.maxDepth.all (depth < ·) then
            match (← Task.files).list path.toPath with
            | .error cause => Search.fail s!"{name}: {cite path}: {cause.reason}"
            | .ok entries =>
                entries.forM fun entry =>
                  walk run name scope query operand bound (depth + 1)
                    (entryPath path (ByteText.ofString entry.1))
          if scope.isDepthFirst && !(← get).hasQuit then visit

def startsExpression (argument : ByteText) : Bool :=
  match argument with
  | '-' :: _ :: _ => true
  | ['('] => true
  | ['!'] => true
  | _ => false

def leadingOptions : List ByteText → Scope → Scope × List ByteText
  | ['-', 'P'] :: rest, scope =>
      leadingOptions rest { scope with followsLinks := false, followsOperands := false }
  | ['-', 'L'] :: rest, scope =>
      leadingOptions rest { scope with followsLinks := true, followsOperands := true }
  | ['-', 'H'] :: rest, scope =>
      leadingOptions rest { scope with followsLinks := false, followsOperands := true }
  | ['-', '-'] :: rest, scope => (scope, rest)
  | ['-', 'O', _] :: rest, scope => leadingOptions rest scope
  | rest, scope => (scope, rest)

def program (run : Runner) : Program := fun called arguments => do
  let name := called.toText
  let (scope, rest) := leadingOptions arguments {}
  let paths := rest.takeWhile (!startsExpression ·)
  let words := rest.dropWhile (!startsExpression ·)
  let paths := if paths.isEmpty then [['.']] else paths
  let parsing : Parsing (Parsed × Query) := do
    let parsed ← readWords (words.length + 1) words { scope }
    return (parsed, ← accept (query? parsed.tokens))
  match ← parsing.run with
  | .error complaint => do
      tell s!"{name}: {complaint.text}"
      complaint.guess?.forM fun guess => tell s!"{name}: {guess}"
      return 1
  | .ok (parsed, query) => do
      let search : Search Unit := paths.forM fun path =>
        walk run name parsed.scope query path maxSearchDepth 0 path
      let (_, state) ← search.run {}
      let statuses ← state.batches.mapM fun (_, words) => do
        return if ← runCommand run name words then 0 else 1
      return statuses.foldl max state.status
where
  maxSearchDepth : Nat := 1000

end Finding

end CallAtlas.Script.Utility
