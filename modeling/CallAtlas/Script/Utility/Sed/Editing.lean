import CallAtlas.Script.Utility.Sed.Commands
import CallAtlas.Script.Utility.Records

/-!
Editing lines with a script. A line is read into the pattern space, the commands are
applied to it, and then it is printed.
-/

namespace CallAtlas.Script.Utility.Sed

def replacementText (subject : Regex.Subject) (found : Regex.Match) : Replacement → ByteText
  | .literal c => [c]
  | .group 0 => subject.slice found.first found.last
  | .group number =>
      match found.groups.lookup number with
      | some (first, last) => subject.slice first last
      | none => []
  | .case _ => []

structure Writing where
  all : CaseChange := .keep
  next : Option CaseChange := none

def Writing.apply (writing : Writing) (text : ByteText) : ByteText :=
  let change := fun (kind : CaseChange) (c : Char) =>
    match kind with
    | .upper => c.toUpper
    | .upperNext => c.toUpper
    | .lower => c.toLower
    | .lowerNext => c.toLower
    | .keep => c
  match text, writing.next with
  | c :: rest, some kind => change kind c :: rest.map (change writing.all)
  | text, _ => text.map (change writing.all)

def filled (subject : Regex.Subject) (found : Regex.Match) :
    List Replacement → Writing → ByteText
  | [], _ => []
  | .case change :: rest, writing =>
      let writing := match change with
        | .upperNext => { writing with next := some change }
        | .lowerNext => { writing with next := some change }
        | _ => { all := change }
      filled subject found rest writing
  | part :: rest, writing =>
      let text := replacementText subject found part
      let writing' := if text.isEmpty then writing else { writing with next := none }
      writing.apply text ++ filled subject found rest writing'

/-- Replaces matches from a place on; `turn` counts them. -/
def replaceFrom (what : Substitution) (regex : Regex) (subject : Regex.Subject) :
    Nat → Nat → Option Nat → Nat → ByteText × Bool
  -- An empty match right behind another match, which ended at `behind`, is none.
  | 0, start, _, _ => (subject.slice start subject.text.size, false)
  | bound + 1, start, behind, turn =>
      match if start ≤ subject.text.size then regex.find subject start else none with
      | none => (subject.slice start subject.text.size, false)
      | some found =>
          let before := subject.slice start found.first
          let isEmpty := found.first = found.last
          let between := if isEmpty then subject.slice found.last (found.last + 1) else []
          let next := if isEmpty then found.last + 1 else found.last
          if isEmpty && behind = some found.first then
            let (rest, changed) := replaceFrom what regex subject bound next none turn
            (before ++ between ++ rest, changed)
          else
            let isChosen := turn = what.start || (what.everywhere && what.start ≤ turn)
            let shown := if isChosen then filled subject found what.replacement {}
              else subject.slice found.first found.last
            if isChosen && !what.everywhere then
              (before ++ shown ++ subject.slice found.last subject.text.size, true)
            else
              let ended := if isEmpty then none else some found.last
              let (rest, changed) := replaceFrom what regex subject bound next ended (turn + 1)
              (before ++ shown ++ between ++ rest, isChosen || changed)

structure Input where
  text : ByteText
  isEnded : Bool := true
  number : Nat
  file : ByteText
  isLast : Bool := false

inductive Added where
  | text (text : ByteText)
  | file (path : ByteText)

structure Editor where
  rest : List Input := []
  current : Input := { text := [], number := 0, file := ['-'] }
  pattern : ByteText := []
  held : ByteText := []
  hasReplaced : Bool := false
  added : List Added := []
  lacksEnd : Bool := false
  printed : Stream := {}
  ranges : List (Nat × Option Nat) := []
  last : Option Wanted := none
  taken : List (ByteText × Nat) := []

structure Form where
  commands : Array Command
  isQuiet : Bool := false
  ending : Char := '\n'
  width : Nat := 70

inductive Flow where
  | on
  | jump (place : Nat)
  /-- The line is done; it may be printed. -/
  | done (prints : Bool)
  | again
  | quit (status : Nat) (prints : Bool)

inductive Stop where
  | noExpression
  | noLabel (name : ByteText)

abbrev Edit := ExceptT Stop (StateT Editor Task)

def emit (form : Form) (text : ByteText) (isEnded : Bool) : Edit Unit :=
  modify fun editor =>
    let missing := if editor.lacksEnd then [form.ending] else []
    let ending := if isEnded then [form.ending] else []
    { editor with
      printed := editor.printed.push (missing ++ text ++ ending)
      lacksEnd := !isEnded }

def emitText (form : Form) (text : ByteText) : Edit Unit := do
  unless text.isEmpty do
    modify fun editor =>
      let missing := if editor.lacksEnd then [form.ending] else []
      { editor with printed := editor.printed.push (missing ++ text), lacksEnd := false }

def printPattern (form : Form) : Edit Unit := do
  let editor ← get
  emit form editor.pattern editor.current.isEnded

def writeLine (form : Form) (path text : ByteText) : Edit Unit := do
  if path = "/dev/stdout".toList then emit form text true
  else if path = "/dev/stderr".toList then
    discard (Task.write 2 (text ++ [form.ending]))
  else discard (Task.writePath .appending path (text ++ [form.ending]))

def printAdded (form : Form) : Edit Unit := do
  let added := (← get).added
  modify fun editor => { editor with added := [] }
  added.forM fun next => do
    match next with
    | .text text => emitText form text
    | .file path =>
        match ← Task.readPath path with
        | .ok content => emitText form content
        | .error _ => pure ()

def readNext : Edit Bool := do
  let editor ← get
  match editor.rest with
  | [] => return false
  | next :: rest => do
      set { editor with rest, current := next }
      return true

/-- The expression to match; without one, that which was used last. -/
def useWanted (wanted : Option Wanted) : Edit Wanted := do
  match wanted with
  | some wanted => do
      modify fun editor => { editor with last := some wanted }
      return wanted
  | none =>
      match (← get).last with
      | some wanted => return wanted
      | none => throw .noExpression

def Address.chooses (address : Address) : Edit Bool := do
  let editor ← get
  let number := editor.current.number
  match address with
  | .line wanted => return number = wanted
  | .step first size =>
      return if size = 0 then number = first else first ≤ number && (number - first) % size = 0
  | .last => return editor.current.isLast
  | .regex wanted => do
      let wanted ← useWanted wanted
      return wanted.regex.isIn wanted.ignoresCase editor.pattern

def setRange (place : Nat) (range : Option (Option Nat)) : Edit Unit :=
  modify fun editor =>
    let others := editor.ranges.filter (·.1 ≠ place)
    { editor with ranges := match range with
        | some stop => (place, stop) :: others
        | none => others }

/-- Whether a line in a range belongs to it; it may be the last one. -/
def continuesRange (place : Nat) (second : Limit) (stop : Option Nat) : Edit Bool := do
  let number := (← get).current.number
  match stop, second with
  | some stop, _ => do
      if stop ≤ number then setRange place none
      return number ≤ stop
  | none, .address address => do
      if ← address.chooses then setRange place none
      return true
  | none, _ => return true

def applies (place : Nat) (command : Command) : Edit Bool := do
  let number := (← get).current.number
  let chosen ← match command.first, command.second with
    | none, _ => pure true
    | some first, none => first.chooses
    | some first, some second => do
        match (← get).ranges.lookup place with
        | some stop => continuesRange place second stop
        | none => do
            if ← first.chooses then
              let stop? := match second with
                | .address (.line stop) => some (some stop)
                | .address _ => some none
                | .more count => some (some (number + count))
                | .multiple size =>
                    some (some (if size = 0 then number else (number + size - 1) / size * size))
              match stop? with
              | some (some stop) => if number < stop then setRange place (some (some stop))
              | _ => setRange place stop?
              pure true
            else pure false
  return chosen != command.negated

def listed (width : Nat) (text : ByteText) : ByteText :=
  let shown := fun (c : Char) =>
    if c = '\\' then ['\\', '\\']
    else if isPrintable c then [c]
    else escapedChar c
  let step := fun (state : ByteText × Nat) (c : Char) =>
    let (output, column) := state
    let piece := shown c
    if 1 < width && width < column + piece.length + 1 then
      (piece.reverse ++ '\n' :: '\\' :: output, piece.length)
    else (piece.reverse ++ output, column + piece.length)
  (text.foldl step ([], 0)).1.reverse ++ ['$']

def target (form : Form) (name : ByteText) : Nat :=
  if name.isEmpty then form.commands.size
  else
    (form.commands.toList.findIdx? fun command =>
      match command.action with
      | .label other => other = name
      | _ => false).getD form.commands.size

def firstLine (form : Form) (text : ByteText) : ByteText × Option ByteText :=
  let first := text.takeWhile (· ≠ form.ending)
  (first, if first.length = text.length then none else some (text.drop (first.length + 1)))

def substitute (form : Form) (what : Substitution) : Edit Unit := do
  let wanted ← useWanted what.wanted
  let before := (← get).pattern
  let subject : Regex.Subject := { text := before.toArray, ignoreCase := wanted.ignoresCase }
  let (pattern, changed) := replaceFrom what wanted.regex subject (2 * before.length + 2) 0 none 1
  if changed then
    modify fun editor => { editor with pattern, hasReplaced := true }
    if what.prints then printPattern form
    match what.file with
    | some path => writeLine form path pattern
    | none => pure ()

def perform (form : Form) (place : Nat) (command : Command) : Edit Flow := do
  let editor ← get
  match command.action with
  | .block _ => return .on
  | .nothing => return .on
  | .label _ => return .on
  | .substitute what => do
      substitute form what
      return .on
  | .print => do
      printPattern form
      return .on
  | .printFirst => do
      emit form (firstLine form editor.pattern).1 true
      return .on
  | .delete => return .done false
  | .deleteFirst =>
      match (firstLine form editor.pattern).2 with
      | none => return .done false
      | some rest => do
          set { editor with pattern := rest }
          return .again
  | .quit status prints => return .quit status prints
  | .number => do
      emitText form (Nat.toDigits 10 editor.current.number ++ ['\n'])
      return .on
  | .list width => do
      emitText form (listed (width.getD form.width) editor.pattern ++ ['\n'])
      return .on
  | .transliterate pairs => do
      set { editor with pattern := editor.pattern.map fun c => (pairs.lookup c).getD c }
      return .on
  | .append text => do
      set { editor with added := editor.added ++ [Added.text text] }
      return .on
  | .insert text => do
      emitText form text
      return .on
  | .change text => do
      let goesOn := command.second.isSome && (editor.ranges.lookup place).isSome && !command.negated
      unless goesOn do emitText form text
      return .done false
  | .next => do
      if editor.rest.isEmpty then return .quit 0 true
      unless form.isQuiet do printPattern form
      printAdded form
      discard readNext
      modify fun editor => { editor with pattern := editor.current.text }
      return .on
  | .nextAppended => do
      if editor.rest.isEmpty then return .quit 0 true
      printAdded form
      discard readNext
      modify fun after =>
        { after with pattern := editor.pattern ++ form.ending :: after.current.text }
      return .on
  | .hold appends => do
      let held := if appends then editor.held ++ form.ending :: editor.pattern else editor.pattern
      set { editor with held }
      return .on
  | .get appends => do
      let pattern := if appends then editor.pattern ++ form.ending :: editor.held else editor.held
      set { editor with pattern }
      return .on
  | .exchange => do
      set { editor with pattern := editor.held, held := editor.pattern }
      return .on
  | .branch name => return .jump (target form name)
  | .branchIf replaced name => do
      if editor.hasReplaced then set { editor with hasReplaced := false }
      return if editor.hasReplaced == replaced then .jump (target form name) else .on
  | .readFile path => do
      set { editor with added := editor.added ++ [Added.file path] }
      return .on
  | .readLine path => do
      let index := (editor.taken.lookup path).getD 0
      match ← Task.readPath path with
      | .error _ => return .on
      | .ok content =>
          match (records form.ending content)[index]? with
          | none => return .on
          | some line => do
              set { editor with
                added := editor.added ++ [Added.text (line ++ [form.ending])]
                taken := setKey path (index + 1) editor.taken }
              return .on
  | .write path => do
      writeLine form path editor.pattern
      return .on
  | .writeFirst path => do
      writeLine form path (firstLine form editor.pattern).1
      return .on
  | .zap => do
      set { editor with pattern := [] }
      return .on
  | .fileName => do
      emitText form (editor.current.file ++ ['\n'])
      return .on

/-- Applies the commands from a place on; the bound is on their number. -/
def runCommands (form : Form) : Nat → Nat → Edit Flow
  | 0, _ => return .quit 4 false
  | bound + 1, place => do
      match form.commands[place]? with
      | none => return .done true
      | some command => do
          if ← applies place command then
            match ← perform form place command with
            | .on => runCommands form bound (place + 1)
            | .jump target => runCommands form bound target
            | flow => return flow
          else
            match command.action with
            | .block stop => runCommands form bound stop
            | _ => runCommands form bound (place + 1)

def runLines (form : Form) (steps : Nat) : Nat → Bool → Edit Nat
  -- The bound is on the number of rounds, and `fresh` tells that a line is to be read.
  | 0, _ => return 4
  | bound + 1, fresh => do
      if fresh then
        unless ← readNext do return 0
        modify fun editor => { editor with pattern := editor.current.text, hasReplaced := false }
      let finish := fun (prints : Bool) => do
        if prints && !form.isQuiet then printPattern form
        printAdded form
      match ← runCommands form steps 0 with
      | .quit status prints => do
          if prints then finish true
          return status
      | .again => do
          finish false
          runLines form steps bound false
      | .done prints => do
          finish prints
          runLines form steps bound true
      | _ => return 0

def maxSteps : Nat := 100000000

def initialRanges (commands : List Command) : List (Nat × Option Nat) :=
  commands.zipIdx.filterMap fun (command, place) =>
    if command.startsInRange then some (place, none) else none

def missingLabel? (commands : List Command) : Option ByteText :=
  let labels := commands.filterMap fun command =>
    match command.action with
    | .label name => some name
    | _ => none
  commands.findSome? fun command =>
    let name := match command.action with
      | .branch name => name
      | .branchIf _ name => name
      | _ => []
    if name.isEmpty || labels.contains name then none else some name

def writtenFiles (commands : List Command) : List ByteText :=
  commands.filterMap fun command =>
    match command.action with
    | .write path => some path
    | .writeFirst path => some path
    | .substitute what => what.file
    | _ => none

def inputsOf (ending : Char) (isSeparate : Bool) (files : List (ByteText × ByteText)) :
    List Input :=
  let lines := files.map fun (file, content) =>
    let all := endedRecords ending content
    let size := all.length
    all.zipIdx.map fun (record, index) =>
      let isEnded := record.getLast? = some ending
      { text := if isEnded then record.dropLast else record
        isEnded
        number := index + 1
        file
        isLast := isSeparate && index + 1 = size : Input }
  if isSeparate then lines.flatten
  else
    let all := lines.flatten
    let size := all.length
    all.zipIdx.map fun (line, index) =>
      { line with number := index + 1, isLast := index + 1 = size }

end CallAtlas.Script.Utility.Sed
