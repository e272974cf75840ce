import CallAtlas.Script.Utility.Running

/-!
Running a command on the words or lines of the input, many at a time or one by one.
-/

namespace CallAtlas.Script.Utility

namespace WordRunning

inductive Grouping where
  | all
  | words (count : Nat)
  | lines (count : Nat)
  | inPlaceOf (text : ByteText)

structure Form where
  grouping : Grouping := .all
  /-- What separates items; without it blanks do, and quotes count. -/
  delimiter : Option Char := none
  ending : Option ByteText := none
  room : Nat := 131072
  runsOnNothing : Bool := true
  isTraced : Bool := false
  isAsked : Bool := false
  file : Option ByteText := none

structure Item where
  text : ByteText
  endsLine : Bool

structure Items where
  items : List Item := []
  openQuote : Option Char := none

def isBlank (c : Char) : Bool := c = ' ' || c = '\t'

def quotedItems (byLine : Bool) : Nat → ByteText → Option ByteText → Bool → Items
  -- A word that has begun is given with whether it is quoted; whole lines are taken if `byLine`.
  -- The bound is on the length of the text.
  | 0, _, _, _ => {}
  | _, [], word, _ =>
      match word with
      | none => {}
      | some text => { items := [{ text, endsLine := true }] }
  | bound + 1, c :: rest, word, afterBlank =>
      let go := quotedItems byLine bound
      let put := fun (text : ByteText) (endsLine : Bool) (items : Items) =>
        { items with items := { text, endsLine } :: items.items }
      let add := fun (text : ByteText) => some (word.getD [] ++ text)
      if c = '\n' then
        match word with
        | none => go rest none false
        | some text => put text true (go rest none false)
      else if isBlank c && word.isNone then go rest none afterBlank
      else if isBlank c && !byLine then
        let behind := rest.dropWhile isBlank
        let isContinued := behind.head? = some '\n'
        put (word.getD []) behind.isEmpty (go (if isContinued then behind.drop 1 else behind) none true)
      else if c = '\'' || c = '"' then
        let inner := rest.takeWhile fun d => d ≠ c && d ≠ '\n'
        match rest.drop inner.length with
        | d :: behind =>
            if d = c then go behind (add inner) false else { openQuote := some c }
        | [] => { openQuote := some c }
      else if c = '\\' then
        match rest with
        | [] => go [] word false
        | escaped :: behind => go behind (add [escaped]) false
      else go rest (add [c]) false

def items (form : Form) (input : ByteText) : Items :=
  match form.delimiter with
  | some c => { items := (records c input).map fun text => { text, endsLine := true } }
  | none =>
      let byLine := match form.grouping with
        | .inPlaceOf _ => true
        | _ => false
      quotedItems byLine (input.length + 1) input none false

def Items.upTo (ending : Option ByteText) (all : Items) : Items :=
  match ending with
  | none => all
  | some text =>
      let kept := all.items.takeWhile fun item => item.text ≠ text
      if kept.length < all.items.length then { items := kept } else all

def replaced (old new : ByteText) : Nat → ByteText → ByteText
  | 0, text => text
  | _, [] => []
  | bound + 1, c :: rest =>
      if !old.isEmpty && old.isPrefixOf (c :: rest) then
        new ++ replaced old new bound ((c :: rest).drop old.length)
      else c :: replaced old new bound rest

/-- How many of some items make a group behind those that are taken: as many as the grouping asks for
and there is room for, but one at least. -/
def groupSize (form : Form) : List Item → Nat → Nat → Nat → Nat
  | [], words, _, _ => words
  | item :: rest, words, lines, used =>
      let used := used + item.text.length + 1
      let isFull := match form.grouping with
        | .words count => count ≤ words
        | .lines count => count ≤ lines
        | _ => false
      if isFull || (form.room < used && 0 < words) then words
      else groupSize form rest (words + 1) (if item.endsLine then lines + 1 else lines) used

/-- Cuts items into groups for a command of some length; the bound is on their number. -/
def groups (form : Form) (base : Nat) : Nat → List Item → List (List ByteText)
  | 0, _ => []
  | _, [] => []
  | bound + 1, all =>
      let size := groupSize form all 0 0 base
      (all.take size).map (·.text) :: groups form base bound (all.drop size)

def runOne (run : Runner) (name : String) (form : Form) (command : List ByteText) :
    Task (Except Nat Nat) := do
  if form.isTraced then
    Task.complain (ByteText.toText (ByteText.join [' '] (command.map readableName)))
  let shown := ByteText.toText (command.headD [])
  match ← run command with
  | .error cause => return .error (← giveUp (startStatus cause) s!"{name}: {shown}: {cause.reason}")
  | .ok (.signaled signal) =>
      return .error (← giveUp 125 s!"{name}: {shown}: terminated by signal {signal}")
  | .ok (.exited 0) => return .ok 0
  | .ok (.exited 255) =>
      return .error (← giveUp 124 s!"{name}: {shown}: exited with status 255; aborting")
  | .ok (.exited _) => return .ok 123

def runAll (run : Runner) (name : String) (form : Form) : List (List ByteText) → Nat →
    Task (Except Nat Nat)
  | [], status => return .ok status
  | command :: rest, status => do
      match ← runOne run name form command with
      | .error status => return .error status
      | .ok next => runAll run name form rest (max status next)

def delimiter (text : ByteText) : Except String Char :=
  match text with
  | [c] => .ok c
  | ['\\', 'x'] => .ok '\x00'
  | '\\' :: 'x' :: digits =>
      if digits.all fun d => Arithmetic.digitValue d < 16 then
        .ok (Char.ofNat ((Arithmetic.digits 16 digits).1 % 256))
      else .error s!"Invalid escape sequence {text.toText} in input delimiter specification."
  | '\\' :: c :: rest =>
      if isOctal c && rest.all isOctal then .ok (octalChar (c :: rest))
      else
        match if rest.isEmpty && c ≠ 'e' then controlChars.lookup c else none with
        | some control => .ok control
        | none => .error s!"Invalid escape sequence {text.toText} in input delimiter specification."
  | _ => .error (s!"Invalid input delimiter specification {text.toText}: the delimiter must be " ++
      "either a single character or an escape sequence starting with \\.")

/-- What reading an option comes to: a form with warnings, or a complaint and whether it is told
where to read more. -/
abbrev Parsing := StateT (List String) (Except (String × Bool))

def outdo (before after : String) : Parsing Unit :=
  modify (· ++ [s!"warning: options {before} and {after} are mutually exclusive, " ++
    s!"ignoring previous {before} value"])

def outdoBy (form : Form) (after : String) (isSame : Grouping → Bool) : Parsing Unit := do
  unless isSame form.grouping do
    match form.grouping with
    | .all => pure ()
    | .words _ => outdo "--max-args" after
    | .lines _ => outdo "--max-lines" after
    | .inPlaceOf _ => outdo "--replace" after

def number (letter : Char) (least : Nat) (text : ByteText) : Parsing Nat := do
  match plainCount? text with
  | none => throw (s!"invalid number \"{text.toText}\" for -{letter} option", true)
  | some value =>
      if value < least then
        throw (s!"value {text.toText} for -{letter} option should be >= {least}", true)
      return value

def isWords : Grouping → Bool
  | .words _ => true
  | _ => false

def isLines : Grouping → Bool
  | .lines _ => true
  | _ => false

def isInPlace : Grouping → Bool
  | .inPlaceOf _ => true
  | _ => false

def addOption (form : Form) (letter : Char) (value : ByteText) : Parsing Form := do
  match letter with
  | '0' => return { form with delimiter := some '\x00' }
  | 'a' => return { form with file := some value }
  | 'd' =>
      match delimiter value with
      | .ok c => return { form with delimiter := some c }
      | .error complaint => throw (complaint, false)
  | 'E' => return { form with ending := if value.isEmpty then none else some value }
  | 'e' => return { form with ending := if value.isEmpty then none else some value }
  | 'I' => do
      outdoBy form "--replace/-I/-i" isInPlace
      return { form with grouping := .inPlaceOf value }
  | 'i' => do
      outdoBy form "--replace/-I/-i" isInPlace
      return { form with grouping := .inPlaceOf (if value.isEmpty then ['\x7b', '\x7d'] else value) }
  | 'L' => do
      let count ← number 'L' 1 value
      outdoBy form "-L" isLines
      return { form with grouping := .lines count }
  | 'l' => do
      let count ← if value.isEmpty then pure 1 else number 'l' 1 value
      outdoBy form "--max-lines/-l" isLines
      return { form with grouping := .lines count }
  | 'n' => do
      let count ← number 'n' 1 value
      if isInPlace form.grouping && count = 1 then return form
      outdoBy form "--max-args/-n" isWords
      return { form with grouping := .words count }
  | 's' => return { form with room := ← number 's' 1 value }
  | 'P' => do
      discard (number 'P' 0 value)
      return form
  | 'r' => return { form with runsOnNothing := false }
  | 't' => return { form with isTraced := true }
  | 'p' => return { form with isAsked := true }
  | _ => return form

def optionForm : OptionForm where
  flags := ['0', 'o', 'p', 'r', 't', 'x', 'w']
  valued := ['a', 'd', 'E', 'I', 'L', 'n', 's', 'P']
  optional := ['e', 'i', 'l']
  stopsAtOperand := true
  long := [("null", '0'), ("arg-file", 'a'), ("delimiter", 'd'), ("eof", 'e'), ("replace", 'i'),
    ("max-lines", 'l'), ("max-args", 'n'), ("open-tty", 'o'), ("interactive", 'p'),
    ("no-run-if-empty", 'r'), ("max-chars", 's'), ("verbose", 't'), ("show-limits", 'w'),
    ("exit", 'x'), ("max-procs", 'P')]

def runOnInput (run : Runner) (name : String) (form : Form) (command : List ByteText)
    (input : ByteText) : Task Nat := do
  let command := if command.isEmpty then ["echo".toList] else command
  let found := (items form input).upTo (if form.delimiter.isSome then none else form.ending)
  let base := (command.map fun word => word.length + 1).foldr (· + ·) 0
  let commands := match form.grouping with
    | .inPlaceOf text =>
        found.items.map fun item =>
          command.take 1 ++ (command.drop 1).map fun word =>
            replaced text item.text (word.length + 1) word
    | _ =>
        let all := (groups form base found.items.length found.items).map (command ++ ·)
        if all.isEmpty && form.runsOnNothing then [command] else all
  let isTight := form.room < base ||
    found.items.any fun item => form.room < base + item.text.length + 1
  if isTight then giveUp 1 s!"{name}: cannot fit single argument within argument list size limit"
  else
    let isLeftOut := found.openQuote.isSome && found.items.isEmpty
    match ← runAll run name form (if isLeftOut then [] else commands) 0 with
    | .error status => return status
    | .ok status =>
        match found.openQuote with
        | none => return status
        | some c =>
            let kind := if c = '"' then "double" else "single"
            giveUp 1 (s!"{name}: unmatched {kind} quote; by default quotes are special to xargs " ++
              "unless you use the -0 option")

end WordRunning

open WordRunning in
def runOnWords (run : Runner) : Program :=
  withOptions optionForm 1 fun name given => do
    let parsing := given.options.foldlM (fun form (letter, value) => addOption form letter value) {}
    match StateT.run parsing [] with
    | .error (complaint, true) => misuse 1 name complaint
    | .error (complaint, false) => giveUp 1 s!"{name}: {complaint}"
    | .ok (form, warnings) => do
        warnings.forM fun warning => tell s!"{name}: {warning}"
        if form.ending.isSome && form.delimiter.isSome then
          tell s!"{name}: warning: the -E option has no effect if -0 or -d is used."
        let input ← match form.file with
          | some file => do
              match ← Task.readPath file with
              | .ok content => pure (Except.ok content)
              | .error cause =>
                  pure (.error s!"Cannot open input file {quote file}: {cause.reason}")
          | none => do pure (Except.ok (← Task.readAll 0))
        match input with
        | .error complaint => giveUp 1 s!"{name}: {complaint}"
        | .ok input =>
            if form.isAsked then
              discard (Task.write 2 (ByteText.ofString "echo"))
              giveUp 1
                s!"{name}: failed to open /dev/tty for reading: No such device or address"
            else runOnInput run name form given.operands input

end CallAtlas.Script.Utility
