import CallAtlas.Script.Builtin.Settings

/-!
The commands of the shell that show, mark, hide and take away variables, or read
lines into them.
-/

namespace CallAtlas.Script.Builtin

def shownVariables (shell : Shell) (mark : ByteText) (isShown : Variable → Bool) : ByteText :=
  let shown := (shell.bindings.filter fun (_, held) => isShown held).mergeSort
    fun first second => first.1 ≤ second.1
  ByteText.unlines (shown.map fun (name, held) =>
    mark ++ name.toList ++ match held.value with
      | some value => '=' :: quoted value
      | none => [])

def setCommand : Builtin := fun arguments => do
  if arguments.isEmpty then
    print (shownVariables (← get) [] fun held => held.value.isSome)
  else
    setAll (arguments.length + 1) arguments
    checkTerminal
  Action.setStatus 0

def markVariable (mark : Variable → Variable) (argument : ByteText) : Action Unit := do
  let name ← checkedName argument
  match (nameAndValue argument).2 with
  | some text => Action.setVariable name text false
  | none => pure ()
  modify fun shell =>
    let held := (shell.bindings.lookup name).getD {}
    { shell with bindings := setKey name (mark held) shell.bindings }

/-- Marks variables, or shows those with the mark. -/
def markVariables (word : String) (mark : Variable → Variable) (isMarked : Variable → Bool) :
    Builtin := fun arguments => do
  -- The first option alone counts.
  let showsAll := match arguments with
    | ('-' :: 'p' :: _) :: _ => true
    | _ => false
  let names ← if showsAll then pure [] else operands arguments
  if names.isEmpty then print (shownVariables (← get) (word.toList ++ [' ']) isMarked)
  names.forM (markVariable mark)
  Action.setStatus 0

def unset : Builtin := fun arguments => do
  let given ← options ['v', 'f'] [] arguments
  let isFunction := (given.options.getLast?.map (·.1)) = some 'f'
  given.operands.forM fun name => do
    if isFunction then
      let name := name.toText
      modify fun shell => { shell with functions := shell.functions.filter (·.1 ≠ name) }
    else Action.unsetVariable (← checkedName name)
  Action.setStatus 0

def hideVariable (name : String) : Action Unit :=
  modify fun shell =>
    match shell.hidden with
    | [] => shell
    | frame :: outer =>
        if (frame.lookup name).isSome then shell
        else { shell with hidden := ((name, shell.bindings.lookup name) :: frame) :: outer }

/-- Hides variables in a function; a dash stands for the options. -/
def hideVariables : Builtin := fun arguments => do
  if (← get).functionDepth = 0 then Action.fail "not in a function"
  arguments.forM fun argument => do
    if argument = ['-'] then
      modify fun shell =>
        { shell with hiddenOptions := some (shell.hiddenOptions.getD shell.options) }
    else
      match nameAndValue argument with
      | (name, some text) => do
          hideVariable (String.ofList name)
          Action.setVariable (String.ofList name) text false
      | (name, none) => do hideVariable (← checkedName name)
  Action.setStatus 0

/-- The characters of a line that is read, each with whether it was escaped, how many bytes it
took and whether its end was there. -/
def readLine (raw : Bool) : ByteText → Marked × Nat × Bool
  | [] => ([], 0, false)
  | c :: rest =>
      if c = '\n' then ([], 1, true)
      else if c = '\\' && !raw then
        match rest with
        | [] => ([], 1, false)
        | '\n' :: behind =>
            let (line, size, ended) := readLine raw behind
            (line, size + 2, ended)
        | next :: behind =>
            let (line, size, ended) := readLine raw behind
            ((next, true) :: line, size + 2, ended)
      else
        let (line, size, ended) := readLine raw rest
        ((c, false) :: line, size + 1, ended)

structure LineForm where
  separators : ByteText

namespace LineForm

def isSeparator (form : LineForm) (item : Char × Bool) : Bool :=
  !item.2 && form.separators.contains item.1

def isBlank (form : LineForm) (item : Char × Bool) : Bool :=
  form.isSeparator item && Shell.defaultSeparators.contains item.1

/-- What separates two fields, behind its first character: blanks, and another separator among them
if the first character was a blank. -/
def skipGap (form : LineForm) (afterBlank : Bool) : Marked → Marked
  -- What is left of the line is given.
  | [] => []
  | item :: rest =>
      if form.isBlank item then skipGap form afterBlank rest
      else if form.isSeparator item && afterBlank then skipGap form false rest
      else item :: rest

/-- Where the last field is cut, if it is: at blanks at its end, or at the only separator in it if
nothing but blanks is behind that one. -/
def cutAt (form : LineForm) (index : Nat) (afterBlank : Bool) (cut : Option Nat) :
    Marked → Option Nat
  -- An escaped character leaves that place where it is. The field is given from `index` on.
  | [] => cut
  | item :: rest =>
      if item.2 then cutAt form (index + 1) false cut rest
      else if form.isBlank item then cutAt form (index + 1) afterBlank (some (cut.getD index)) rest
      else
        let cut := if form.isSeparator item && afterBlank then cut else none
        cutAt form (index + 1) false cut rest

def lastField (form : LineForm) (line : Marked) : Marked :=
  let first := (line.takeWhile fun item => !(form.isSeparator item)).length
  match line.drop first with
  | [] => line
  | item :: rest =>
      match form.cutAt (first + 1) (form.isBlank item) (some first) rest with
      | some size => line.take size
      | none => line

def fields (form : LineForm) : Nat → Marked → List ByteText
  | 0, _ => []
  | count + 1, line =>
      let line := line.dropWhile form.isBlank
      if count = 0 then [(form.lastField line).map (·.1)]
      else
        let field := line.takeWhile fun item => !(form.isSeparator item)
        let behind := match line.drop field.length with
          | [] => []
          | item :: rest => form.skipGap (form.isBlank item) rest
        field.map (·.1) :: fields form count behind

end LineForm

def firstLineSize : Nat := 256

def maxLineSteps : Nat := 8

def nextLine (raw : Bool) : Nat → Nat → Action (Marked × Nat × Bool)
  | 0, _ => do return readLine raw ((← Action.ofTask (Task.peek 0)).toOption.getD [])
  | steps + 1, size => do
      let text := (← Action.ofTask (Task.peekWithin (some size) 0)).toOption.getD []
      let (line, taken, ended) := readLine raw text
      if ended || text.length < size then return (line, taken, ended)
      else nextLine raw steps (8 * size)

def read : Builtin := fun arguments => do
  let given ← options ['r'] ['p'] arguments
  let names := given.operands
  if names.isEmpty then Action.fail "arg count"
  let shell ← get
  let (line, size, ended) ← nextLine (given.has 'r') maxLineSteps firstLineSize
  Action.ofTask (Task.skip 0 size)
  let form : LineForm := { separators := shell.separators }
  (names.zip (form.fields names.length line)).forM fun (name, value) => do
    Action.setVariable (← checkedName name) value false
  Action.setStatus (if ended then 0 else 1)

end CallAtlas.Script.Builtin
