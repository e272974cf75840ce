import CallAtlas.Script.Arithmetic
import CallAtlas.Script.Process
import CallAtlas.Script.Program
import CallAtlas.Script.Signal

/-!
The state of a shell that runs a script, and what a step of it can come to.
-/

namespace CallAtlas.Script

structure Variable where
  value : Option ByteText := none
  exported : Bool := false
  readOnly : Bool := false

structure Located where
  place : Nat
  isStale : Bool := false

/-- Where the next option of some arguments is looked for: the word behind the one that was begun,
counted from one, and how much of that word is read. -/
structure OptionPlace where
  index : Nat := 1
  offset : Option Nat := none

structure Shell where
  process : Process
  directory : ByteText := []
  physical? : Option ByteText := none
  /-- What the command of the shell that runs has printed; it is written once the command ends. -/
  pending : ByteText := []
  bindings : List (String × Variable) := []
  functions : List (String × Command) := []
  aliases : List (String × ByteText) := []
  name : ByteText
  arguments : List ByteText := []
  status : Nat := 0
  substituted : Nat := 0
  options : List Char := []
  traps : List (Nat × ByteText) := []
  line : Nat := 1
  readLine : Nat := 1
  command : Option String := none
  loops : Nat := 0
  functionDepth : Nat := 0
  hidden : List (List (String × Option Variable)) := []
  hiddenOptions : Option (List Char) := none
  scriptProcess : Nat
  ownProcess : Nat
  jobs : List (Nat × ExitStatus) := []
  isTail : Bool := false
  trapped : Option Nat := none
  optionPlace : OptionPlace := {}
  located : List (String × Located) := []

inductive Stop where
  | broken (levels : Nat)
  | continued (levels : Nat)
  | returned
  | failed
  | exited
  | killed (signal : Nat)

abbrev Action := ExceptT Stop (StateM Shell)

def optionNames : List (String × Char) :=
  [("errexit", 'e'), ("noglob", 'f'), ("ignoreeof", 'I'), ("interactive", 'i'), ("monitor", 'm'),
    ("noexec", 'n'), ("stdin", 's'), ("xtrace", 'x'), ("verbose", 'v'), ("vi", 'V'),
    ("emacs", 'E'), ("noclobber", 'C'), ("allexport", 'a'), ("notify", 'b'), ("nounset", 'u'),
    ("privileged", 'p')]

def optionLetters : List Char := optionNames.map (·.2)

namespace Shell

def defaultSeparators : ByteText := [' ', '\t', '\n']

def separators (shell : Shell) : ByteText :=
  match shell.bindings.lookup "IFS" with
  | some { value := some text, .. } => text
  | _ => defaultSeparators

def joint (shell : Shell) : ByteText := shell.separators.take 1

def hasOption (shell : Shell) (letter : Char) : Bool := shell.options.contains letter

def value? (shell : Shell) (name : String) : Option ByteText :=
  (shell.bindings.lookup name).bind (·.value)

def ignored (shell : Shell) : List Nat :=
  shell.process.ignored ++ (shell.traps.filter fun trap => trap.2.isEmpty).map (·.1)

def successor (shell : Shell) (environment : List (String × ByteText)) : Process :=
  { shell.process with environment, ignored := shell.ignored }

def hasTraps (shell : Shell) : Bool := shell.traps.any fun trap => !trap.2.isEmpty

def slot (size : Nat) (name : String) : Nat :=
  let codes := name.toList.map Char.toNat
  (codes.foldl (· + ·) (codes.headD 0 * 16)) % size

def bySlot {α : Type} (size : Nat) (entries : List (String × α)) : List (String × α) :=
  entries.mergeSort fun first second => slot size first.1 ≤ slot size second.1

def variableSlots : Nat := 39

def environment (shell : Shell) : List (String × ByteText) :=
  bySlot variableSlots (shell.bindings.filterMap fun (name, held) =>
    if held.exported then held.value.map (name, ·) else none)

def number (value : Nat) : ByteText := Nat.toDigits 10 value

/-- The value of a parameter that has one; the list of all arguments is not asked for here. -/
def parameter? (shell : Shell) (name : String) : Option ByteText :=
  match name with
  | "0" => some shell.name
  | "#" => some (number shell.arguments.length)
  | "?" => some (number shell.status)
  | "$" => some (number shell.scriptProcess)
  | "-" => some (optionLetters.reverse.filter (shell.options.contains ·))
  | "!" => (shell.jobs.head?).map fun job => number job.1
  | _ =>
      if name.toList.all Char.isDigit then
        match name.toNat? with
        | some (index + 1) => shell.arguments[index]?
        | _ => some shell.name
      else shell.value? name

end Shell

namespace Action

def ofTask {α : Type} (task : Task α) : Action α := do
  let shell ← get
  let (result, process) := task.run shell.process
  set { shell with process }
  return result

def setStatus (status : Nat) : Action Unit :=
  modify fun shell => { shell with status }

def complain (message : String) : Action Unit := do
  let shell ← get
  let command := match shell.command with
    | some name => name ++ ": "
    | none => ""
  ofTask (Task.complain s!"{shell.name.toText}: {shell.line}: {command}{message}")

def fail {α : Type} (message : String) : Action α := do
  complain message
  setStatus 2
  throw .failed

def outcome {α : Type} (action : Action α) : Action (Except Stop α) := fun shell =>
  let (result, after) := action shell
  (.ok result, after)

def resume {α : Type} (result : Except Stop α) : Action α := fun shell => (result, shell)

def number (text : ByteText) : Action Nat := do
  match Arithmetic.wholeNumber? text with
  | some value => return value
  | none => fail s!"Illegal number: {text.toText}"

def storeVariable (name : String) (value : ByteText) (exported : Bool) : Action Unit :=
  modify fun shell =>
    let before := (shell.bindings.lookup name).getD {}
    let exported := before.exported || exported || shell.hasOption 'a'
    { shell with bindings := setKey name { before with value := some value, exported } shell.bindings }

def noteChange (name : String) (value : ByteText) : Action Unit := do
  if name = "PATH" then modify fun shell => { shell with located := [] }
  else if name = "OPTIND" then
    let index ← number value
    modify fun shell => { shell with optionPlace := { index := max index 1 } }

def requireWritable (name : String) : Action Unit := do
  if ((← get).bindings.lookup name).any (·.readOnly) then fail s!"{name}: is read only"

def setVariable (name : String) (value : ByteText) (exported : Bool) : Action Unit := do
  requireWritable name
  noteChange name value
  storeVariable name value exported

def unsetVariable (name : String) : Action Unit := do
  requireWritable name
  noteChange name []
  modify fun shell => { shell with bindings := shell.bindings.filter (·.1 ≠ name) }

def setArguments (arguments : List ByteText) : Action Unit :=
  modify fun shell => { shell with arguments, optionPlace := {} }

end Action

namespace Signal

def code : ExitStatus → Nat
  | .exited code => code
  | .signaled number => 128 + number

def announce (status : ExitStatus) : Action Unit := do
  match status with
  | .exited _ => pure ()
  | .signaled number =>
      match descriptions.lookup number with
      | some text => Action.ofTask (Task.complain text)
      | none => pure ()

end Signal

end CallAtlas.Script
