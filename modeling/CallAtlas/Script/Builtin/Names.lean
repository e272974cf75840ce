import CallAtlas.Script.Builtin.Basic

/-!
The commands of the shell about what names of commands stand for: texts that take
their place, and programs that were found for them.
-/

namespace CallAtlas.Script.Builtin

def aliasSlots : Nat := 39

def programSlots : Nat := 31

def shownAlias (name : String) (text : ByteText) : ByteText :=
  name.toList ++ '=' :: quoted text

/-- The name and the text of an argument that lets one stand for the other; a name may begin with
an equals sign. -/
def aliasOf (argument : ByteText) : String × Option ByteText :=
  match argument with
  | [] => ("", none)
  | first :: rest =>
      let (name, text) := nameAndValue rest
      (String.ofList (first :: name), text)

def setAliases : Builtin := fun arguments => do
  Action.setStatus 0
  if arguments.isEmpty then
    print ((Shell.bySlot aliasSlots (← get).aliases).flatMap fun (name, text) =>
      shownAlias name text ++ ['\n'])
  arguments.forM fun argument => do
    let (name, text) := aliasOf argument
    let shell ← get
    match text, shell.aliases.lookup name with
    | some text, _ => set { shell with aliases := setKey name text shell.aliases }
    | none, some text => print (shownAlias name text ++ ['\n'])
    | none, none => refuse 1 s!"alias: {argument.toText} not found"

def unsetAliases : Builtin := fun arguments => do
  Action.setStatus 0
  let isAll := match arguments with
    | ('-' :: 'a' :: _) :: _ => true
    | _ => false
  if isAll then modify fun shell => { shell with aliases := [] }
  else
    (← operands arguments).forM fun argument => do
      let name := String.ofList argument
      let shell ← get
      if (shell.aliases.lookup name).isSome then
        set { shell with aliases := shell.aliases.filter (·.1 ≠ name) }
      else refuse 1 s!"unalias: {argument.toText} not found"

def shownLocated (directories : ByteText) (name : String) (held : Located) : ByteText :=
  let path := ((Evaluator.candidates directories name.toList)[held.place]?).getD []
  path ++ (if held.isStale then ['*'] else []) ++ ['\n']

/-- Looks for programs, so that they are found later, or shows those that were found. -/
def locate (isKnown : Shell → String → Bool) : Builtin := fun arguments => do
  -- Names that `isKnown` tells are no names of programs.
  Action.setStatus 0
  let given ← options ['r'] [] arguments
  if given.has 'r' then modify fun shell => { shell with located := [] }
  else
    let names := given.operands
    let directories := ((← get).value? "PATH").getD []
    if names.isEmpty then
      print ((Shell.bySlot programSlots (← get).located).flatMap fun (name, held) =>
        shownLocated directories name held)
    names.forM fun name => do
      let text := String.ofList name
      unless isKnown (← get) text || name.contains '/' do
        modify fun shell => { shell with located := shell.located.filter (·.1 ≠ text) }
        match ← Evaluator.locateProgram directories name with
        | .ok _ => pure ()
        | .error cause => do
            Action.complain s!"{name.toText}: {Evaluator.startFault cause}"
            Action.setStatus 1

end CallAtlas.Script.Builtin
