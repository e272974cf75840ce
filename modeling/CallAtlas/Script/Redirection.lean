import CallAtlas.Script.Expansion

/-!
Redirections: files are opened for a command, descriptors are made from others, and
all of them are as before once the command is done.
-/

namespace CallAtlas.Script

def OpenMode.form : OpenMode → OpenForm
  | .read => .reading
  | .write => .writing
  | .replace => .writing
  | .append => .appending
  | .readWrite => { reads := true, writes := true, creates := true }

namespace Evaluator

def openFault (path : ByteText) (creates : Bool) (cause : FileError) : String :=
  let reason := match cause with
    | .notFound => if creates then "Directory nonexistent" else "No such file"
    | .notADirectory => if creates then "Directory nonexistent" else "No such file"
    | other => other.reason
  let verb := if creates then "create" else "open"
  s!"cannot {verb} {path.toText}: {reason}"

def openAs (form : OpenForm) (path : ByteText) : Action OpenFile := do
  match ← Action.ofTask (Task.openPath form path) with
  | .ok file => return file
  | .error cause => Action.fail (openFault path form.creates cause)

def openTarget (mode : OpenMode) (path : ByteText) : Action OpenFile := do
  -- Under the option for it, `write` neither empties a file nor makes one where a link stands.
  if mode = .write && (← get).hasOption 'C' then
    match ← Action.ofTask (Task.stat path) with
    | .error _ => openAs { writes := true, creates := true, isExclusive := true } path
    | .ok object =>
        if object.isRegularFile then Action.fail (openFault path true .alreadyExists)
        else openAs { writes := true } path
  else openAs mode.form path

def connect (descriptor number : Nat) : Action Unit :=
  modify fun shell =>
    { shell with process := { shell.process with
        descriptors := setKey descriptor number shell.process.descriptors } }

def disconnect (descriptor : Nat) : Action Unit :=
  modify fun shell =>
    { shell with process := { shell.process with
        descriptors := shell.process.descriptors.filter (·.1 ≠ descriptor) } }

def connectNew (descriptor : Nat) (file : OpenFile) : Action Unit := do
  let shell ← get
  let (world, number) := shell.process.world.openFile file
  set { shell with process := { shell.process with world } }
  connect descriptor number

def duplicate (descriptor source : Nat) : Action Unit := do
  match (← get).process.descriptors.lookup source with
  | some number => connect descriptor number
  | none => Action.fail s!"{source}: Bad file descriptor"

/-- A redirection whose word is expanded; the text of a here-document is expanded last. -/
inductive Rerouting where
  | openFile (descriptor : Nat) (mode : OpenMode) (path : ByteText)
  | duplicate (descriptor source : Nat)
  | close (descriptor : Nat)
  | document (descriptor : Nat) (text : Word)

def badDescriptor {α : Type} : Action α := do
  -- The script is read further than the command.
  modify fun shell => { shell with line := shell.readLine }
  Action.fail "Syntax error: Bad fd number"

def reroute (evaluator : Evaluator) : Redirection → Action Rerouting
  | .openFile descriptor mode target => do
      return .openFile descriptor mode (← evaluator.text target)
  | .duplicate descriptor target => do
      match ← evaluator.text target with
      | ['-'] => return .close descriptor
      | [c] =>
          if c.isDigit then return .duplicate descriptor (c.toNat - '0'.toNat) else badDescriptor
      | _ => badDescriptor
  | .document descriptor text => return .document descriptor text

def Rerouting.descriptor : Rerouting → Nat
  | .openFile descriptor _ _ => descriptor
  | .duplicate descriptor _ => descriptor
  | .close descriptor => descriptor
  | .document descriptor _ => descriptor

def redirect (evaluator : Evaluator) : Rerouting → Action Unit
  | .openFile descriptor mode path => do connectNew descriptor (← openTarget mode path)
  | .duplicate descriptor source => duplicate descriptor source
  | .close descriptor => disconnect descriptor
  | .document descriptor text => do
      let text ← evaluator.text text
      let shell ← get
      let (world, source, sink) := shell.process.world.openPipe text
      set { shell with process := { shell.process with world := world.forget (· ≠ sink) } }
      connect descriptor source

structure Saved where
  descriptors : List (Nat × Nat)
  mark : Nat

def save : Action Saved := do
  let process := (← get).process
  return { descriptors := process.descriptors, mark := process.world.nextNumber }

/-- Makes the descriptors that were redirected lead where they did before, and closes what only they
lead to. -/
def restore (saved : Saved) (reroutings : List Rerouting) : Action Unit := do
  unless reroutings.isEmpty do modify fun shell =>
    let process := shell.process
    let changed := reroutings.map (·.descriptor)
    let opened := (process.descriptors.filter fun (descriptor, _) =>
      changed.contains descriptor).map (·.2)
    let kept := process.descriptors.filter fun (descriptor, _) => !(changed.contains descriptor)
    let descriptors := kept ++ saved.descriptors.filter fun (descriptor, _) =>
      changed.contains descriptor
    let isClosed := fun (number : Nat) =>
      saved.mark ≤ number && opened.contains number && !(descriptors.any (·.2 = number))
    let world := if opened.any isClosed then process.world.forget (!isClosed ·) else process.world
    { shell with process := { process with world, descriptors } }

end Evaluator

end CallAtlas.Script
