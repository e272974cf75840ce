import CallAtlas.Script.Grammar
import CallAtlas.Script.Redirection

/-!
Running texts as scripts, the end of scripts, and shells that are started from others
and share nothing with them but the world.
-/

namespace CallAtlas.Script

namespace Evaluator

def showSource (shown : Bool) (text left : ByteText) : Action Unit := do
  if shown && (← get).hasOption 'v' then
    discard (Action.ofTask (Task.write 2 (text.take (text.length - left.length))))

/-- Runs what is left of a script, command by command; the bound is on their number. -/
def runSource (evaluator : Evaluator) (shown tested ends : Bool) :
    Nat → Bool → Source → Action Unit
  -- What is read from a file can be shown; with some scripts the shell `ends`. A script without
  -- commands comes to zero; `began` tells that it had one.
  | 0, _, _ => pure ()
  | bound + 1, began, source => do
      match nextCommand { source with aliases := (← get).aliases, replaced := [] } with
      | .ok none => do
          showSource shown source.rest []
          unless began do Action.setStatus 0
      | .ok (some (command, rest)) => do
          showSource shown source.rest rest.rest
          modify fun shell =>
            { shell with readLine := rest.line, isTail := ends && rest.rest.isEmpty }
          evaluator.execute tested command
          let isCommand := match command with
            | .nothing => false
            | _ => true
          runSource evaluator shown tested ends bound (began || isCommand) rest
      | .error fault => do
          showSource shown source.rest []
          modify fun shell => { shell with line := fault.line }
          Action.fail s!"Syntax error: {fault.message}"

def runInner (script : Action Unit) : Action Unit := do
  let before := (← get).readLine
  let result ← Action.outcome script
  modify fun shell => { shell with readLine := before }
  Action.resume result

def runText (evaluator : Evaluator) (tested : Bool) (text : ByteText) : Action Unit :=
  runInner (evaluator.runSource false tested false (text.length + 1) false (.ofText text))

def runOnly (evaluator : Evaluator) (text : ByteText) : Action Unit :=
  runInner (evaluator.runSource false false true (text.length + 1) false (.ofText text))

/-- Runs the content of a file as a script; zero bytes in it do not count. -/
def runFile (evaluator : Evaluator) (content : ByteText) : Action Unit :=
  let text := content.filter (· ≠ '\x00')
  runInner (evaluator.runSource true false false (text.length + 1) false (.ofText text))

def finish (evaluator : Evaluator) (result : Except Stop Unit) (shell : Shell) :
    ExitStatus × Shell :=
  match result with
  | .error (.killed signal) => (.signaled signal, shell)
  | _ =>
      match shell.traps.lookup 0 with
      | none => (.exited (shell.status % 256), shell)
      | some text =>
          let ready := { shell with
            traps := shell.traps.filter (·.1 ≠ 0)
            command := none
            trapped := some shell.status }
          match evaluator.runText false text ready with
          | (.error (.killed signal), after) => (.signaled signal, after)
          | (.error .exited, after) => (.exited (after.status % 256), after)
          | (.error .failed, after) => (.exited (after.status % 256), after)
          | (_, after) => (.exited (shell.status % 256), after)

/-- A shell that starts as a copy of another one; of its traps only ignored signals stay. -/
def child (shell : Shell) : Shell :=
  let world := shell.process.world
  { shell with
    process := { shell.process with world := { world with nextProcess := world.nextProcess + 1 } }
    ownProcess := world.nextProcess
    traps := shell.traps.filter fun (signal, text) => signal ≠ 0 && text.isEmpty
    loops := 0
    isTail := true }

def subshell (evaluator : Evaluator) (body : Action Unit) : Action ExitStatus := do
  let shell ← get
  let mark := shell.process.world.nextNumber
  let (result, after) := body (child shell)
  let (status, last) := evaluator.finish result after
  let world := last.process.world.forget (· < mark)
  set { shell with process := { shell.process with world } }
  return status

/-- Takes over what a program came to; that a signal ended it is said. -/
def settle (status : ExitStatus) : Action Unit := do
  Signal.announce status
  Action.setStatus (Signal.code status)

def outputOf (evaluator : Evaluator) (body : Command) : Action ByteText := do
  let shell ← get
  let mark := shell.process.world.nextNumber
  let (world, source, sink) := shell.process.world.openPipe []
  set { shell with process := { shell.process with world } }
  let status ← evaluator.subshell do
    connect 1 sink
    evaluator.execute false body
  settle status
  modify fun after => { after with substituted := after.status, status := shell.status }
  let world := (← get).process.world
  let content := (world.unread source none).toOption.getD []
  modify fun after =>
    { after with process := { after.process with world := world.forget (· < mark) } }
  return withoutLineEnds (content.filter (· ≠ '\x00'))

def partAtoms (evaluator : Evaluator) (role : WordRole) : Part → Action (List Atom)
  | .literal text quoted => return text.map fun c => .char c quoted false
  | .quotes => return [.quotes]
  | .parameter name use quoted => evaluator.parameterAtoms role name use quoted
  | .output body quoted => Atom.ofText quoted <$> evaluator.outputOf body
  | .arithmetic expression quoted => do
      return Atom.ofText quoted (← arithmetic (← evaluator.text expression))

def homes : List (String × String) :=
  [("root", "/root"), ("daemon", "/usr/sbin"), ("bin", "/bin"), ("sys", "/dev"), ("sync", "/bin"),
    ("games", "/usr/games"), ("man", "/var/cache/man"), ("lp", "/var/spool/lpd"),
    ("mail", "/var/mail"), ("news", "/var/spool/news"), ("uucp", "/var/spool/uucp"),
    ("proxy", "/bin"), ("www-data", "/var/www"), ("backup", "/var/backups"),
    ("list", "/var/list"), ("nobody", "/nonexistent")]

/-- The home directory of a user; the one that the script runs for is not named. -/
def home? (shell : Shell) (user : ByteText) : Option ByteText :=
  if user.isEmpty then shell.value? "HOME" else (homes.lookup user.toText).map String.toList

def tildeAtoms (shell : Shell) (text : ByteText) : List Atom :=
  -- If a tilde stands in front, up to a slash, a home directory takes its place.
  let plain := text.map fun c => Atom.char c false false
  match text with
  | '~' :: rest =>
      let user := rest.takeWhile (· ≠ '/')
      match home? shell user with
      | some home => home.map (Atom.char · true false) ++ plain.drop (user.length + 1)
      | none => plain
  | _ => plain

def literalAtoms (shell : Shell) (role : WordRole) (isFirst isLast : Bool) (text : ByteText) :
    List Atom :=
  -- In front of the word, and behind colons if it is assigned, a tilde may stand; it must be known
  -- where it ends.
  let pieces := match role with
    | .plain => [text]
    | .assigned => ByteText.split ':' text
  let size := pieces.length
  let shown := pieces.zipIdx.map fun (piece, index) =>
    let begins := isFirst || 0 < index
    let ends := isLast || index + 1 < size || piece.contains '/'
    if begins && ends then tildeAtoms shell piece else piece.map fun c => .char c false false
  (shown.intersperse [.char ':' false false]).flatten

def partsAtoms (evaluator : Evaluator) (role : WordRole) : Bool → Word → Action (List Atom)
  | _, [] => return []
  | isFirst, first :: rest => do
      let atoms ← match first with
        | .literal text false => do pure (literalAtoms (← get) role isFirst rest.isEmpty text)
        | other => evaluator.partAtoms role other
      return atoms ++ (← partsAtoms evaluator role false rest)

def wordAtoms (evaluator : Evaluator) (role : WordRole) (word : Word) : Action (List Atom) :=
  evaluator.partsAtoms role true word

def receive (evaluator : Evaluator) : Action Unit := do
  let shell ← get
  let world := shell.process.world
  let mine := world.signals.filter (·.1 = shell.ownProcess)
  unless mine.isEmpty do
    let signals := world.signals.filter (·.1 ≠ shell.ownProcess)
    set { shell with process := { shell.process with world := { world with signals } } }
    mine.forM fun (_, signal) => do
      let shell ← get
      unless shell.process.ignored.contains signal do
        match if Signal.isCertain signal then none else shell.traps.lookup signal with
        | some text => do
            set { shell with trapped := some (shell.trapped.getD shell.status) }
            evaluator.runText false text
            modify fun after => { after with status := shell.status, trapped := shell.trapped }
        | none => if Signal.isFatal signal then throw (.killed signal)

end Evaluator

end CallAtlas.Script
