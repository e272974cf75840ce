import CallAtlas.Script.Builtin.Directory
import CallAtlas.Script.Builtin.Limits
import CallAtlas.Script.Builtin.Names
import CallAtlas.Script.Builtin.Printing
import CallAtlas.Script.Builtin.Signals
import CallAtlas.Script.Builtin.Variables

/-!
The commands that a shell runs by itself, by their names.
-/

namespace CallAtlas.Script.Builtin

def exit : Builtin := fun arguments => do
  match arguments with
  | [] => do
      let shell ← get
      Action.setStatus (shell.trapped.getD shell.status)
      throw .exited
  | status :: _ => do
      Action.setStatus (← Action.number status)
      throw .exited

def leaveFunction : Builtin := fun arguments => do
  match arguments with
  | [] => throw .returned
  | status :: _ => do
      Action.setStatus (← Action.number status)
      throw .returned

def leaveLoops (stop : Nat → Stop) : Builtin := fun arguments => do
  let levels ← match arguments with
    | [] => pure 1
    | first :: _ => do
        let levels ← Action.number first
        if levels = 0 then Action.fail s!"Illegal number: {first.toText}"
        pure levels
  let loops := (← get).loops
  Action.setStatus 0
  if loops ≠ 0 then throw (stop (min levels loops))

def showTimes : Builtin := fun _ => do
  print "0m0.000000s 0m0.000000s\n0m0.000000s 0m0.000000s\n".toList
  Action.setStatus 0

def others : List String := [".", "eval", "exec", "command", "type", "hash"]

def plain : List (String × Builtin) :=
  [(":", fun _ => Action.setStatus 0), ("true", fun _ => Action.setStatus 0),
    ("false", fun _ => Action.setStatus 1), ("echo", echoText), ("printf", printFormat),
    ("test", test), ("[", bracket), ("cd", changeDirectory), ("chdir", changeDirectory),
    ("pwd", printDirectory), ("exit", exit), ("return", leaveFunction),
    ("break", leaveLoops .broken), ("continue", leaveLoops .continued), ("shift", shift),
    ("set", setCommand),
    ("export", markVariables "export" (fun held => { held with exported := true }) (·.exported)),
    ("readonly",
      markVariables "readonly" (fun held => { held with readOnly := true }) (·.readOnly)),
    ("unset", unset), ("local", hideVariables), ("read", read), ("trap", trap), ("kill", kill),
    ("wait", wait), ("getopts", getOptions), ("umask", mask), ("times", showTimes),
    ("jobs", showJobs), ("fg", resumeJob), ("bg", resumeJob), ("alias", setAliases),
    ("unalias", unsetAliases), ("ulimit", limit)]

def isBuiltin (name : String) : Bool :=
  others.contains name || (plain.lookup name).isSome

end CallAtlas.Script.Builtin
