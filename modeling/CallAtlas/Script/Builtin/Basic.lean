import CallAtlas.Script.Launch

/-!
What the commands that a shell runs by itself have in common. What they print is
written once they end, while complaints are written at once.
-/

namespace CallAtlas.Script

abbrev Builtin := List ByteText → Action Unit

namespace Builtin

def print (text : ByteText) : Action Unit :=
  modify fun shell => { shell with pending := shell.pending ++ text }

def flush : Action Bool := do
  let text := (← get).pending
  modify fun shell => { shell with pending := [] }
  if text.isEmpty then return true else Action.ofTask (Task.write 1 text)

/-- Runs a command of the shell under its name. -/
def run (name : String) (body : Action Unit) : Action Unit := do
  -- What it printed is written however it ended; that it cannot be written is an error of a command
  -- that came to its end.
  let before := (← get).command
  modify fun shell => { shell with command := some name }
  let result ← Action.outcome body
  let taken ← flush
  match result with
  | .ok () => unless taken do
      let status := (← get).status
      Action.complain s!"{((← get).command).getD name}: I/O error"
      Action.setStatus (status ||| 1)
  | .error _ => pure ()
  modify fun shell => { shell with command := before }
  Action.resume result

def refuse (status : Nat) (message : String) : Action Unit := do
  Action.ofTask (Task.complain message)
  Action.setStatus status

def options (flags valued : List Char) (arguments : List ByteText) : Action Utility.Given := do
  let form : Utility.OptionForm := { flags, valued, stopsAtOperand := true }
  match Utility.readArguments form (arguments.length + 1) arguments {} with
  | .ok given => return given
  | .error fault => Action.fail fault.shortMessage

def operands (arguments : List ByteText) : Action (List ByteText) := do
  return (← options [] [] arguments).operands

/-- A value in quotes that a shell reads back: its apostrophes stand between other quotes. -/
def quotedParts : Nat → ByteText → ByteText
  -- The bound is on the length of the value.
  | 0, _ => []
  | bound + 1, value =>
      let plain := value.takeWhile (· ≠ '\'')
      let behind := value.drop plain.length
      let apostrophes := behind.takeWhile (· = '\'')
      let rest := behind.drop apostrophes.length
      '\'' :: plain ++ '\'' ::
        if apostrophes.isEmpty then []
        else '"' :: apostrophes ++ '"' :: if rest.isEmpty then [] else quotedParts bound rest

def quoted (value : ByteText) : ByteText := quotedParts (value.length + 1) value

def nameAndValue (argument : ByteText) : ByteText × Option ByteText :=
  let name := argument.takeWhile (· ≠ '=')
  if name.length = argument.length then (name, none)
  else (name, some (argument.drop (name.length + 1)))

def checkedName (argument : ByteText) : Action String := do
  let name := (nameAndValue argument).1
  if isName name then return String.ofList name
  else Action.fail s!"{ByteText.toText name}: bad variable name"

end Builtin

end CallAtlas.Script
