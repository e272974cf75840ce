import CallAtlas.Script.Builtin.Basic
import CallAtlas.Script.Condition
import CallAtlas.Script.Format

/-!
The commands of the shell that print texts and ask questions.
-/

namespace CallAtlas.Script.Builtin

def echoText : Builtin := fun arguments => do
  print (echo arguments)
  Action.setStatus 0

def printFormat : Builtin := fun arguments => do
  match ← operands arguments with
  | [] => Action.fail "usage: printf format [arg ...]"
  | format :: rest => do
      let printing := formatted format rest
      print printing.output
      printing.complaints.forM Action.complain
      match printing.invalid with
      | some directive =>
          if printing.unfinished then Action.fail "missing format character"
          else Action.fail s!"{directive}: invalid directive"
      | none => Action.setStatus (if printing.complaints.isEmpty then 0 else 1)

def test : Builtin := fun arguments => do
  match Condition.evaluate (← get).process.files arguments with
  | .ok holds => Action.setStatus (if holds then 0 else 1)
  | .error complaint => Action.fail complaint

/-- Asks a question between brackets; the last argument need only begin with one. -/
def bracket : Builtin := fun arguments => do
  if (arguments.getLast?.bind List.head?) = some ']' then test arguments.dropLast
  else Action.fail "missing ]"

end CallAtlas.Script.Builtin
