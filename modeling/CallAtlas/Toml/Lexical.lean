import CallAtlas.Text.Reader

/-!
The small parts of a TOML text: blanks, line ends and comments.
-/

namespace CallAtlas.Toml

def isInlineBlank (c : Char) : Bool :=
  c = ' ' || c = '\t'

def isPlain (c : Char) : Bool :=
  c = '\t' || (0x20 ≤ c.toNat && c.toNat ≠ 0x7F)

def blanks : Reader Unit := do
  discard (Reader.takeWhile isInlineBlank)

def lineEnd : Reader Bool := do
  if ← Reader.accept "\n" then return true else Reader.accept "\r\n"

/-- Takes a comment off if there is one; its line end is left. -/
def comment : Reader Bool := do
  if ← Reader.accept "#" then
    discard (Reader.takeWhile isPlain)
    return true
  else
    return false

/-- What may follow a statement: blanks, a comment and the end of the line or text. -/
def statementEnd : Reader Unit := do
  blanks
  discard comment
  unless ← lineEnd do
    guard (← get).isEmpty

def blanksAndComments : Reader Unit := do
  discard <| Reader.collect do
    match ← Reader.peek? with
    | none => return none
    | some c =>
        if isInlineBlank c then
          blanks
          return some ()
        else if ← lineEnd then return some ()
        else if ← comment then return some ()
        else return none

end CallAtlas.Toml
