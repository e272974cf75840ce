/-!
Reading a text from its front. A reader takes characters off the text or refuses
it; loops are bounded by the length of the text they start on, since each of
their rounds takes at least one character.
-/

namespace CallAtlas

abbrev Reader := StateT (List Char) Option

namespace Reader

def peek? : Reader (Option Char) := do
  return (← get).head?

def startsWith (text : String) : Reader Bool := do
  return text.toList.isPrefixOf (← get)

def skip (count : Nat) : Reader Unit :=
  modify (·.drop count)

def expect (text : String) : Reader Unit := do
  guard (← startsWith text)
  skip text.length

def accept (text : String) : Reader Bool := do
  if ← startsWith text then
    skip text.length
    return true
  else
    return false

def takeWhile (p : Char → Bool) : Reader (List Char) := do
  let text ← get
  set (text.dropWhile p)
  return text.takeWhile p

def takeExactly (count : Nat) (p : Char → Bool) : Reader (List Char) := do
  let front := (← get).take count
  guard (front.length = count && front.all p)
  skip count
  return front

def collectWithin {α : Type} : Nat → Reader (Option α) → Reader (List α)
  | 0, _ => failure
  | bound + 1, step => do
      match ← step with
      | none => return []
      | some item => return item :: (← collectWithin bound step)

/-- Repeats a reader until it says that it is done. -/
def collect {α : Type} (step : Reader (Option α)) : Reader (List α) := do
  collectWithin ((← get).length + 1) step

end Reader

end CallAtlas
