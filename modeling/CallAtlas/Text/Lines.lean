import CallAtlas.Text.Blank

/-!
Lines of a text. A text is cut into pieces at every line feed; its lines are the
pieces without a last empty one, and a line loses one carriage return that stands
before its line feed. The extent of a range of lines is the number of its lines
that are not blank.
-/

namespace CallAtlas.Text

/-- The parts between line feeds; a text with `n` line feeds has `n + 1` pieces. -/
def pieces : List Char → List (List Char)
  | [] => [[]]
  | c :: rest =>
      if c = '\n' then [] :: pieces rest
      else match pieces rest with
        | [] => [[c]]
        | piece :: more => (c :: piece) :: more

def dropReturn (line : List Char) : List Char :=
  if line.getLast? = some '\r' then line.dropLast else line

def lines (text : List Char) : List (List Char) :=
  let all := pieces text
  all.dropLast.map dropReturn ++ (all.getLast?.toList.filter (fun piece => !piece.isEmpty))

/-- How many lines to skip and how many to take for the lines `first` to `last`,
counted from one; nothing for a range that starts before line one or is reversed. -/
def window (first last : Nat) : Option (Nat × Nat) :=
  if first = 0 ∨ last < first then none else some (first - 1, last - first + 1)

def nonBlankLines (text : List Char) (first last : Nat) : Nat :=
  match window first last with
  | none => 0
  | some (skipped, taken) =>
      (((lines text).drop skipped).take taken).countP (fun line => !allBlank line)

theorem pieces_ne_nil (text : List Char) : pieces text ≠ [] := by
  cases text with
  | nil => simp [pieces]
  | cons c rest =>
      simp only [pieces]
      split
      · simp
      · split <;> simp

end CallAtlas.Text
