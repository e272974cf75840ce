import CallAtlas.Text.Bytes

/-!
Rows and columns of byte offsets. A row is the number of line feeds before the
offset and a column is the number of bytes since the last of them, both counted
from zero.
-/

namespace CallAtlas.Text

structure Position where
  row : Nat
  column : Nat
  deriving DecidableEq, Repr

def endPosition (text : List Char) : Position where
  row := text.count '\n'
  column := byteLength (text.reverse.takeWhile (· ≠ '\n'))

def positionAt (text : List Char) (offset : Nat) : Position :=
  endPosition (takeBytes offset text)

def startLine (text : List Char) (span : Span) : Nat :=
  (positionAt text span.start).row + 1

/-- The last line of a span, counted from one. -/
def endLine (text : List Char) (span : Span) : Nat :=
  -- A span that ends right behind a line feed ends on the line before, unless it started there.
  let first := positionAt text span.start
  let last := positionAt text span.stop
  if last.column = 0 ∧ first.row < last.row then last.row else last.row + 1

end CallAtlas.Text
