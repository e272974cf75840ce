import CallAtlas.Text.Blank
import CallAtlas.Text.Bytes

/-!
Cutting spans out of a text. A cut that leaves nothing but blanks on its lines
takes the lines with it. Cuts are put in order, overlapping ones are joined, and
the text is cut from the last to the first, so that no cut moves another.
-/

namespace CallAtlas.Text

def lineBefore (text : List Char) (offset : Nat) : List Char :=
  ((takeBytes offset text).reverse.takeWhile (· ≠ '\n')).reverse

def firstLine : List Char → List Char
  | [] => []
  | c :: rest => if c = '\n' then [c] else c :: firstLine rest

def lineAfter (text : List Char) (offset : Nat) : List Char :=
  firstLine (dropBytes offset text)

namespace Span

/-- Takes in the lines of a span if nothing visible shares them. -/
def widen (text : List Char) (span : Span) : Span :=
  let before := lineBefore text span.start
  let after := lineAfter text span.stop
  if allBlank before && allBlank after then
    ⟨span.start - byteLength before, span.stop + byteLength after⟩
  else span

def goesBefore (first second : Span) : Bool :=
  first.start < second.start || (first.start == second.start && first.stop ≤ second.stop)

def joinFrom (current : Span) : List Span → List Span
  | [] => [current]
  | next :: rest =>
      if next.start < current.stop then joinFrom ⟨current.start, max current.stop next.stop⟩ rest
      else current :: joinFrom next rest

def join : List Span → List Span
  | [] => []
  | first :: rest => joinFrom first rest

/-- The same bytes in ordered spans that do not overlap. -/
def merge (spans : List Span) : List Span :=
  join (spans.mergeSort goesBefore)

end Span

def cut (span : Span) (text : List Char) : List Char :=
  takeBytes span.start text ++ dropBytes span.stop text

def cutAll (spans : List Span) (text : List Char) : List Char :=
  spans.foldr cut text

end CallAtlas.Text
