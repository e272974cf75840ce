import CallAtlas.Proofs.Text.Offsets
import CallAtlas.Text.Lines
import CallAtlas.Text.Position
import Mathlib.Algebra.Order.Interval.Finset.SuccPred
import Mathlib.Data.Nat.SuccPred
import Mathlib.Order.Interval.Finset.Nat

/-!
Lines by their numbers. A row counts line feeds and lines come from cutting a text
at line feeds, so a character stands on the line whose number is one more than its
row. The first line of a span is that of its first character and the last line that
of its last one, be it a line feed or not. Counting the lines that are not blank is
counting the numbers of lines with a visible character.
-/

namespace CallAtlas.Text

variable {text : List Char}

/-- Whether the line with a number, counted from one, holds a visible character. -/
def lineShows (text : List Char) : Nat → Bool
  | 0 => false
  | index + 1 => (lines text)[index]?.any fun line => !allBlank line

section Pieces

theorem pieces_feed (rest : List Char) : pieces ('\n' :: rest) = [] :: pieces rest := by
  simp [pieces]

theorem pieces_plain {c : Char} (plain : c ≠ '\n') (rest : List Char) :
    ∃ piece more, pieces rest = piece :: more ∧ pieces (c :: rest) = (c :: piece) :: more := by
  cases all : pieces rest with
  | nil => exact absurd all (pieces_ne_nil rest)
  | cons piece more => exact ⟨piece, more, rfl, by simp [pieces, plain, all]⟩

theorem mem_piece {c : Char} (plain : c ≠ '\n') (before after : List Char) :
    ∃ piece, (pieces (before ++ c :: after))[before.count '\n']? = some piece ∧ c ∈ piece := by
  induction before with
  | nil =>
      obtain ⟨piece, more, -, all⟩ := pieces_plain plain after
      exact ⟨c :: piece, by simp [all], List.mem_cons_self⟩
  | cons first rest ih =>
      obtain ⟨piece, found, member⟩ := ih
      rw [List.cons_append]
      by_cases feed : first = '\n'
      · subst first
        exact ⟨piece, by simp [pieces_feed, found], member⟩
      · obtain ⟨head, more, all, next⟩ := pieces_plain feed (rest ++ c :: after)
        rw [all] at found
        rw [next, List.count_cons_of_ne feed]
        -- A character in front makes the first piece longer and moves no other.
        cases row : rest.count '\n' with
        | zero =>
            rw [row] at found
            obtain rfl : head = piece := by simpa using found
            exact ⟨first :: head, rfl, List.mem_cons_of_mem _ member⟩
        | succ row' =>
            rw [row] at found
            exact ⟨piece, found, member⟩

theorem allBlank_dropReturn (line : List Char) : allBlank (dropReturn line) = allBlank line := by
  unfold dropReturn
  split
  · next ends =>
      obtain ⟨front, rfl⟩ := List.getLast?_eq_some_iff.mp ends
      simp [allBlank, isBlank_return]
  · rfl

/-- Neither a carriage return dropped nor an empty line left out at the end makes a difference. -/
theorem lineShows_succ (text : List Char) (index : Nat) :
    lineShows text (index + 1) = (pieces text)[index]?.any fun piece => !allBlank piece := by
  obtain empty | ⟨front, last, all⟩ := (pieces text).eq_nil_or_concat
  · exact absurd empty (pieces_ne_nil text)
  rw [lineShows, lines, all]
  simp only [List.concat_eq_append, List.dropLast_concat, List.getLast?_concat, Option.toList_some]
  by_cases inside : index < front.length
  · rw [List.getElem?_append_left (by simpa using inside), List.getElem?_append_left inside]
    simp [inside, allBlank_dropReturn]
  · rw [List.getElem?_append_right (by simpa using inside),
      List.getElem?_append_right (by simpa using inside), List.length_map]
    cases last with
    | nil => cases index - front.length <;> simp [allBlank]
    | cons c rest => rfl

theorem lineShows_of_visible {c : Char} (seen : isBlank c = false) (before after : List Char) :
    lineShows (before ++ c :: after) (before.count '\n' + 1) = true := by
  have plain : c ≠ '\n' := by
    intro feed
    rw [feed, isBlank_newline] at seen
    cases seen
  obtain ⟨piece, found, member⟩ := mem_piece plain before after
  rw [lineShows_succ, found, Option.any_some, Bool.not_eq_true', allBlank, List.all_eq_false]
  exact ⟨c, member, by simp [seen]⟩

end Pieces

section Counting

variable {first last : Nat}

theorem countP_lines (text : List Char) (skipped taken : Nat) :
    (((lines text).drop skipped).take taken).countP (fun line => !allBlank line) =
      ((Finset.Icc (skipped + 1) (skipped + taken)).filter (lineShows text ·)).card := by
  induction taken with
  | zero => simp
  | succ taken ih =>
      have next : lineShows text (skipped + taken + 1) =
          (lines text)[skipped + taken]?.any fun line => !allBlank line := rfl
      have fresh : skipped + taken + 1 ∉
          (Finset.Icc (skipped + 1) (skipped + taken)).filter (lineShows text ·) := by
        simp
      rw [List.take_add_one, List.countP_append, ih, List.getElem?_drop, ← Nat.add_assoc,
        ← Finset.insert_Icc_right_eq_Icc_add_one (show skipped + 1 ≤ skipped + taken + 1 by omega),
        Finset.filter_insert, next]
      cases (lines text)[skipped + taken]? with
      | none => simp
      | some line =>
          cases blank : allBlank line with
          | true => simp [blank]
          | false => simp [blank, Finset.card_insert_of_notMem fresh]

theorem nonBlankLines_eq_card (text : List Char) (positive : 0 < first) :
    nonBlankLines text first last = ((Finset.Icc first last).filter (lineShows text ·)).card := by
  unfold nonBlankLines window
  by_cases reversed : last < first
  · simp [reversed]
  · rw [if_neg (by omega)]
    dsimp only
    rw [countP_lines, show first - 1 + 1 = first by omega,
      show first - 1 + (last - first + 1) = last by omega]

theorem nonBlankLines_mono {first' last' : Nat} (text : List Char) (positive : 0 < first)
    (lower : first ≤ first') (upper : last' ≤ last) :
    nonBlankLines text first' last' ≤ nonBlankLines text first last := by
  rw [nonBlankLines_eq_card text positive, nonBlankLines_eq_card text (by omega)]
  apply Finset.card_le_card
  exact Finset.filter_subset_filter _ (Finset.Icc_subset_Icc lower upper)

theorem nonBlankLines_le (text : List Char) (positive : 0 < first) :
    nonBlankLines text first last ≤ last + 1 - first := by
  rw [nonBlankLines_eq_card text positive, ← Nat.card_Icc]
  exact Finset.card_filter_le _ _

theorem nonBlankLines_pos {number : Nat} (lower : first ≤ number) (upper : number ≤ last)
    (positive : 0 < first) (shows : lineShows text number = true) :
    0 < nonBlankLines text first last := by
  rw [nonBlankLines_eq_card text positive, Finset.card_pos]
  exact ⟨number, Finset.mem_filter.mpr ⟨Finset.mem_Icc.mpr ⟨lower, upper⟩, shows⟩⟩

end Counting

section Rows

variable {before after : List Char} {offset : Nat} {span : Span}

theorem positionAt_of_split (split : text = before ++ after) (size : byteLength before = offset) :
    positionAt text offset = endPosition before := by
  rw [positionAt, split, ← size, takeBytes_append]

theorem startLine_of_split (split : text = before ++ after)
    (starts : byteLength before = span.start) : startLine text span = before.count '\n' + 1 := by
  rw [startLine, positionAt_of_split split starts, endPosition]

theorem column_eq_zero_iff (front : List Char) (c : Char) :
    (endPosition (front ++ [c])).column = 0 ↔ c = '\n' := by
  have pos := c.utf8Size_pos
  by_cases feed : c = '\n'
  · simp [endPosition, feed]
  · simp [endPosition, feed]
    omega

theorem endLine_of_last {front : List Char} {c : Char}
    (split : text = before ++ (front ++ [c]) ++ after) (starts : byteLength before = span.start)
    (stops : byteLength (before ++ (front ++ [c])) = span.stop) :
    endLine text span = (before ++ front).count '\n' + 1 := by
  have head := positionAt_of_split (split.trans (List.append_assoc _ _ _)) starts
  have tail : positionAt text span.stop = endPosition (before ++ front ++ [c]) := by
    rw [positionAt_of_split split stops, List.append_assoc]
  have column := column_eq_zero_iff (before ++ front) c
  rw [endLine, head, tail]
  by_cases feed : c = '\n'
  · -- The line feed belongs to the line that it ends.
    have later : (endPosition before).row < (endPosition (before ++ front ++ [c])).row := by
      simp [endPosition, feed]
    rw [if_pos ⟨column.mpr feed, later⟩]
    simp [endPosition, feed, Nat.add_assoc]
  · rw [if_neg (fun both => feed (column.mp both.1))]
    simp [endPosition, feed]

theorem Span.Fits.lines (fits : span.Fits text) (nonempty : span.start < span.stop) :
    ∃ before front c after, text = before ++ (front ++ [c]) ++ after ∧
      byteLength before = span.start ∧ byteLength (before ++ (front ++ [c])) = span.stop ∧
      startLine text span = before.count '\n' + 1 ∧
      endLine text span = (before ++ front).count '\n' + 1 := by
  obtain ⟨before, after, split, starts, stops⟩ := fits.slice
  obtain empty | ⟨front, c, all⟩ := (Text.slice text span).eq_nil_or_concat
  · rw [empty, List.append_nil] at stops
    omega
  · rw [all, List.concat_eq_append] at split stops
    refine ⟨before, front, c, after, split, starts, stops, ?_, endLine_of_last split starts stops⟩
    exact startLine_of_split (split.trans (List.append_assoc _ _ _)) starts

theorem count_le_of_prefix {first second rest rest' : List Char}
    (same : first ++ rest = second ++ rest') (shorter : byteLength first ≤ byteLength second) :
    first.count '\n' ≤ second.count '\n' := by
  obtain ⟨middle, rfl, -⟩ := prefix_of_byteLength_le same shorter
  rw [List.count_append]
  exact Nat.le_add_right _ _

theorem lines_within {inner outer : Span} (fits : inner.Fits text) (fits' : outer.Fits text)
    (nonempty : inner.start < inner.stop) (lower : outer.start ≤ inner.start)
    (upper : inner.stop ≤ outer.stop) :
    startLine text outer ≤ startLine text inner ∧ endLine text inner ≤ endLine text outer := by
  obtain ⟨before, front, c, after, split, starts, stops, opens, closes⟩ := fits.lines nonempty
  obtain ⟨before', front', c', after', split', starts', stops', opens', closes'⟩ :=
    fits'.lines (by omega)
  rw [opens, opens', closes, closes']
  have same := split'.symm.trans split
  constructor
  · apply Nat.add_le_add_right
    rw [List.append_assoc, List.append_assoc before] at same
    exact count_le_of_prefix same (by omega)
  · apply Nat.add_le_add_right
    -- The last character of the inner span does not stand behind that of the outer one.
    obtain ⟨middle, longer, -⟩ := prefix_of_byteLength_le same.symm (by omega)
    have leading : before ++ front ++ [c] <+: before' ++ front' ++ [c'] :=
      ⟨middle, by simpa using longer.symm⟩
    have shorter : before ++ front <+: before' ++ front' := by
      rcases List.prefix_concat_iff.mp leading with equal | inside
      · exact (List.append_inj_left' equal rfl) ▸ List.prefix_rfl
      · exact (List.prefix_append _ _).trans inside
    exact shorter.sublist.count_le _

theorem exists_line_of_visible {c : Char} (fits : span.Fits text) (member : c ∈ slice text span)
    (seen : isBlank c = false) :
    ∃ number, startLine text span ≤ number ∧ number ≤ endLine text span ∧
      lineShows text number = true := by
  obtain ⟨before, after, split, starts, stops⟩ := fits.slice
  obtain ⟨front, back, part⟩ := List.append_of_mem member
  rw [part] at split stops
  -- The character is a span of its own, with one line, inside of the other.
  let own : Span := ⟨byteLength (before ++ front), byteLength (before ++ front ++ [c])⟩
  have split' : text = before ++ front ++ ([] ++ [c]) ++ (back ++ after) := by simp [split]
  have pos := c.utf8Size_pos
  have ownFits : own.Fits text := by
    constructor
    · simp [own]
    · exact ⟨before ++ front, c :: back ++ after, by simp [split], rfl⟩
    · exact ⟨before ++ front ++ [c], back ++ after, by simp [split], rfl⟩
  obtain ⟨lower, upper⟩ := lines_within ownFits fits (by simpa [own] using pos)
    (by simp [own, ← starts]) (by simp [own, ← stops])
  have opens : startLine text own = (before ++ front).count '\n' + 1 :=
    startLine_of_split (split'.trans (List.append_assoc _ _ _)) rfl
  have closes : endLine text own = (before ++ front ++ []).count '\n' + 1 :=
    endLine_of_last split' rfl rfl
  rw [List.append_nil] at closes
  refine ⟨(before ++ front).count '\n' + 1, opens ▸ lower, closes ▸ upper, ?_⟩
  rw [split']
  simpa using lineShows_of_visible seen (before ++ front) (back ++ after)

end Rows

end CallAtlas.Text
