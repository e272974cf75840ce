import CallAtlas.Proofs.Text.Lines

/-!
Counting lines that are not blank. The count skips and takes lines, which lose a
carriage return and a last empty piece; it comes to counting the numbers of the
pieces between line feeds that hold a visible character (`nonBlankLines_exact`).
Words of 64 bits are enough for it. Counts of ranges that follow each other add
up, and a carriage return before each line feed does not change them.
-/

namespace CallAtlas.Text

def subWord? (first second : UInt64) : Option UInt64 :=
  if second ≤ first then some (first - second) else none

def addWord? (first second : UInt64) : Option UInt64 :=
  if first.toNat + second.toNat < UInt64.size then some (first + second) else none

/-- The window of a range, computed on words; `none` if a result on the way is not a word. -/
def wordWindow? (first last : UInt64) : Option (Option (UInt64 × UInt64)) :=
  if first = 0 ∨ last < first then some none
  else do
    let skipped ← subWord? first 1
    let distance ← subWord? last first
    let taken ← addWord? distance 1
    return some (skipped, taken)

def pieceShows (text : List Char) (number : Nat) : Bool :=
  (text.splitOn '\n')[number - 1]?.any fun piece => piece.any fun c => !isBlank c

def withReturns (text : List Char) : List Char :=
  text.flatMap fun c => if c = '\n' then ['\r', '\n'] else [c]

section Words

variable {first last : UInt64}

theorem subWord?_of_le (le : last ≤ first) : subWord? first last = some (first - last) := by
  simp [subWord?, le]

theorem addWord?_of_lt (lt : first.toNat + last.toNat < UInt64.size) :
    addWord? first last = some (first + last) ∧ (first + last).toNat = first.toNat + last.toNat := by
  constructor
  · simp [addWord?, lt]
  · rw [UInt64.toNat_add]
    exact Nat.mod_eq_of_lt lt

/-- No step of the window overflows, and the window on words is the window on numbers. -/
theorem wordWindow?_exact (first last : UInt64) : ∃ opened, wordWindow? first last = some opened ∧
    window first.toNat last.toNat =
      opened.map fun counts => (counts.1.toNat, counts.2.toNat) := by
  have zero : first = 0 ↔ first.toNat = 0 := by
    rw [← UInt64.toNat_inj]
    rfl
  have reversed : last < first ↔ last.toNat < first.toNat := UInt64.lt_iff_toNat_lt
  by_cases closed : first = 0 ∨ last < first
  · refine ⟨none, by simp [wordWindow?, closed], ?_⟩
    rw [zero, reversed] at closed
    simp [window, closed]
  · have closed' : ¬ (first.toNat = 0 ∨ last.toNat < first.toNat) := by
      rwa [zero, reversed] at closed
    have one : (1 : UInt64).toNat = 1 := rfl
    have positive : 1 ≤ first := by
      rw [UInt64.le_iff_toNat_le, one]
      omega
    have ordered : first ≤ last := by
      rw [UInt64.le_iff_toNat_le]
      omega
    have distance := UInt64.toNat_sub_of_le last first ordered
    have fits : (last - first).toNat + (1 : UInt64).toNat < UInt64.size := by
      have := last.toNat_lt_size
      omega
    obtain ⟨added, taken⟩ := addWord?_of_lt fits
    refine ⟨some (first - 1, last - first + 1), ?_, ?_⟩
    · rw [wordWindow?, if_neg closed]
      simp [subWord?_of_le positive, subWord?_of_le ordered, added]
    · rw [window, if_neg closed', Option.map_some, UInt64.toNat_sub_of_le first 1 positive, taken,
        distance, one]

end Words

section Pieces

theorem pieces_eq_splitOn (text : List Char) : pieces text = text.splitOn '\n' := by
  induction text with
  | nil => rfl
  | cons c rest ih =>
      rw [List.splitOn_eq_splitOnP, List.splitOnP_cons_eq_if_modifyHead, ← List.splitOn_eq_splitOnP,
        ← ih]
      by_cases feed : c = '\n'
      · simp [feed, pieces_feed]
      · obtain ⟨piece, more, all, next⟩ := pieces_plain feed rest
        simp [feed, all, next]

theorem pieceShows_eq_lineShows (text : List Char) {number : Nat} (positive : 0 < number) :
    pieceShows text number = lineShows text number := by
  obtain ⟨index, rfl⟩ := Nat.exists_eq_add_one.mpr positive
  rw [lineShows_succ, pieceShows, ← pieces_eq_splitOn, Nat.add_sub_cancel]
  congr
  funext piece
  exact List.not_all_eq_any_not.symm

end Pieces

section Ranges

theorem nonBlankLines_eq_countP (text : List Char) (skipped taken : Nat) :
    nonBlankLines text (skipped + 1) (skipped + taken) =
      (((lines text).drop skipped).take taken).countP fun line => !allBlank line := by
  rw [nonBlankLines_eq_card text (Nat.succ_pos _), countP_lines]

theorem nonBlankLines_append (text : List Char) (skipped taken more : Nat) :
    nonBlankLines text (skipped + 1) (skipped + taken) +
        nonBlankLines text (skipped + taken + 1) (skipped + taken + more) =
      nonBlankLines text (skipped + 1) (skipped + taken + more) := by
  rw [nonBlankLines_eq_countP, nonBlankLines_eq_countP, Nat.add_assoc, nonBlankLines_eq_countP,
    List.take_add, List.countP_append, List.drop_drop]

theorem nonBlankLines_zero (text : List Char) (last : Nat) : nonBlankLines text 0 last = 0 := by
  simp [nonBlankLines, window]

theorem nonBlankLines_eq_pieces (text : List Char) (first last : Nat) :
    nonBlankLines text first last = ((Finset.Icc (max first 1) last).filter fun number =>
      1 ≤ first ∧ pieceShows text number = true).card := by
  rcases Nat.eq_zero_or_pos first with rfl | positive
  · simp [nonBlankLines_zero]
  · rw [nonBlankLines_eq_card text positive, max_eq_left positive]
    congr 1
    apply Finset.filter_congr
    intro number member
    have later := (Finset.mem_Icc.mp member).1
    rw [pieceShows_eq_lineShows text (by omega)]
    simp [Nat.succ_le_of_lt positive]

theorem nonBlankLines_le_last (text : List Char) (first last : Nat) :
    nonBlankLines text first last ≤ last := by
  rcases Nat.eq_zero_or_pos first with rfl | positive
  · simp [nonBlankLines_zero]
  · have most := @nonBlankLines_le first last text positive
    omega

end Ranges

section Returns

def shownPieces (text : List Char) : List Bool :=
  (pieces text).map fun piece => piece.any fun c => !isBlank c

theorem shownPieces_feed (rest : List Char) :
    shownPieces ('\n' :: rest) = false :: shownPieces rest := by
  simp [shownPieces, pieces_feed]

theorem shownPieces_plain {c : Char} (plain : c ≠ '\n') (rest : List Char) :
    shownPieces (c :: rest) = (shownPieces rest).modifyHead (!isBlank c || ·) := by
  obtain ⟨piece, more, all, next⟩ := pieces_plain plain rest
  simp [shownPieces, all, next]

theorem shownPieces_withReturns (text : List Char) :
    shownPieces (withReturns text) = shownPieces text := by
  induction text with
  | nil => rfl
  | cons c rest ih =>
      rw [withReturns, List.flatMap_cons, ← withReturns]
      by_cases feed : c = '\n'
      · -- The carriage return is all that the piece before the line feed gets.
        subst c
        rw [if_pos rfl, List.cons_append, List.cons_append, List.nil_append,
          shownPieces_plain (by decide), shownPieces_feed, shownPieces_feed, ih]
        simp [isBlank_return]
      · rw [if_neg feed, List.cons_append, List.nil_append, shownPieces_plain feed,
          shownPieces_plain feed, ih]

theorem pieceShows_withReturns (text : List Char) (number : Nat) :
    pieceShows (withReturns text) number = pieceShows text number := by
  have read : ∀ text, pieceShows text number = ((shownPieces text)[number - 1]?).getD false := by
    intro text
    rw [pieceShows, ← pieces_eq_splitOn, shownPieces, List.getElem?_map]
    cases (pieces text)[number - 1]? <;> rfl
  rw [read, read, shownPieces_withReturns]

end Returns

/-- Counting the lines of a range that are not blank overflows at no step and gives the number of
pieces in the range with a visible character; counts of ranges that follow each other add up, and
carriage returns before the line feeds make no difference. -/
theorem nonBlankLines_exact (text : List Char) (first last : UInt64) :
    (∃ opened, wordWindow? first last = some opened ∧
      window first.toNat last.toNat =
        opened.map fun counts => (counts.1.toNat, counts.2.toNat)) ∧
    nonBlankLines text first.toNat last.toNat < UInt64.size ∧
    nonBlankLines text first.toNat last.toNat =
      ((Finset.Icc (max first.toNat 1) last.toNat).filter fun number =>
        1 ≤ first.toNat ∧ pieceShows text number = true).card ∧
    (∀ skipped taken more,
      nonBlankLines text (skipped + 1) (skipped + taken) +
          nonBlankLines text (skipped + taken + 1) (skipped + taken + more) =
        nonBlankLines text (skipped + 1) (skipped + taken + more)) ∧
    nonBlankLines (withReturns text) first.toNat last.toNat =
      nonBlankLines text first.toNat last.toNat := by
  refine ⟨wordWindow?_exact first last, ?_, nonBlankLines_eq_pieces text _ _,
    nonBlankLines_append text, ?_⟩
  · exact Nat.lt_of_le_of_lt (nonBlankLines_le_last text _ _) last.toNat_lt_size
  · simp only [nonBlankLines_eq_pieces, pieceShows_withReturns]

end CallAtlas.Text
