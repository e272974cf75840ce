import CallAtlas.Text.Lines
import Mathlib.Data.List.Basic

/-!
Separated text. Parts that do not hold their separator are told apart again: the
first and the last part of a text, its lines, and lists of parts with a mark and
the separator between them. Decimal digits hold no separator and tell their number.
-/

namespace CallAtlas.Text

-- What stands before the first separator and what stands behind it.
theorem parts_unique {α : Type} {separator : α} {first second rest rest' : List α}
    (free : separator ∉ first) (free' : separator ∉ second)
    (same : first ++ separator :: rest = second ++ separator :: rest') :
    first = second ∧ rest = rest' := by
  induction first generalizing second with
  | nil =>
      cases second with
      | nil => exact ⟨rfl, (List.cons.inj same).2⟩
      | cons item second => exact absurd (by simp [(List.cons.inj same).1]) free'
  | cons item first ih =>
      cases second with
      | nil => exact absurd (by simp [(List.cons.inj same).1]) free
      | cons item' second =>
          obtain ⟨rfl, tails⟩ := List.cons.inj same
          obtain ⟨rfl, rests⟩ := ih (fun later => free (List.mem_cons_of_mem _ later))
            (fun later => free' (List.mem_cons_of_mem _ later)) tails
          exact ⟨rfl, rests⟩

theorem lastPart_unique {α : Type} {separator : α} {first second rest rest' : List α}
    (free : separator ∉ rest) (free' : separator ∉ rest')
    (same : first ++ separator :: rest = second ++ separator :: rest') :
    first = second ∧ rest = rest' := by
  have reversed := congrArg List.reverse same
  simp only [List.reverse_append, List.reverse_cons, List.append_assoc,
    List.singleton_append] at reversed
  obtain ⟨rests, firsts⟩ := parts_unique (by simpa using free) (by simpa using free') reversed
  exact ⟨List.reverse_injective firsts, List.reverse_injective rests⟩

def unlines (lines : List (List Char)) : List Char :=
  lines.flatMap (· ++ ['\n'])

theorem unlines_injective {lines lines' : List (List Char)} (free : ∀ line ∈ lines, '\n' ∉ line)
    (free' : ∀ line ∈ lines', '\n' ∉ line) (same : unlines lines = unlines lines') :
    lines = lines' := by
  induction lines generalizing lines' with
  | nil =>
      cases lines' with
      | nil => rfl
      | cons line rest => simp [unlines] at same
  | cons line rest ih =>
      cases lines' with
      | nil => simp [unlines] at same
      | cons line' rest' =>
          have same : line ++ '\n' :: unlines rest = line' ++ '\n' :: unlines rest' := by
            simpa [unlines] using same
          obtain ⟨rfl, tails⟩ := parts_unique (free line (by simp)) (free' line' (by simp)) same
          rw [ih (fun line later => free line (List.mem_cons_of_mem _ later))
            (fun line later => free' line (List.mem_cons_of_mem _ later)) tails]

theorem pieces_line {line rest : List Char} (free : '\n' ∉ line) :
    pieces (line ++ '\n' :: rest) = line :: pieces rest := by
  induction line with
  | nil => rfl
  | cons c line ih =>
      rw [List.mem_cons, not_or] at free
      rw [List.cons_append, pieces, if_neg (Ne.symm free.1), ih free.2]

theorem pieces_unlines {lines : List (List Char)} (free : ∀ line ∈ lines, '\n' ∉ line) :
    pieces (unlines lines) = lines ++ [[]] := by
  induction lines with
  | nil => rfl
  | cons line rest ih =>
      rw [List.forall_mem_cons] at free
      have text : unlines (line :: rest) = line ++ '\n' :: unlines rest := by simp [unlines]
      rw [text, pieces_line free.1, ih free.2, List.cons_append]

theorem intercalate_injective {α : Type} {separator : α} {mark : List α}
    {parts parts' : List (List α)} (silent : separator ∉ mark) (some : parts ≠ [])
    (some' : parts' ≠ []) (free : ∀ part ∈ parts, separator ∉ part)
    (free' : ∀ part ∈ parts', separator ∉ part)
    (same : (mark ++ [separator]).intercalate parts = (mark ++ [separator]).intercalate parts') :
    parts = parts' := by
  -- On the first list. The mark is read as the end of the part before it, so that the next
  -- separator ends the first part; a list of one part has no separator at all.
  have first : ∀ part next : List α, ∀ rest, (mark ++ [separator]).intercalate (part :: next :: rest) =
      (part ++ mark) ++ separator :: (mark ++ [separator]).intercalate (next :: rest) := by
    intro part next rest
    simp [List.intercalate_cons_cons]
  induction parts generalizing parts' with
  | nil => exact absurd rfl some
  | cons part rest ih =>
      obtain ⟨part', rest', rfl⟩ := List.exists_cons_of_ne_nil some'
      rw [List.forall_mem_cons] at free free'
      cases rest with
      | nil =>
          cases rest' with
          | nil =>
              rw [List.intercalate_singleton, List.intercalate_singleton] at same
              rw [same]
          | cons next' rest' =>
              rw [List.intercalate_singleton, first] at same
              exact absurd (by simp [same]) free.1
      | cons next rest =>
          cases rest' with
          | nil =>
              rw [List.intercalate_singleton, first] at same
              exact absurd (by simp [← same]) free'.1
          | cons next' rest' =>
              rw [first, first] at same
              obtain ⟨heads, tails⟩ := parts_unique (by simp [free.1, silent])
                (by simp [free'.1, silent]) same
              rw [List.append_cancel_right heads,
                ih (List.cons_ne_nil _ _) (List.cons_ne_nil _ _) free.2 free'.2 tails]

theorem not_mem_intercalate {α : Type} {item : α} {mark : List α} {parts : List (List α)}
    (silent : item ∉ mark) (free : ∀ part ∈ parts, item ∉ part) : item ∉ mark.intercalate parts := by
  induction parts with
  | nil => simp
  | cons part rest ih =>
      rw [List.forall_mem_cons] at free
      cases rest with
      | nil => simpa using free.1
      | cons next rest => simpa [List.intercalate_cons_cons, silent, free.1] using ih free.2

theorem empty_not_mem_map {α : Type} (line : α → String) (shown : ∀ item, line item ≠ "")
    (items : List α) : "" ∉ items.map line := by
  intro member
  obtain ⟨item, -, empty⟩ := List.mem_map.mp member
  exact shown item empty

-- What can be told from each line is told from all of them.
theorem map_eq_of_lines {α β γ : Type} {line : α → β} (fact : α → γ) {items items' : List α}
    (tells : ∀ item ∈ items, ∀ item' ∈ items', line item = line item' → fact item = fact item')
    (same : items.map line = items'.map line) : items.map fact = items'.map fact := by
  induction items generalizing items' with
  | nil => rw [List.map_eq_nil_iff.mp same.symm]
  | cons item rest ih =>
      obtain ⟨item', rest', rfl, first, later⟩ := List.map_eq_cons_iff.mp same.symm
      rw [List.map_cons, List.map_cons, tells item (by simp) item' (by simp) first.symm,
        ih (fun _ member _ member' => tells _ (List.mem_cons_of_mem _ member) _
          (List.mem_cons_of_mem _ member')) later.symm]

theorem digit_of_mem {c : Char} {number : Nat} (member : c ∈ Nat.toDigits 10 number) :
    c.isDigit = true :=
  Nat.isDigit_of_mem_toDigits (by omega) (by omega) member

theorem toDigits_injective {first second : Nat}
    (same : Nat.toDigits 10 first = Nat.toDigits 10 second) : first = second := by
  have := congrArg (Nat.ofDigitChars 10 · 0) same
  simpa using this

end CallAtlas.Text
