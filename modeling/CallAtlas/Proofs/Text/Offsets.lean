import CallAtlas.Text.Blank
import CallAtlas.Text.Bytes

/-!
Byte offsets of a text and what is left of it outside of some spans. A boundary
is an offset between two characters. Spans that start and stop on boundaries
split no character, so that leaving out the characters that start in a span and
leaving out the bytes of a span come to the same (`utf8_remainder`).
-/

namespace CallAtlas.Text

/-- An offset that stands between two characters, or at an end of the text. -/
def IsBoundary (text : List Char) (offset : Nat) : Prop :=
  ∃ before after, text = before ++ after ∧ byteLength before = offset

theorem byteLength_eq_zero {text : List Char} (zero : byteLength text = 0) : text = [] := by
  cases text with
  | nil => rfl
  | cons c rest =>
      have pos := c.utf8Size_pos
      rw [byteLength_cons] at zero
      omega

theorem prefix_of_byteLength_le {first rest second rest' : List Char}
    (same : first ++ rest = second ++ rest') (shorter : byteLength first ≤ byteLength second) :
    ∃ middle, second = first ++ middle ∧ rest = middle ++ rest' := by
  rcases List.append_eq_append_iff.mp same with split | ⟨extra, rfl, rfl⟩
  · exact split
  · rw [byteLength_append] at shorter
    obtain rfl := byteLength_eq_zero (show byteLength extra = 0 by omega)
    exact ⟨[], by simp, rfl⟩

namespace IsBoundary

variable {text : List Char} {offset start stop : Nat}

theorem zero (text : List Char) : IsBoundary text 0 :=
  ⟨[], text, rfl, rfl⟩

theorem of_append (before after : List Char) : IsBoundary (before ++ after) (byteLength before) :=
  ⟨before, after, rfl, rfl⟩

theorem split (first : IsBoundary text start) (second : IsBoundary text stop)
    (order : start ≤ stop) : ∃ before middle after, text = before ++ middle ++ after ∧
      byteLength before = start ∧ byteLength (before ++ middle) = stop := by
  obtain ⟨before, rest, rfl, rfl⟩ := first
  obtain ⟨front, after, same, rfl⟩ := second
  obtain ⟨middle, rfl, rfl⟩ := prefix_of_byteLength_le same order
  exact ⟨before, middle, after, by simp, rfl, rfl⟩

theorem not_inside {before rest : List Char} {c : Char}
    (boundary : IsBoundary (before ++ c :: rest) offset) :
    offset ≤ byteLength before ∨ byteLength before + c.utf8Size ≤ offset := by
  obtain ⟨front, back, same, rfl⟩ := boundary
  by_cases shorter : byteLength front ≤ byteLength before
  · exact .inl shorter
  · obtain ⟨middle, rfl, split⟩ := prefix_of_byteLength_le same (by omega)
    cases middle with
    | nil => simp at shorter
    | cons c' middle =>
        obtain ⟨rfl, -⟩ := List.cons.inj split
        refine .inr ?_
        simp

theorem iff_takeBytes : IsBoundary text offset ↔ byteLength (takeBytes offset text) = offset := by
  constructor
  · rintro ⟨before, after, rfl, rfl⟩
    rw [takeBytes_append]
  · intro whole
    induction text generalizing offset with
    | nil => exact ⟨[], [], rfl, whole⟩
    | cons c rest ih =>
        unfold takeBytes at whole
        split at whole
        · next fits =>
            rw [byteLength_cons] at whole
            obtain ⟨before, after, rfl, same⟩ := @ih (offset - c.utf8Size) (by omega)
            exact ⟨c :: before, after, rfl, by rw [byteLength_cons]; omega⟩
        · subst whole
          exact zero _

instance (text : List Char) (offset : Nat) : Decidable (IsBoundary text offset) :=
  decidable_of_iff _ iff_takeBytes.symm

end IsBoundary

theorem Span.ext {first second : Span} (start : first.start = second.start)
    (stop : first.stop = second.stop) : first = second := by
  cases first
  cases second
  simp_all

structure Span.Fits (text : List Char) (span : Span) : Prop where
  ordered : span.start ≤ span.stop
  start : IsBoundary text span.start
  stop : IsBoundary text span.stop

theorem slice_of_split {text before part after : List Char} {span : Span}
    (split : text = before ++ part ++ after) (starts : byteLength before = span.start)
    (stops : byteLength (before ++ part) = span.stop) : slice text span = part := by
  have size : span.stop - span.start = byteLength part := by
    rw [byteLength_append] at stops
    omega
  rw [slice, size, ← starts, split, List.append_assoc, dropBytes_append, takeBytes_append]

theorem Span.Fits.slice {text : List Char} {span : Span} (fits : span.Fits text) :
    ∃ before after, text = before ++ Text.slice text span ++ after ∧
      byteLength before = span.start ∧ byteLength (before ++ Text.slice text span) = span.stop := by
  obtain ⟨before, middle, after, split, starts, stops⟩ := fits.start.split fits.stop fits.ordered
  rw [slice_of_split split starts stops]
  exact ⟨before, after, split, starts, stops⟩

theorem mem_of_offset (front part back : List Char) {before after : List Char} {c : Char}
    (same : front ++ part ++ back = before ++ c :: after)
    (lower : byteLength front ≤ byteLength before)
    (upper : byteLength before < byteLength (front ++ part)) : c ∈ part := by
  rw [List.append_assoc] at same
  obtain ⟨middle, rfl, split⟩ := prefix_of_byteLength_le same lower
  rw [byteLength_append, byteLength_append] at upper
  obtain ⟨more, rfl, tail⟩ := prefix_of_byteLength_le split.symm (by omega)
  cases more with
  | nil => simp at upper
  | cons c' more =>
      obtain ⟨rfl, -⟩ := List.cons.inj tail
      simp

def Covered (spans : List Span) (offset : Nat) : Prop :=
  ∃ span ∈ spans, span.start ≤ offset ∧ offset < span.stop

instance (spans : List Span) (offset : Nat) : Decidable (Covered spans offset) :=
  inferInstanceAs (Decidable (∃ span ∈ spans, _))

@[simp] theorem not_covered_nil (offset : Nat) : ¬ Covered [] offset := by
  simp [Covered]

theorem covered_cons_iff {span : Span} {spans : List Span} {offset : Nat} :
    Covered (span :: spans) offset ↔
      (span.start ≤ offset ∧ offset < span.stop) ∨ Covered spans offset := by
  simp [Covered]

/-- The items of a list that start outside of all spans, the first one being at an offset and each
as long as `size` says. -/
def outside {α : Type} (size : α → Nat) (spans : List Span) : Nat → List α → List α
  | _, [] => []
  | offset, item :: rest =>
      if Covered spans offset then outside size spans (offset + size item) rest
      else item :: outside size spans (offset + size item) rest

/-- The characters of a text that start outside of all spans. -/
def remainder (spans : List Span) (text : List Char) : List Char :=
  outside Char.utf8Size spans 0 text

def utf8 (text : List Char) : List UInt8 :=
  text.flatMap String.utf8EncodeChar

def uncoveredBytes (spans : List Span) (bytes : List UInt8) : List UInt8 :=
  outside (fun _ => 1) spans 0 bytes

section Outside

variable {spans spans' : List Span} {offset : Nat} {text : List Char}

theorem outside_append (first second : List Char) :
    outside Char.utf8Size spans offset (first ++ second) =
      outside Char.utf8Size spans offset first ++
        outside Char.utf8Size spans (offset + byteLength first) second := by
  induction first generalizing offset with
  | nil => simp [outside]
  | cons c rest ih =>
      simp only [List.cons_append, outside, ih, byteLength_cons, Nat.add_assoc]
      split <;> simp

theorem outside_sublist : (outside Char.utf8Size spans offset text).Sublist text := by
  induction text generalizing offset with
  | nil => exact .slnil
  | cons c rest ih =>
      unfold outside
      split
      · exact ih.cons c
      · exact ih.cons_cons c

theorem visible_outside_sublist
    (grows : ∀ before c after, text = before ++ c :: after → isBlank c = false →
      Covered spans (offset + byteLength before) → Covered spans' (offset + byteLength before)) :
    (visible (outside Char.utf8Size spans' offset text)).Sublist
      (visible (outside Char.utf8Size spans offset text)) := by
  induction text generalizing offset with
  | nil => exact .slnil
  | cons c rest ih =>
      have later := @ih (offset + c.utf8Size) fun before d after split seen => by
        have := grows (c :: before) d after (by rw [split]; rfl) seen
        simpa [Nat.add_assoc] using this
      cases blank : isBlank c with
      | true =>
          -- Whether a blank is left out or kept does not show.
          have skip : ∀ spans, visible (outside Char.utf8Size spans offset (c :: rest)) =
              visible (outside Char.utf8Size spans (offset + c.utf8Size) rest) := by
            intro spans
            rw [outside]
            split
            · rfl
            · simp [visible, blank]
          rw [skip, skip]
          exact later
      | false =>
          have here := grows [] c rest rfl blank
          simp only [byteLength_nil, Nat.add_zero] at here
          have keep : ∀ more, visible (c :: more) = c :: visible more := by
            intro more
            simp [visible, blank]
          rw [outside, outside]
          by_cases covered : Covered spans offset
          · rw [if_pos covered, if_pos (here covered)]
            exact later
          · rw [if_neg covered, keep]
            split
            · exact later.cons c
            · rw [keep]
              exact later.cons_cons c

theorem visible_outside_congr
    (agree : ∀ before c after, text = before ++ c :: after → isBlank c = false →
      (Covered spans (offset + byteLength before) ↔ Covered spans' (offset + byteLength before))) :
    visible (outside Char.utf8Size spans offset text) =
      visible (outside Char.utf8Size spans' offset text) := by
  have kept : (visible (outside Char.utf8Size spans offset text)).Sublist
      (visible (outside Char.utf8Size spans' offset text)) := by
    apply visible_outside_sublist
    intro before c after split seen
    exact (agree before c after split seen).mpr
  have kept' : (visible (outside Char.utf8Size spans' offset text)).Sublist
      (visible (outside Char.utf8Size spans offset text)) := by
    apply visible_outside_sublist
    intro before c after split seen
    exact (agree before c after split seen).mp
  exact kept.eq_of_length_le kept'.length_le

theorem outside_congr
    (agree : ∀ byte, offset ≤ byte → byte < offset + byteLength text →
      (Covered spans byte ↔ Covered spans' byte)) :
    outside Char.utf8Size spans offset text = outside Char.utf8Size spans' offset text := by
  induction text generalizing offset with
  | nil => rfl
  | cons c rest ih =>
      have pos := c.utf8Size_pos
      rw [byteLength_cons] at agree
      have here := agree offset (Nat.le_refl _) (by omega)
      have later := @ih (offset + c.utf8Size) fun byte lower upper =>
        agree byte (by omega) (by omega)
      simp only [outside, here, later]

theorem outside_nil (offset : Nat) (text : List Char) :
    outside Char.utf8Size [] offset text = text := by
  induction text generalizing offset with
  | nil => rfl
  | cons c rest ih => simp [outside, ih]

theorem outside_eq_self
    (free : ∀ byte, offset ≤ byte → byte < offset + byteLength text → ¬ Covered spans byte) :
    outside Char.utf8Size spans offset text = text := by
  have same : outside Char.utf8Size spans offset text = outside Char.utf8Size [] offset text :=
    outside_congr fun byte lower upper => by simp [free byte lower upper]
  rw [same, outside_nil]

theorem visible_outside_eq_self
    (free : ∀ before c after, text = before ++ c :: after → isBlank c = false →
      ¬ Covered spans (offset + byteLength before)) :
    visible (outside Char.utf8Size spans offset text) = visible text := by
  have same : visible (outside Char.utf8Size spans offset text) =
      visible (outside Char.utf8Size [] offset text) :=
    visible_outside_congr fun before c after split seen => by simp [free before c after split seen]
  rw [same, outside_nil]

/-- A part without a visible character in a span survives as it is, between what survives before
and behind it. -/
theorem visible_remainder_part (front part back : List Char)
    (free : ∀ before c after, part = before ++ c :: after → isBlank c = false →
      ¬ Covered spans (byteLength (front ++ before))) :
    ∃ before after, visible (remainder spans (front ++ part ++ back)) =
        before ++ visible part ++ after ∧
      before.Sublist (visible front) ∧ after.Sublist (visible back) := by
  have kept : visible (outside Char.utf8Size spans (byteLength front) part) = visible part := by
    refine visible_outside_eq_self fun before c after split seen => ?_
    rw [← byteLength_append]
    exact free before c after split seen
  refine ⟨visible (outside Char.utf8Size spans 0 front),
    visible (outside Char.utf8Size spans (byteLength (front ++ part)) back), ?_,
    outside_sublist.filter _, outside_sublist.filter _⟩
  simp only [remainder, outside_append, Nat.zero_add, visible_append, kept]

theorem outside_eq_nil
    (covered : ∀ byte, offset ≤ byte → byte < offset + byteLength text → Covered spans byte) :
    outside Char.utf8Size spans offset text = [] := by
  induction text generalizing offset with
  | nil => rfl
  | cons c rest ih =>
      have pos := c.utf8Size_pos
      rw [byteLength_cons] at covered
      have here := covered offset (Nat.le_refl _) (by omega)
      rw [outside, if_pos here]
      exact ih fun byte lower upper => covered byte (by omega) (by omega)

end Outside

section Bytes

variable {spans : List Span}

theorem outside_bytes {start size : Nat}
    (alike : ∀ byte, start ≤ byte → byte < start + size →
      (Covered spans byte ↔ Covered spans start))
    (bytes rest : List UInt8) {offset : Nat} (lower : start ≤ offset)
    (fits : offset + bytes.length = start + size) :
    outside (fun _ => 1) spans offset (bytes ++ rest) =
      (if Covered spans start then [] else bytes) ++
        outside (fun _ => 1) spans (start + size) rest := by
  induction bytes generalizing offset with
  | nil =>
      rw [List.length_nil, Nat.add_zero] at fits
      simp [fits]
  | cons byte bytes ih =>
      rw [List.length_cons] at fits
      have here := alike offset lower (by omega)
      have later := @ih (offset + 1) (by omega) (by omega)
      simp only [List.cons_append, outside, here, later]
      split <;> simp

theorem utf8_outside_from (before text : List Char)
    (bounded : ∀ span ∈ spans, IsBoundary (before ++ text) span.start ∧
      IsBoundary (before ++ text) span.stop) :
    utf8 (outside Char.utf8Size spans (byteLength before) text) =
      outside (fun _ => 1) spans (byteLength before) (utf8 text) := by
  -- On what is still to come; `before` is what has been passed.
  induction text generalizing before with
  | nil => rfl
  | cons c rest ih =>
      have alike : ∀ byte, byteLength before ≤ byte → byte < byteLength before + c.utf8Size →
          (Covered spans byte ↔ Covered spans (byteLength before)) := by
        intro byte lower upper
        have pos := c.utf8Size_pos
        refine exists_congr fun span => and_congr_right fun member => ?_
        have first := (bounded span member).1.not_inside
        have last := (bounded span member).2.not_inside
        omega
      have later := ih (before ++ [c]) (by simpa using bounded)
      have size : byteLength (before ++ [c]) = byteLength before + c.utf8Size := by simp
      rw [size] at later
      have chunk := outside_bytes alike (String.utf8EncodeChar c) (utf8 rest) (Nat.le_refl _)
        (by rw [String.length_utf8EncodeChar])
      rw [show utf8 (c :: rest) = String.utf8EncodeChar c ++ utf8 rest from rfl, chunk, ← later,
        outside]
      split <;> rfl

/-- Leaving out the characters that start in a span leaves out the bytes of the spans. -/
theorem utf8_remainder {text : List Char}
    (bounded : ∀ span ∈ spans, IsBoundary text span.start ∧ IsBoundary text span.stop) :
    utf8 (remainder spans text) = uncoveredBytes spans (utf8 text) :=
  utf8_outside_from [] text bounded

end Bytes

end CallAtlas.Text
