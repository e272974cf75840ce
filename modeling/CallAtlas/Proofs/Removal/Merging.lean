import CallAtlas.Proofs.Removal.Cutting

/-!
Merging and cutting spans, byte by byte. Whatever spans of a text are nested, equal,
touching, empty or overlap in a chain, merging puts them in order and apart without
losing or adding a byte. The cuts are made on a text that gets shorter, by offsets
of the whole one; from the last to the first each offset still means what it did, and
the bytes that are left are those outside of the spans (`merging_exact`).
-/

namespace CallAtlas.Text

section Bytes

variable {text : List Char} {spans : List Span} {span : Span}

theorem utf8_append (first second : List Char) :
    utf8 (first ++ second) = utf8 first ++ utf8 second :=
  List.flatMap_append

theorem length_utf8 (text : List Char) : (utf8 text).length = byteLength text := by
  induction text with
  | nil => rfl
  | cons c rest ih =>
      rw [show utf8 (c :: rest) = String.utf8EncodeChar c ++ utf8 rest from rfl, List.length_append,
        String.length_utf8EncodeChar, ih, byteLength_cons]

def cutBytes (span : Span) (bytes : List UInt8) : List UInt8 :=
  bytes.take span.start ++ bytes.drop span.stop

theorem utf8_cut (fits : span.Fits text) : utf8 (cut span text) = cutBytes span (utf8 text) := by
  obtain ⟨before, middle, after, rfl, starts, stops⟩ := fits.start.split fits.stop fits.ordered
  have kept : cut span (before ++ middle ++ after) = before ++ after := by
    rw [cut, ← stops, dropBytes_append, List.append_assoc, ← starts, takeBytes_append]
  rw [kept, cutBytes, utf8_append, utf8_append]
  congr 1
  · rw [utf8_append, List.append_assoc, ← starts, ← length_utf8, List.take_left]
  · rw [← stops, ← length_utf8, List.drop_left]

theorem outside_bytes_eq (spans : List Span) (offset : Nat) (bytes : List UInt8) :
    outside (fun _ => 1) spans offset bytes =
      ((bytes.zipIdx offset).filter fun item => ¬ Covered spans item.2).map (·.1) := by
  induction bytes generalizing offset with
  | nil => rfl
  | cons byte rest ih =>
      rw [outside, ih, List.zipIdx_cons]
      by_cases covered : Covered spans offset
      · simp [covered]
      · simp [covered]

/-- Cutting bytes one span after the other, the last one first. Every span still stands between
characters when its turn comes. -/
theorem utf8_cutAll (fits : ∀ span ∈ spans, span.Fits text)
    (apart : spans.Pairwise fun first second => first.stop ≤ second.start) :
    utf8 (cutAll spans text) = spans.foldr cutBytes (utf8 text) := by
  induction spans with
  | nil => rfl
  | cons span later ih =>
      have rest := ih (fun other member => fits other (List.mem_cons_of_mem _ member)) apart.of_cons
      have stands : span.Fits (cutAll later text) := @fits_cutAll text span [] later fits apart
      rw [List.foldr_cons, ← rest, ← utf8_cut stands]
      rfl

end Bytes

section Merging

/-- Spans that were merged: in the order of their starts, each ending before the next one starts,
between characters of the text, and with the same bytes in them. -/
structure Merged (text : List Char) (spans merged : List Span) : Prop where
  starts : merged.Pairwise fun first second => first.start ≤ second.start
  apart : merged.Pairwise fun first second => first.stop ≤ second.start
  fits : ∀ span ∈ merged, span.Fits text
  covers : ∀ byte, Covered merged byte ↔ Covered spans byte

variable {text : List Char} {spans : List Span}

theorem merged_merge (fits : ∀ span ∈ spans, span.Fits text) :
    Merged text spans (Span.merge spans) := by
  have valid : ∀ span ∈ spans, span.start ≤ span.stop :=
    fun span member => (fits span member).ordered
  obtain ⟨apart, ordered⟩ := Span.merge_apart valid
  constructor
  case starts =>
    refine apart.imp_of_mem ?_
    intro first second member _ ahead
    exact Nat.le_trans (ordered first member) ahead
  case apart => exact apart
  case fits => exact Span.merge_fits fits
  case covers => exact Span.covered_merge_iff valid

/-- Merged spans are in order and apart, and hold the bytes that the spans held. Each of them stands
between characters when its turn to be cut comes, and cutting them all leaves the bytes outside of
the spans, in their order. -/
theorem merging_exact (fits : ∀ span ∈ spans, span.Fits text) :
    Merged text spans (Span.merge spans) ∧
    (∀ earlier span later, Span.merge spans = earlier ++ span :: later →
      span.Fits (cutAll later text)) ∧
    utf8 (cutAll (Span.merge spans) text) = (Span.merge spans).foldr cutBytes (utf8 text) ∧
    utf8 (cutAll (Span.merge spans) text) =
      ((utf8 text).zipIdx.filter fun item => ¬ Covered spans item.2).map (·.1) := by
  have merged := merged_merge fits
  refine ⟨merged, ?_, utf8_cutAll merged.fits merged.apart, ?_⟩
  · intro earlier span later split
    have stand := merged.fits
    have apart := merged.apart
    rw [split] at stand apart
    exact fits_cutAll stand apart
  · have bounded : ∀ span ∈ spans, IsBoundary text span.start ∧ IsBoundary text span.stop :=
      fun span member => ⟨(fits span member).start, (fits span member).stop⟩
    rw [cutAll_merge fits, utf8_remainder bounded, uncoveredBytes, outside_bytes_eq]

end Merging

section Chained

/-- Spans that overlap in a chain, with one inside of another, one given twice, one that touches the
chain and one that is empty. -/
def chained : List Span := [⟨5, 7⟩, ⟨1, 4⟩, ⟨3, 5⟩, ⟨1, 3⟩, ⟨1, 3⟩, ⟨7, 7⟩]

instance (text : List Char) (span : Span) : Decidable (span.Fits text) :=
  decidable_of_iff
    (span.start ≤ span.stop ∧ IsBoundary text span.start ∧ IsBoundary text span.stop)
    ⟨fun ⟨ordered, start, stop⟩ => ⟨ordered, start, stop⟩,
      fun fits => ⟨fits.ordered, fits.start, fits.stop⟩⟩

/-- The second character takes up two bytes. -/
theorem chained_merged : (∀ span ∈ chained, span.Fits "aébcdef".toList) ∧
    Merged "aébcdef".toList chained (Span.merge chained) ∧
    utf8 (cutAll (Span.merge chained) "aébcdef".toList) = utf8 "af".toList := by
  have fits : ∀ span ∈ chained, span.Fits "aébcdef".toList := by
    decide
  obtain ⟨merged, -, -, left⟩ := merging_exact fits
  exact ⟨fits, merged, left.trans (by decide +kernel)⟩

end Chained

end CallAtlas.Text
