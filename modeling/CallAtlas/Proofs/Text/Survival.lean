import CallAtlas.Proofs.Text.BlankRuns
import Mathlib.Data.List.Infix

/-!
What becomes of the parts of a text when spans of it are gone. A part that no such
span touches is found again behind what is left before it, and untouched parts are
found in their order (`inOrder_remainder`). A part that starts with a visible
character, has one behind each of its line feeds and holds no blank run is touched
neither by the lines of cuts beside it nor by collapsing (`Solid`).
-/

namespace CallAtlas.Text

/-- Pieces that stand in a text one behind the other. -/
def InOrder : List (List Char) → List Char → Prop
  | [], _ => True
  | piece :: rest, text => ∃ before after, text = before ++ piece ++ after ∧ InOrder rest after

namespace Span

def Clear (gone : List Span) (span : Span) : Prop :=
  ∀ byte, span.start ≤ byte → byte < span.stop → ¬ Covered gone byte

instance (gone : List Span) (span : Span) : Decidable (span.Clear gone) :=
  decidable_of_iff (∀ byte < span.stop, span.start ≤ byte → ¬ Covered gone byte)
    ⟨fun free byte lower upper => free byte upper lower,
      fun clear byte upper lower => clear byte lower upper⟩

/-- Where a span is found when others are gone. -/
def moved (gone : List Span) (text : List Char) (span : Span) : Span :=
  ⟨byteLength (remainder gone (takeBytes span.start text)),
    byteLength (remainder gone (takeBytes span.stop text))⟩

end Span

section Parts

variable {text : List Char} {gone : List Span}

theorem inOrder_outside {spans : List Span} (front back : List Char)
    (fits : ∀ span ∈ spans, span.Fits (front ++ back))
    (ordered : spans.Pairwise fun first second => first.stop ≤ second.start)
    (behind : ∀ span ∈ spans, byteLength front ≤ span.start)
    (clear : ∀ span ∈ spans, span.Clear gone) :
    InOrder (spans.map (slice (front ++ back)))
      (outside Char.utf8Size gone (byteLength front) back) := by
  -- On the spans still to come; `front` ends where the last one did.
  induction spans generalizing front back with
  | nil => exact True.intro
  | cons span rest ih =>
      obtain ⟨ahead, tail⟩ := List.pairwise_cons.mp ordered
      obtain ⟨before, after, split, starts, stops⟩ := (fits span (by simp)).slice
      obtain ⟨gap, rfl, same⟩ : ∃ gap, before = front ++ gap ∧
          back = gap ++ (slice (front ++ back) span ++ after) := by
        rw [List.append_assoc] at split
        refine prefix_of_byteLength_le split ?_
        have := behind span (by simp)
        omega
      have whole : front ++ back = front ++ gap ++ slice (front ++ back) span ++ after := split
      have here : outside Char.utf8Size gone (byteLength (front ++ gap))
          (slice (front ++ back) span) = slice (front ++ back) span := by
        refine outside_eq_self fun byte lower upper => clear span (by simp) byte (by omega) ?_
        rw [byteLength_append (front ++ gap)] at stops
        omega
      have later := ih (front ++ gap ++ slice (front ++ back) span) after
        (fun other member => by rw [← whole]; exact fits other (by simp [member])) tail
        (fun other member => by rw [stops]; exact ahead other member)
        (fun other member => clear other (by simp [member]))
      rw [← whole] at later
      refine ⟨outside Char.utf8Size gone (byteLength front) gap, _, ?_, later⟩
      conv_lhs => rw [same]
      rw [outside_append, outside_append, ← byteLength_append, here, byteLength_append (front ++ gap),
        List.append_assoc]

theorem inOrder_remainder {spans : List Span} (fits : ∀ span ∈ spans, span.Fits text)
    (ordered : spans.Pairwise fun first second => first.stop ≤ second.start)
    (clear : ∀ span ∈ spans, span.Clear gone) :
    InOrder (spans.map (slice text)) (remainder gone text) :=
  inOrder_outside [] text fits ordered (fun _ _ => Nat.zero_le _) clear

theorem moved_of_split {before part after : List Char} {span : Span}
    (split : text = before ++ part ++ after) (starts : byteLength before = span.start)
    (stops : byteLength (before ++ part) = span.stop) : span.moved gone text =
      ⟨byteLength (remainder gone before), byteLength (remainder gone (before ++ part))⟩ := by
  have first : takeBytes span.start text = before := by
    rw [split, List.append_assoc, ← starts, takeBytes_append]
  have second : takeBytes span.stop text = before ++ part := by
    rw [split, ← stops, takeBytes_append]
  rw [Span.moved, first, second]

theorem remainder_split (before part after : List Char) : remainder gone (before ++ part ++ after) =
    remainder gone before ++ outside Char.utf8Size gone (byteLength before) part ++
      outside Char.utf8Size gone (byteLength (before ++ part)) after := by
  simp only [remainder, outside_append, Nat.zero_add]

/-- A part that is not touched is found again where it has moved. -/
theorem moved_clear {span : Span} (fits : span.Fits text) (clear : span.Clear gone) :
    (span.moved gone text).Fits (remainder gone text) ∧
      slice (remainder gone text) (span.moved gone text) = slice text span := by
  obtain ⟨before, after, split, starts, stops⟩ := fits.slice
  have here : outside Char.utf8Size gone (byteLength before) (slice text span) =
      slice text span := by
    refine outside_eq_self fun byte lower upper => clear byte (by omega) ?_
    rw [byteLength_append] at stops
    omega
  have left : remainder gone text = remainder gone before ++ slice text span ++
      outside Char.utf8Size gone (byteLength (before ++ slice text span)) after := by
    conv_lhs => rw [split, remainder_split, here]
  have moved : span.moved gone text = ⟨byteLength (remainder gone before),
      byteLength (remainder gone before ++ slice text span)⟩ := by
    rw [moved_of_split split starts stops, remainder, remainder, outside_append, Nat.zero_add, here]
  constructor
  · rw [moved, left]
    refine ⟨by simp, ?_, .of_append _ _⟩
    rw [List.append_assoc]
    exact .of_append _ _
  · exact slice_of_split left (by rw [moved]) (by rw [moved])

variable (gone) in
theorem moved_le {first second : Nat} (boundary : IsBoundary text first)
    (boundary' : IsBoundary text second) (order : first ≤ second) :
    byteLength (remainder gone (takeBytes first text)) ≤
      byteLength (remainder gone (takeBytes second text)) := by
  obtain ⟨before, middle, after, rfl, rfl, rfl⟩ := boundary.split boundary' order
  rw [takeBytes_append, List.append_assoc, takeBytes_append, remainder, remainder, outside_append,
    byteLength_append]
  exact Nat.le_add_right _ _

end Parts

/-- A part of a text that deleting blank lines around it and in it leaves alone. -/
structure Solid (part : List Char) : Prop where
  first : ∀ c ∈ part.head?, isBlank c = false
  lines : ∀ before after, part = before ++ '\n' :: after → ∃ c ∈ after, isBlank c = false
  runs : ∀ run, run <:+: part → ¬ Blanks run

def solid (part : List Char) : Bool :=
  part.head?.all (!isBlank ·) &&
    part.tails.all fun rest =>
      (rest.head? != some '\n' || rest.tail.any (!isBlank ·)) &&
        rest.inits.all fun run => !decide (Blanks run)

theorem solid_iff {part : List Char} : solid part = true ↔ Solid part := by
  have parts : solid part = true ↔ (∀ c ∈ part.head?, isBlank c = false) ∧
      ∀ rest ∈ part.tails,
        (rest.head? = some '\n' → ∃ c ∈ rest.tail, isBlank c = false) ∧
          ∀ run ∈ rest.inits, ¬ Blanks run := by
    simp [solid, Option.all_eq_true, List.all_eq_true, imp_iff_not_or]
  rw [parts]
  constructor
  · rintro ⟨first, rests⟩
    refine ⟨first, fun before after split => ?_, fun run inside => ?_⟩
    · exact (rests ('\n' :: after) ((List.mem_tails _ _).mpr ⟨before, split.symm⟩)).1 rfl
    · obtain ⟨before, after, split⟩ := inside
      rw [List.append_assoc] at split
      exact (rests (run ++ after) ((List.mem_tails _ _).mpr ⟨before, split⟩)).2 run
        ((List.mem_inits _ _).mpr (List.prefix_append _ _))
  · rintro ⟨first, lines, runs⟩
    refine ⟨first, fun rest listed => ⟨fun feed => ?_, fun run front => ?_⟩⟩
    · obtain ⟨before, rfl⟩ := (List.mem_tails _ _).mp listed
      cases rest with
      | nil => cases feed
      | cons c rest =>
          obtain rfl : c = '\n' := Option.some.inj feed
          exact lines before rest rfl
    · have inside := ((List.mem_inits _ _).mp front).isInfix.trans
        ((List.mem_tails _ _).mp listed).isInfix
      exact runs run inside

instance (part : List Char) : Decidable (Solid part) :=
  decidable_of_iff _ solid_iff

section Solid

variable {text front part back : List Char} {byte : Nat}

theorem Solid.not_insideRun (solid : Solid part) (split : text = front ++ part ++ back)
    (lower : byteLength front ≤ byte) (upper : byte < byteLength (front ++ part)) :
    ¬ InsideRun text byte := by
  rintro ⟨before, run, after, ⟨same, blanks, -, -⟩, starts, stops⟩
  have blank : ∀ c ∈ run, isBlank c = true := fun c => isBlank_of_padded blanks.padded
  rcases Nat.lt_or_ge (byteLength front) (byteLength before) with later | earlier
  · -- The run starts in the part, at a line feed that a visible character of the part follows.
    obtain ⟨extra, rfl, tail⟩ : ∃ extra, before = front ++ extra ∧
        part ++ back = extra ++ (run ++ after) := by
      refine prefix_of_byteLength_le ?_ (Nat.le_of_lt later)
      rw [← List.append_assoc, ← split, same, List.append_assoc]
    obtain ⟨more, rfl, rest⟩ : ∃ more, part = extra ++ more ∧ run ++ after = more ++ back := by
      refine prefix_of_byteLength_le tail.symm ?_
      simp only [byteLength_append] at starts upper
      omega
    obtain ⟨middle, rfl, -⟩ := blanks.ends
    cases more with
    | nil =>
        simp only [List.append_nil] at upper
        omega
    | cons c more =>
        obtain ⟨rfl, -⟩ := List.cons.inj rest
        obtain ⟨c, member, seen⟩ := solid.lines extra more rfl
        rcases List.append_eq_append_iff.mp rest with ⟨beyond, within, -⟩ | ⟨beyond, within, -⟩
        · refine solid.runs _ ?_ blanks
          exact ⟨extra, beyond, by rw [within]; simp⟩
        · have := blank c (by rw [within]; simp [member])
          rw [seen] at this
          cases this
  · cases part with
    | nil =>
        rw [List.append_nil] at upper
        omega
    | cons c part =>
        have whole : before ++ run ++ after = front ++ c :: (part ++ back) := by
          rw [← same, split]
          simp
        have member : c ∈ run := mem_of_offset before run after whole earlier (by omega)
        have := solid.first c (by simp)
        rw [blank c member] at this
        cases this

theorem lineBefore_opens (text : List Char) (offset : Nat) :
    ∃ front, takeBytes offset text = front ++ lineBefore text offset ∧
      (front = [] ∨ ∃ before, front = before ++ ['\n']) := by
  refine ⟨((takeBytes offset text).reverse.dropWhile (· ≠ '\n')).reverse, ?_, ?_⟩
  · rw [lineBefore, ← List.reverse_append, List.takeWhile_append_dropWhile, List.reverse_reverse]
  · cases rest : (takeBytes offset text).reverse.dropWhile (· ≠ '\n') with
    | nil => exact .inl rfl
    | cons c rest' =>
        have first := List.head?_dropWhile_not (· ≠ '\n') (takeBytes offset text).reverse
        rw [rest] at first
        obtain rfl : c = '\n' := by simpa using first
        exact .inr ⟨rest'.reverse, by simp⟩

theorem widen_opens {span : Span} (fits : span.Fits text) :
    (span.widen text).start = span.start ∨ (span.widen text).start = 0 ∨
      ∃ before after, text = before ++ '\n' :: after ∧
        byteLength before + 1 = (span.widen text).start := by
  rw [Span.widen]
  split
  · obtain ⟨front, taken, opens⟩ := lineBefore_opens text span.start
    have size := IsBoundary.iff_takeBytes.mp fits.start
    rw [taken, byteLength_append] at size
    have start : span.start - byteLength (lineBefore text span.start) = byteLength front := by
      omega
    rw [start]
    rcases opens with rfl | ⟨before, rfl⟩
    · exact .inr (.inl rfl)
    · obtain ⟨whole, after, rfl, starts⟩ := fits.start
      have all : takeBytes span.start (whole ++ after) = whole := by rw [← starts, takeBytes_append]
      rw [all] at taken
      refine .inr (.inr ⟨before, lineBefore (whole ++ after) span.start ++ after, ?_, ?_⟩)
      · rw [← List.singleton_append, ← List.append_assoc, ← List.append_assoc, ← taken]
      · rw [byteLength_append]
        rfl
  · exact .inl rfl

theorem widen_bounds {span : Span} (fits : span.Fits text) :
    (span.widen text).start ≤ span.start ∧ span.stop ≤ (span.widen text).stop := by
  obtain ⟨front, lead, middle, trail, back, -, -, -, starts, stops, widened⟩ := widen_split fits
  rw [widened, ← starts, ← stops, byteLength_append front, byteLength_append _ trail]
  exact ⟨Nat.le_add_right _ _, Nat.le_add_right _ _⟩

theorem Solid.not_widened {span : Span} (solid : Solid part) (split : text = front ++ part ++ back)
    (fits : span.Fits text) (filled : span.start < span.stop)
    (apart : ∀ byte, byteLength front ≤ byte → byte < byteLength (front ++ part) →
      ¬ (span.start ≤ byte ∧ byte < span.stop))
    (lower : byteLength front ≤ byte) (upper : byte < byteLength (front ++ part)) :
    ¬ ((span.widen text).start ≤ byte ∧ byte < (span.widen text).stop) := by
  rintro ⟨starts, stops⟩
  obtain ⟨outer, outer'⟩ := widen_bounds fits
  -- A visible character of the part is not in the cut, so neither in its lines.
  have beside : ∀ before c after, part = before ++ c :: after → isBlank c = false →
      byteLength (front ++ before) < (span.widen text).start ∨
        (span.widen text).stop ≤ byteLength (front ++ before) := by
    rintro before c after rfl seen
    have inside : byteLength (front ++ before) < byteLength (front ++ (before ++ c :: after)) := by
      have := c.utf8Size_pos
      simp only [byteLength_append, byteLength_cons]
      omega
    have whole : text = front ++ before ++ c :: (after ++ back) := by
      rw [split]
      simp
    have outside := mt (widen_visible fits whole seen).mp (apart _ (by simp) inside)
    omega
  have early : byteLength front < (span.widen text).start := by
    cases part with
    | nil =>
        rw [List.append_nil] at upper
        omega
    | cons c part =>
        have := beside [] c part rfl (solid.first c (by simp))
        rw [List.append_nil] at this
        omega
  rcases widen_opens fits with same | zero | ⟨before, after, opens, feed⟩
  · exact apart span.start (by omega) (by omega) ⟨Nat.le_refl _, filled⟩
  · omega
  · obtain ⟨extra, rfl, tail⟩ : ∃ extra, before = front ++ extra ∧
        part ++ back = extra ++ '\n' :: after := by
      refine prefix_of_byteLength_le ?_ (by omega)
      rw [← List.append_assoc, ← split, opens]
    obtain ⟨more, rfl, rest⟩ : ∃ more, part = extra ++ more ∧ '\n' :: after = more ++ back := by
      refine prefix_of_byteLength_le tail.symm ?_
      simp only [byteLength_append] at feed upper
      omega
    cases more with
    | nil =>
        simp only [List.append_nil] at upper
        omega
    | cons c more =>
        obtain ⟨rfl, -⟩ := List.cons.inj rest
        obtain ⟨c, member, seen⟩ := solid.lines extra more rfl
        obtain ⟨middle, last, rfl⟩ := List.append_of_mem member
        -- Behind the line feed there is more of the part than the cut, which the part would hold.
        have beyond := beside (extra ++ '\n' :: middle) c last (by simp) seen
        have size := c.utf8Size_pos
        refine apart span.start (by omega) ?_ ⟨Nat.le_refl _, filled⟩
        have newline : '\n'.utf8Size = 1 := by decide
        simp only [byteLength_append, byteLength_cons, newline] at feed beyond ⊢
        omega

end Solid

end CallAtlas.Text
