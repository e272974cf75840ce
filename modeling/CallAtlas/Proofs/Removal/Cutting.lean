import CallAtlas.Proofs.Text.Offsets
import CallAtlas.Removal.BlankRun
import CallAtlas.Removal.Cut

/-!
What cutting leaves of a text. Merging spans keeps the bytes that they hold and
puts them apart from each other; cutting such spans from the last to the first
leaves the characters outside of them. Widening a span to its lines and collapsing
blank runs change blanks only, so that they do not show in the visible text.
-/

namespace CallAtlas.Text

namespace Span

section Merging

theorem goesBefore_iff {first second : Span} : goesBefore first second = true ↔
    first.start < second.start ∨ first.start = second.start ∧ first.stop ≤ second.stop := by
  simp [goesBefore]

theorem sorted_starts (spans : List Span) :
    (spans.mergeSort goesBefore).Pairwise (fun first second => first.start ≤ second.start) := by
  have transitive : ∀ first second third, goesBefore first second = true →
      goesBefore second third = true → goesBefore first third = true := by
    intro first second third before before'
    rw [goesBefore_iff] at before before' ⊢
    omega
  have total : ∀ first second, (goesBefore first second || goesBefore second first) = true := by
    intro first second
    rw [Bool.or_eq_true, goesBefore_iff, goesBefore_iff]
    omega
  refine (List.pairwise_mergeSort transitive total spans).imp fun before => ?_
  rw [goesBefore_iff] at before
  omega

theorem covered_joinFrom_iff (current : Span) (rest : List Span) (offset : Nat)
    (valid : ∀ span ∈ current :: rest, span.start ≤ span.stop)
    (sorted : (current :: rest).Pairwise (fun first second => first.start ≤ second.start)) :
    Covered (joinFrom current rest) offset ↔ Covered (current :: rest) offset := by
  -- On the spans still to come: `current` has taken in those before them that overlap it.
  induction rest generalizing current with
  | nil => rfl
  | cons next rest ih =>
      obtain ⟨ahead, tail⟩ := List.pairwise_cons.mp sorted
      have first := valid current (by simp)
      have second := valid next (by simp)
      have order := ahead next (by simp)
      rw [joinFrom]
      split
      · rw [ih]
        · rw [covered_cons_iff, covered_cons_iff, covered_cons_iff, ← or_assoc]
          refine or_congr_left ?_
          simp only
          omega
        · intro span member
          rcases List.mem_cons.mp member with rfl | later
          · simp only
            omega
          · exact valid span (by simp [later])
        · exact List.pairwise_cons.mpr
            ⟨fun span later => ahead span (by simp [later]), (List.pairwise_cons.mp tail).2⟩
      · have later := ih next (fun span member => valid span (List.mem_cons_of_mem _ member)) tail
        rw [covered_cons_iff, later, covered_cons_iff, covered_cons_iff, covered_cons_iff]

theorem ends_joinFrom (current : Span) (rest : List Span) {span : Span}
    (member : span ∈ joinFrom current rest) :
    (∃ other ∈ current :: rest, other.start = span.start) ∧
      ∃ other ∈ current :: rest, other.stop = span.stop := by
  induction rest generalizing current with
  | nil =>
      obtain rfl := List.mem_singleton.mp member
      exact ⟨⟨span, by simp⟩, span, by simp⟩
  | cons next rest ih =>
      rw [joinFrom] at member
      split at member
      · obtain ⟨⟨other, among, starts⟩, other', among', stops⟩ := ih _ member
        constructor
        · rcases List.mem_cons.mp among with rfl | later
          · exact ⟨current, by simp, starts⟩
          · exact ⟨other, by simp [later], starts⟩
        · rcases List.mem_cons.mp among' with rfl | later
          · rcases Nat.le_total current.stop next.stop with above | above
            · exact ⟨next, by simp, by rw [← stops]; simp [above]⟩
            · exact ⟨current, by simp, by rw [← stops]; simp [above]⟩
          · exact ⟨other', by simp [later], stops⟩
      · rcases List.mem_cons.mp member with rfl | later
        · exact ⟨⟨span, by simp⟩, span, by simp⟩
        · obtain ⟨⟨other, among, starts⟩, other', among', stops⟩ := ih _ later
          exact ⟨⟨other, List.mem_cons_of_mem _ among, starts⟩,
            other', List.mem_cons_of_mem _ among', stops⟩

theorem joinFrom_apart (current : Span) (rest : List Span)
    (valid : ∀ span ∈ current :: rest, span.start ≤ span.stop)
    (sorted : (current :: rest).Pairwise (fun first second => first.start ≤ second.start)) :
    (joinFrom current rest).Pairwise (fun first second => first.stop ≤ second.start) ∧
      ∀ span ∈ joinFrom current rest, current.start ≤ span.start ∧ span.start ≤ span.stop := by
  induction rest generalizing current with
  | nil =>
      refine ⟨by simp [joinFrom], fun span member => ?_⟩
      obtain rfl := List.mem_singleton.mp member
      exact ⟨Nat.le_refl _, valid span (by simp)⟩
  | cons next rest ih =>
      obtain ⟨ahead, tail⟩ := List.pairwise_cons.mp sorted
      have first := valid current (by simp)
      have order := ahead next (by simp)
      rw [joinFrom]
      split
      · refine ih _ ?_ ?_
        · intro span member
          rcases List.mem_cons.mp member with rfl | later
          · simp only
            omega
          · exact valid span (by simp [later])
        · exact List.pairwise_cons.mpr
            ⟨fun span later => ahead span (by simp [later]), (List.pairwise_cons.mp tail).2⟩
      · next gap =>
          obtain ⟨apart, bounds⟩ :=
            ih next (fun span member => valid span (List.mem_cons_of_mem _ member)) tail
          constructor
          · refine List.pairwise_cons.mpr ⟨fun span member => ?_, apart⟩
            have := (bounds span member).1
            omega
          · intro span member
            rcases List.mem_cons.mp member with rfl | later
            · exact ⟨Nat.le_refl _, first⟩
            · have := bounds span later
              omega

variable {text : List Char} {spans : List Span}

theorem covered_merge_iff (valid : ∀ span ∈ spans, span.start ≤ span.stop) (offset : Nat) :
    Covered (merge spans) offset ↔ Covered spans offset := by
  have sorted := sorted_starts spans
  have same : Covered (spans.mergeSort goesBefore) offset ↔ Covered spans offset := by
    simp [Covered]
  have valid' : ∀ span ∈ spans.mergeSort goesBefore, span.start ≤ span.stop := by
    simpa using valid
  rw [← same, merge]
  cases list : spans.mergeSort goesBefore with
  | nil => rfl
  | cons first rest =>
      rw [list] at sorted valid'
      exact covered_joinFrom_iff first rest offset valid' sorted

theorem merge_apart (valid : ∀ span ∈ spans, span.start ≤ span.stop) :
    (merge spans).Pairwise (fun first second => first.stop ≤ second.start) ∧
      ∀ span ∈ merge spans, span.start ≤ span.stop := by
  have sorted := sorted_starts spans
  have valid' : ∀ span ∈ spans.mergeSort goesBefore, span.start ≤ span.stop := by
    simpa using valid
  rw [merge]
  cases list : spans.mergeSort goesBefore with
  | nil => simp [join]
  | cons first rest =>
      rw [list] at sorted valid'
      obtain ⟨apart, bounds⟩ := joinFrom_apart first rest valid' sorted
      exact ⟨apart, fun span member => (bounds span member).2⟩

theorem merge_fits (fits : ∀ span ∈ spans, Fits text span) :
    ∀ span ∈ merge spans, Fits text span := by
  intro span member
  have valid := (merge_apart fun span member => (fits span member).ordered).2 span member
  rw [merge] at member
  cases list : spans.mergeSort goesBefore with
  | nil => simp [list, join] at member
  | cons first rest =>
      have among : ∀ other ∈ first :: rest, other ∈ spans := by
        intro other listed
        rw [← list] at listed
        simpa using listed
      rw [list] at member
      obtain ⟨⟨other, listed, starts⟩, other', listed', stops⟩ := ends_joinFrom first rest member
      exact ⟨valid, starts ▸ (fits other (among other listed)).start,
        stops ▸ (fits other' (among other' listed')).stop⟩

end Merging

end Span

section Cutting

variable {text : List Char} {spans : List Span} {span : Span}

/-- Cutting a first span off a text that lost only later ones: the part before it and the part it
holds are as they were. -/
theorem remainder_of_later (before middle after : List Char)
    (later : ∀ other ∈ spans, byteLength (before ++ middle) ≤ other.start) :
    remainder spans (before ++ middle ++ after) = before ++ middle ++
      outside Char.utf8Size spans (byteLength (before ++ middle)) after := by
  rw [remainder, outside_append, Nat.zero_add, outside_eq_self]
  intro byte _ upper
  rintro ⟨other, member, lower, -⟩
  have := later other member
  omega

theorem cutAll_eq_remainder (fits : ∀ span ∈ spans, span.Fits text)
    (apart : spans.Pairwise (fun first second => first.stop ≤ second.start)) :
    cutAll spans text = remainder spans text := by
  induction spans with
  | nil => simp [cutAll, remainder, outside_nil]
  | cons span rest ih =>
      obtain ⟨ahead, tail⟩ := List.pairwise_cons.mp apart
      obtain ⟨ordered, start, stop⟩ := fits span (by simp)
      have later := ih (fun other member => fits other (List.mem_cons_of_mem _ member)) tail
      obtain ⟨before, middle, after, rfl, starts, stops⟩ := start.split stop ordered
      rw [← stops] at ahead
      rw [cutAll] at later
      rw [cutAll, List.foldr_cons, later, remainder_of_later before middle after ahead, cut,
        ← stops, dropBytes_append, List.append_assoc, ← starts, takeBytes_append]
      rw [remainder, List.append_assoc, outside_append, outside_append, Nat.zero_add]
      have front : outside Char.utf8Size (span :: rest) 0 before = before := by
        refine outside_eq_self fun byte _ upper => ?_
        rw [covered_cons_iff]
        rintro (⟨lower, -⟩ | ⟨other, member, lower, -⟩)
        · omega
        · have := ahead other member
          rw [byteLength_append] at this
          omega
      have gone : outside Char.utf8Size (span :: rest) (byteLength before) middle = [] := by
        refine outside_eq_nil fun byte lower upper => ?_
        rw [byteLength_append] at stops
        exact covered_cons_iff.mpr (.inl (by omega))
      have back :
          outside Char.utf8Size (span :: rest) (byteLength before + byteLength middle) after =
          outside Char.utf8Size rest (byteLength before + byteLength middle) after := by
        refine outside_congr fun byte lower _ => ?_
        rw [byteLength_append] at stops
        rw [covered_cons_iff]
        exact or_iff_right (by omega)
      rw [front, gone, back, byteLength_append, List.nil_append]

theorem fits_cutAll {earlier later : List Span}
    (fits : ∀ other ∈ earlier ++ span :: later, other.Fits text)
    (apart : (earlier ++ span :: later).Pairwise (fun first second => first.stop ≤ second.start)) :
    span.Fits (cutAll later text) := by
  obtain ⟨-, apart', -⟩ := List.pairwise_append.mp apart
  obtain ⟨ahead, tail⟩ := List.pairwise_cons.mp apart'
  obtain ⟨ordered, start, stop⟩ := fits span (by simp)
  rw [cutAll_eq_remainder (fun other member => fits other (by simp [member])) tail]
  obtain ⟨before, middle, after, rfl, starts, stops⟩ := start.split stop ordered
  rw [← stops] at ahead
  rw [remainder_of_later before middle after ahead]
  refine ⟨ordered, ?_, ?_⟩
  · rw [List.append_assoc, ← starts]
    exact .of_append _ _
  · rw [← stops]
    exact .of_append _ _

/-- Merging and cutting leaves what is outside of the spans. -/
theorem cutAll_merge (fits : ∀ span ∈ spans, span.Fits text) :
    cutAll (Span.merge spans) text = remainder spans text := by
  have valid := fun span member => (fits span member).ordered
  rw [cutAll_eq_remainder (Span.merge_fits fits) (Span.merge_apart valid).1]
  exact outside_congr fun byte _ _ => Span.covered_merge_iff valid byte

end Cutting

section Widening

variable {text : List Char} {span : Span}

theorem lineBefore_suffix (text : List Char) (offset : Nat) :
    ∃ front, takeBytes offset text = front ++ lineBefore text offset := by
  have suffix := List.takeWhile_prefix (· ≠ '\n') (l := (takeBytes offset text).reverse)
  rw [← List.reverse_suffix, List.reverse_reverse] at suffix
  obtain ⟨front, same⟩ := suffix
  exact ⟨front, same.symm⟩

theorem firstLine_prefix (text : List Char) : ∃ back, text = firstLine text ++ back := by
  induction text with
  | nil => exact ⟨[], rfl⟩
  | cons c rest ih =>
      rw [firstLine]
      split
      · exact ⟨rest, rfl⟩
      · obtain ⟨back, same⟩ := ih
        exact ⟨back, congrArg (c :: ·) same⟩

theorem widen_split (fits : span.Fits text) : ∃ front lead middle trail back,
    text = front ++ lead ++ middle ++ trail ++ back ∧
      allBlank lead = true ∧ allBlank trail = true ∧
      byteLength (front ++ lead) = span.start ∧
      byteLength (front ++ lead ++ middle) = span.stop ∧
      span.widen text = ⟨byteLength front, byteLength (front ++ lead ++ middle ++ trail)⟩ := by
  obtain ⟨ordered, start, stop⟩ := fits
  obtain ⟨before, middle, after, rfl, starts, stops⟩ := start.split stop ordered
  obtain ⟨front, same⟩ := lineBefore_suffix (before ++ middle ++ after) span.start
  obtain ⟨back, same'⟩ := firstLine_prefix (dropBytes span.stop (before ++ middle ++ after))
  have taken : takeBytes span.start (before ++ middle ++ after) = before := by
    rw [List.append_assoc, ← starts, takeBytes_append]
  have dropped : dropBytes span.stop (before ++ middle ++ after) = after := by
    rw [← stops, dropBytes_append]
  rw [taken] at same
  rw [dropped] at same'
  rw [Span.widen]
  split
  · next blank =>
      rw [Bool.and_eq_true] at blank
      refine ⟨front, lineBefore (before ++ middle ++ after) span.start, middle,
        lineAfter (before ++ middle ++ after) span.stop, back, ?_, blank.1, blank.2, ?_, ?_, ?_⟩
      · rw [← same, lineAfter, dropped, List.append_assoc _ _ back, ← same']
      · rw [← same, starts]
      · rw [← same, stops]
      · rw [← same, byteLength_append (before ++ middle), stops]
        congr 1
        have := congrArg byteLength same
        rw [byteLength_append, starts] at this
        omega
  · refine ⟨before, [], middle, [], after, by simp, rfl, rfl, by simpa using starts,
      by simpa using stops, ?_⟩
    rw [List.append_nil, List.append_nil, starts, stops]

theorem widen_fits (fits : span.Fits text) : (span.widen text).Fits text := by
  obtain ⟨front, lead, middle, trail, back, same, -, -, -, -, widened⟩ := widen_split fits
  rw [widened, same]
  refine ⟨by simp, ?_, .of_append _ _⟩
  simp only [List.append_assoc]
  exact .of_append _ _

theorem widen_visible (fits : span.Fits text) {before after : List Char} {c : Char}
    (split : text = before ++ c :: after) (seen : isBlank c = false) :
    ((span.widen text).start ≤ byteLength before ∧ byteLength before < (span.widen text).stop) ↔
      span.start ≤ byteLength before ∧ byteLength before < span.stop := by
  obtain ⟨front, lead, middle, trail, back, same, leading, trailing, starts, stops, widened⟩ :=
    widen_split fits
  rw [widened, ← starts, ← stops]
  have notLead : ¬ (byteLength front ≤ byteLength before ∧
      byteLength before < byteLength (front ++ lead)) := by
    rintro ⟨lower, upper⟩
    have member := mem_of_offset front lead (middle ++ trail ++ back)
      (by rw [← split, same]; simp) lower upper
    have blank := List.all_eq_true.mp leading c member
    rw [seen] at blank
    cases blank
  have notTrail : ¬ (byteLength (front ++ lead ++ middle) ≤ byteLength before ∧
      byteLength before < byteLength (front ++ lead ++ middle ++ trail)) := by
    rintro ⟨lower, upper⟩
    have member := mem_of_offset _ trail back (by rw [← split, same]) lower upper
    have blank := List.all_eq_true.mp trailing c member
    rw [seen] at blank
    cases blank
  simp only [byteLength_append] at notLead notTrail ⊢
  omega

/-- Widening spans to their lines leaves the same visible characters. -/
theorem visible_remainder_widen {spans : List Span} (fits : ∀ span ∈ spans, span.Fits text) :
    visible (remainder (spans.map (Span.widen text)) text) = visible (remainder spans text) := by
  refine visible_outside_congr fun before c after split seen => ?_
  rw [Nat.zero_add]
  constructor
  · rintro ⟨_, member, covers⟩
    obtain ⟨span, among, rfl⟩ := List.mem_map.mp member
    exact ⟨span, among, (widen_visible (fits span among) split seen).mp covers⟩
  · rintro ⟨span, among, covers⟩
    exact ⟨span.widen text, List.mem_map_of_mem among,
      (widen_visible (fits span among) split seen).mpr covers⟩

end Widening

section Padding

theorem isBlank_of_isPadding {c : Char} (padding : isPadding c = true) : isBlank c = true := by
  simp only [isPadding, Bool.or_eq_true, decide_eq_true_eq] at padding
  rcases padding with rfl | rfl <;> decide

theorem byteLength_of_padding {text : List Char} (padding : ∀ c ∈ text, isPadding c = true) :
    byteLength text = text.length := by
  induction text with
  | nil => rfl
  | cons c rest ih =>
      have size : c.utf8Size = 1 := by
        have first := padding c (by simp)
        simp only [isPadding, Bool.or_eq_true, decide_eq_true_eq] at first
        rcases first with rfl | rfl <;> decide
      have later := ih fun d member => padding d (by simp [member])
      rw [byteLength_cons, size, later, List.length_cons]
      omega

theorem padding_split {text : List Char} {offset : Nat} (boundary : IsBoundary text offset) :
    ∃ front padding back, text = front ++ padding ++ back ∧ byteLength front = offset ∧
      byteLength (front ++ padding) =
        offset + ((dropBytes offset text).takeWhile isPadding).length ∧
      ∀ c ∈ padding, isBlank c = true := by
  obtain ⟨front, rest, rfl, rfl⟩ := boundary
  rw [dropBytes_append]
  have all : ∀ c ∈ rest.takeWhile isPadding, isPadding c = true :=
    List.all_eq_true.mp List.all_takeWhile
  refine ⟨front, rest.takeWhile isPadding, rest.dropWhile isPadding, ?_, rfl, ?_,
    fun c member => isBlank_of_isPadding (all c member)⟩
  · rw [List.append_assoc, List.takeWhile_append_dropWhile]
  · rw [byteLength_append, byteLength_of_padding all]

theorem lt_of_visible {text before after : List Char} {offset : Nat} {c : Char}
    (boundary : IsBoundary text offset) (split : text = before ++ c :: after)
    (seen : isBlank c = false)
    (upper : byteLength before < offset + ((dropBytes offset text).takeWhile isPadding).length) :
    byteLength before < offset := by
  apply Nat.lt_of_not_le
  intro beyond
  obtain ⟨front, padding, back, same, starts, stops, blank⟩ := padding_split boundary
  have member := mem_of_offset front padding back (same.symm.trans split) (by omega) (by omega)
  rw [blank c member] at seen
  cases seen

/-- A span that starts inside of another and holds nothing visible behind it. -/
structure Span.ShowsIn (text : List Char) (span outer : Span) : Prop where
  lower : outer.start ≤ span.start
  upper : span.start ≤ outer.stop
  shows : ∀ before c after, text = before ++ c :: after → isBlank c = false →
    byteLength before < span.stop → byteLength before < outer.stop

theorem Span.ShowsIn.mono {text : List Char} {inner outer span : Span}
    (showsIn : span.ShowsIn text inner) (lower : outer.start ≤ inner.start)
    (upper : inner.stop ≤ outer.stop) : span.ShowsIn text outer := by
  refine ⟨Nat.le_trans lower showsIn.lower, Nat.le_trans showsIn.upper upper, ?_⟩
  intro before c after split seen inside
  exact Nat.lt_of_lt_of_le (showsIn.shows before c after split seen inside) upper

end Padding

section Collapsing

theorem blank_of_paddedLines (read rest : List Char) (count stop : Nat)
    (within : stop ≤ read.length)
    (blank : ∀ c ∈ read, isBlank c = true) :
    ∀ c ∈ (read ++ rest).take (paddedLines count stop read.length rest).2, isBlank c = true := by
  -- On what is still to be read; everything read so far is blank.
  induction rest generalizing read count stop with
  | nil =>
      intro c member
      rw [List.append_nil] at member
      exact blank c (List.mem_of_mem_take member)
  | cons d rest ih =>
      rw [paddedLines]
      have blank' : isBlank d = true → ∀ c ∈ read ++ [d], isBlank c = true := by
        intro this c member
        rcases List.mem_append.mp member with earlier | last
        · exact blank c earlier
        · rwa [List.mem_singleton.mp last]
      have shift : read ++ d :: rest = read ++ [d] ++ rest := by simp
      split
      · next newline =>
          have := ih (read ++ [d]) (count + 1) (read.length + 1) (by simp)
            (blank' (newline ▸ isBlank_newline))
          rwa [List.length_append, List.length_singleton, ← shift] at this
      · split
        · next padding =>
            have := ih (read ++ [d]) count stop (by simp; omega)
              (blank' (isBlank_of_isPadding padding))
            rwa [List.length_append, List.length_singleton, ← shift] at this
        · intro c member
          rw [List.take_append_of_le_length within] at member
          exact blank c (List.mem_of_mem_take member)

theorem blank_of_runLength (text : List Char) :
    ∀ c ∈ text.take (runLength text), isBlank c = true := by
  cases text with
  | nil => simp
  | cons d rest =>
      rw [runLength]
      split
      · next newline =>
          have lines := blank_of_paddedLines [] rest 0 0 (by simp) (by simp)
          rw [List.nil_append, List.length_nil] at lines
          simp only
          split
          · intro c member
            rw [List.take_succ_cons] at member
            rcases List.mem_cons.mp member with rfl | later
            · exact newline ▸ isBlank_newline
            · exact lines c later
          · simp
      · simp

theorem visible_collapseFrom (skip : Nat) (text : List Char)
    (blank : ∀ c ∈ text.take skip, isBlank c = true) :
    visible (collapseFrom skip text) = visible text := by
  fun_induction collapseFrom skip text with
  | case1 => rfl
  | case2 skip c rest ih =>
      rw [List.take_succ_cons] at blank
      rw [ih fun d member => blank d (List.mem_cons_of_mem _ member)]
      simp [visible, blank c (by simp)]
  | case3 c rest none ih =>
      have later := ih (by simp)
      rw [show c :: collapseFrom 0 rest = [c] ++ collapseFrom 0 rest from rfl, visible_append,
        later, ← visible_append]
      rfl
  | case4 c rest length found ih =>
      have run := blank_of_runLength (c :: rest)
      rw [found, List.take_succ_cons] at run
      have first := run c (by simp)
      have later := ih fun d member => run d (List.mem_cons_of_mem _ member)
      simpa [visible, first, isBlank_newline] using later

theorem visible_collapseBlankRuns (text : List Char) :
    visible (collapseBlankRuns text) = visible text :=
  visible_collapseFrom 0 text (by simp)

end Collapsing

end CallAtlas.Text
