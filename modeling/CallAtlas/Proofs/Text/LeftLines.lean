import CallAtlas.Proofs.Text.Lines
import CallAtlas.Proofs.Text.Survival

/-!
Lines of what cutting leaves. Spans that nothing visible shares the lines of take
their lines with them, and no other line goes. So a line that is left over was a
line of the text, just as it is, if and only if no span had a row in common with
it (`keptLine_iff`). A blank line that a span had a row in common with is left
because all that was visible beside the span went with other spans
(`deserted_of_meets`).
-/

namespace CallAtlas.Text

/-- A line that a line feed ends, with what stands before and behind it. -/
structure IsLine (text before line after : List Char) : Prop where
  split : text = before ++ line ++ '\n' :: after
  plain : '\n' ∉ line
  opens : before = [] ∨ ∃ front, before = front ++ ['\n']

/-- A line of what is left was a line of the text, and none of it is gone. -/
def KeptLine (gone : List Span) (text before line : List Char) : Prop :=
  ∃ front back, IsLine text front line back ∧ remainder gone front = before ∧
    Span.Clear gone ⟨byteLength front, byteLength (front ++ line) + 1⟩

/-- A span held a byte of a row from which a character is left in a line, its line feed included. -/
def Span.Meets (gone : List Span) (text before line : List Char) (span : Span) : Prop :=
  ∃ front c back byte, text = front ++ c :: back ∧ ¬ Covered gone (byteLength front) ∧
    byteLength before ≤ byteLength (remainder gone front) ∧
    byteLength (remainder gone front) ≤ byteLength (before ++ line) ∧
    (span.start ≤ byte ∧ byte < span.stop) ∧ (positionAt text byte).row = front.count '\n'

namespace Span

/-- Nothing visible shares the lines of a span. -/
def Alone (text : List Char) (span : Span) : Prop :=
  allBlank (lineBefore text span.start) = true ∧ allBlank (lineAfter text span.stop) = true

def allLines (text : List Char) (span : Span) : Span :=
  ⟨span.start - byteLength (lineBefore text span.start),
    span.stop + byteLength (lineAfter text span.stop)⟩

/-- Something visible shares the lines of a span, and all of it is in other spans. -/
structure Deserted (text : List Char) (spans : List Span) (span : Span) : Prop where
  shared : ¬ span.Alone text
  taken : ∀ front c back, text = front ++ c :: back → isBlank c = false →
    (span.allLines text).start ≤ byteLength front → byteLength front < (span.allLines text).stop →
      Covered spans (byteLength front)

theorem widen_of_alone {text : List Char} {span : Span} (alone : span.Alone text) :
    span.widen text = span.allLines text := by
  obtain ⟨before, after⟩ := alone
  simp [widen, before, after, allLines]

theorem widen_of_not_alone {text : List Char} {span : Span} (shared : ¬ span.Alone text) :
    span.widen text = span := by
  rw [widen, if_neg]
  rwa [Alone, ← Bool.and_eq_true] at shared

end Span

section Rows

variable {text front middle back : List Char} {byte byte' : Nat}

theorem byteLength_feed (front : List Char) :
    byteLength (front ++ ['\n']) = byteLength front + 1 := by
  rw [byteLength_append]
  rfl

theorem takeBytes_of_le (text : List Char) (le : byte ≤ byte') :
    takeBytes byte text <+: takeBytes byte' text := by
  induction text generalizing byte byte' with
  | nil => exact List.prefix_rfl
  | cons c rest ih =>
      rw [takeBytes, takeBytes]
      by_cases fits : c.utf8Size ≤ byte
      · rw [if_pos fits, if_pos (Nat.le_trans fits le)]
        exact List.cons_prefix_cons.mpr ⟨rfl, ih (by omega)⟩
      · rw [if_neg fits]
        exact List.nil_prefix

theorem row_le (text : List Char) (le : byte ≤ byte') :
    (positionAt text byte).row ≤ (positionAt text byte').row :=
  (takeBytes_of_le text le).sublist.count_le _

theorem row_of_split (split : text = front ++ back) :
    (positionAt text (byteLength front)).row = front.count '\n' := by
  rw [positionAt_of_split split rfl, endPosition]

theorem row_lt_of_feed (split : text = front ++ '\n' :: back) (before : byte ≤ byteLength front)
    (behind : byteLength front < byte') :
    (positionAt text byte).row < (positionAt text byte').row := by
  have size := byteLength_feed front
  have lower := row_le text before
  have upper := row_le text (show byteLength (front ++ ['\n']) ≤ byte' by omega)
  have split' : text = (front ++ ['\n']) ++ back := by simp [split]
  rw [row_of_split split] at lower
  rw [row_of_split split', List.count_append, List.count_singleton_self] at upper
  omega

theorem row_of_plain (split : text = front ++ middle ++ back) (plain : '\n' ∉ middle)
    (lower : byteLength front ≤ byte) (upper : byte ≤ byteLength (front ++ middle)) :
    (positionAt text byte).row = front.count '\n' := by
  have above := row_le text lower
  have below := row_le text upper
  rw [row_of_split (split.trans (List.append_assoc _ _ _))] at above
  rw [row_of_split split, List.count_append, List.count_eq_zero_of_not_mem plain] at below
  omega

end Rows

section Lines

theorem lastLine_split (text : List Char) : ∃ front line, text = front ++ line ∧ '\n' ∉ line ∧
    (front = [] ∨ ∃ lead, front = lead ++ ['\n']) := by
  by_cases feed : '\n' ∈ text
  · obtain ⟨line, lead, split, plain⟩ := List.eq_append_cons_of_mem (List.mem_reverse.mpr feed)
    refine ⟨lead.reverse ++ ['\n'], line.reverse, ?_, by simpa using plain, .inr ⟨_, rfl⟩⟩
    rw [← text.reverse_reverse, split]
    simp
  · exact ⟨[], text, rfl, feed, .inl rfl⟩

theorem lineBefore_plain (text : List Char) (offset : Nat) : '\n' ∉ lineBefore text offset := by
  intro feed
  rw [lineBefore, List.mem_reverse] at feed
  have := List.all_eq_true.mp List.all_takeWhile _ feed
  simp at this

theorem firstLine_closes (text : List Char) :
    (firstLine text = text ∧ '\n' ∉ text) ∨
      ∃ line rest, firstLine text = line ++ ['\n'] ∧ '\n' ∉ line ∧ text = line ++ '\n' :: rest := by
  induction text with
  | nil => exact .inl ⟨rfl, by simp⟩
  | cons c text ih =>
      rw [firstLine]
      by_cases feed : c = '\n'
      · exact .inr ⟨[], text, by simp [feed], by simp, by simp [feed]⟩
      · rw [if_neg feed]
        rcases ih with ⟨whole, plain⟩ | ⟨line, rest, first, plain, split⟩
        · exact .inl ⟨by rw [whole], by simp [Ne.symm feed, plain]⟩
        · exact .inr ⟨c :: line, rest, by rw [first]; rfl, by simp [Ne.symm feed, plain],
            by rw [split]; rfl⟩

variable {text : List Char} {span : Span}

theorem allLines_split (fits : span.Fits text) : ∃ front lead middle trail back,
    text = front ++ lead ++ middle ++ trail ++ back ∧
      byteLength (front ++ lead) = span.start ∧ byteLength (front ++ lead ++ middle) = span.stop ∧
      span.allLines text =
        ⟨byteLength front, byteLength (front ++ lead ++ middle ++ trail)⟩ ∧
      '\n' ∉ lead ∧ (front = [] ∨ ∃ start, front = start ++ ['\n']) ∧
      (back = [] ∧ '\n' ∉ trail ∨ ∃ line, trail = line ++ ['\n'] ∧ '\n' ∉ line) := by
  obtain ⟨ordered, start, stop⟩ := fits
  obtain ⟨before, middle, after, rfl, starts, stops⟩ := start.split stop ordered
  obtain ⟨front, same, opens⟩ := lineBefore_opens (before ++ middle ++ after) span.start
  have plain := lineBefore_plain (before ++ middle ++ after) span.start
  have taken : takeBytes span.start (before ++ middle ++ after) = before := by
    rw [List.append_assoc, ← starts, takeBytes_append]
  have dropped : dropBytes span.stop (before ++ middle ++ after) = after := by
    rw [← stops, dropBytes_append]
  rw [taken] at same
  have trail : ∃ trail back, lineAfter (before ++ middle ++ after) span.stop = trail ∧
      after = trail ++ back ∧
        (back = [] ∧ '\n' ∉ trail ∨ ∃ line, trail = line ++ ['\n'] ∧ '\n' ∉ line) := by
    rw [lineAfter, dropped]
    rcases firstLine_closes after with ⟨whole, plain⟩ | ⟨line, rest, first, plain, split⟩
    · exact ⟨after, [], whole, by simp, .inl ⟨rfl, plain⟩⟩
    · exact ⟨line ++ ['\n'], rest, first, by simp [split], .inr ⟨line, rfl, plain⟩⟩
  obtain ⟨trail, back, last, rfl, closes⟩ := trail
  generalize leads : lineBefore (before ++ middle ++ (trail ++ back)) span.start = lead at same plain
  subst same
  refine ⟨front, lead, middle, trail, back, by simp, starts, stops, ?_, plain, opens, closes⟩
  rw [Span.allLines, leads, last, byteLength_append _ trail, stops, ← starts, byteLength_append,
    Nat.add_sub_cancel]

theorem allLines_bounds (text : List Char) (span : Span) :
    (span.allLines text).start ≤ span.start ∧ span.stop ≤ (span.allLines text).stop :=
  ⟨Nat.sub_le _ _, Nat.le_add_right _ _⟩

theorem allLines_feed (fits : span.Fits text) {before after : List Char}
    (feed : text = before ++ '\n' :: after) (lower : (span.allLines text).start ≤ byteLength before)
    (upper : byteLength before < (span.allLines text).stop) : span.start ≤ byteLength before ∧
      (byteLength before < span.stop ∨ byteLength before + 1 = (span.allLines text).stop) := by
  obtain ⟨front, lead, middle, trail, back, split, starts, stops, lines, plain, -, closes⟩ :=
    allLines_split fits
  rw [lines] at lower upper ⊢
  simp only at lower upper ⊢
  have same := split.symm.trans feed
  constructor
  · by_contra early
    have member : '\n' ∈ lead := mem_of_offset front lead (middle ++ trail ++ back)
      (by simpa using same) lower (by omega)
    exact plain member
  · by_contra inner
    have late : byteLength (front ++ lead ++ middle) ≤ byteLength before := by omega
    rcases closes with ⟨rfl, plain'⟩ | ⟨line, rfl, plain'⟩
    · exact plain' (mem_of_offset (front ++ lead ++ middle) trail [] same late upper)
    · have size := byteLength_feed (front ++ lead ++ middle ++ line)
      rw [List.append_assoc _ line] at size
      have member : '\n' ∈ line := mem_of_offset (front ++ lead ++ middle) line ('\n' :: back)
        (by simpa using same) late (by omega)
      exact plain' member

theorem allLines_row (fits : span.Fits text) {byte offset : Nat}
    (inside : (span.allLines text).start ≤ byte ∧ byte < (span.allLines text).stop)
    (within : offset < byteLength text)
    (same : (positionAt text byte).row = (positionAt text offset).row) :
    (span.allLines text).start ≤ offset ∧ offset < (span.allLines text).stop := by
  obtain ⟨front, lead, middle, trail, back, split, -, -, lines, -, opens, closes⟩ :=
    allLines_split fits
  rw [lines] at inside ⊢
  simp only at inside ⊢
  constructor
  · by_contra early
    rcases opens with rfl | ⟨start, rfl⟩
    · exact early (Nat.zero_le _)
    · have size := byteLength_feed start
      have less := @row_lt_of_feed text start (lead ++ middle ++ trail ++ back) offset byte
        (by simp [split]) (by omega) (by omega)
      omega
  · by_contra late
    rcases closes with ⟨rfl, -⟩ | ⟨line, rfl, -⟩
    · rw [split, List.append_nil] at within
      exact late within
    · have size := byteLength_feed (front ++ lead ++ middle ++ line)
      rw [List.append_assoc _ line] at size
      have less := @row_lt_of_feed text (front ++ lead ++ middle ++ line) back byte offset
        (by simp [split]) (by omega) (by omega)
      omega

end Lines

section Survivors

variable {gone : List Span} {offset : Nat} {text before line after : List Char} {c : Char}

theorem mem_outside_iff : c ∈ outside Char.utf8Size gone offset text ↔ ∃ front back,
    text = front ++ c :: back ∧ ¬ Covered gone (offset + byteLength front) := by
  induction text generalizing offset with
  | nil => simp [outside]
  | cons d rest ih =>
      constructor
      · intro member
        rw [outside] at member
        split at member
        · obtain ⟨front, back, rfl, free⟩ := ih.mp member
          exact ⟨d :: front, back, rfl, by rwa [byteLength_cons, ← Nat.add_assoc]⟩
        · next free =>
            rcases List.mem_cons.mp member with rfl | later
            · exact ⟨[], rest, rfl, free⟩
            · obtain ⟨front, back, rfl, free'⟩ := ih.mp later
              exact ⟨d :: front, back, rfl, by rwa [byteLength_cons, ← Nat.add_assoc]⟩
      · rintro ⟨front, back, split, free⟩
        cases front with
        | nil =>
            obtain ⟨rfl, rfl⟩ := List.cons.inj split
            rw [byteLength_nil, Nat.add_zero] at free
            rw [outside, if_neg free]
            exact List.mem_cons_self
        | cons e front =>
            obtain ⟨rfl, rfl⟩ := List.cons.inj split
            rw [byteLength_cons, ← Nat.add_assoc] at free
            have later := ih.mpr ⟨front, back, rfl, free⟩
            rw [outside]
            split
            · exact later
            · exact List.mem_cons_of_mem _ later

/-- A character of what is left comes from one of the text, and what is left before it from what
stood before that one. -/
theorem outside_split
    (same : outside Char.utf8Size gone offset text = before ++ c :: after) :
    ∃ front back, text = front ++ c :: back ∧ ¬ Covered gone (offset + byteLength front) ∧
      outside Char.utf8Size gone offset front = before ∧
      outside Char.utf8Size gone (offset + byteLength (front ++ [c])) back = after := by
  induction text generalizing offset before with
  | nil => simp [outside] at same
  | cons d rest ih =>
      rw [outside] at same
      split at same
      · next covered =>
          obtain ⟨front, back, rfl, free, first, last⟩ := ih same
          refine ⟨d :: front, back, rfl, ?_, ?_, ?_⟩
          · rwa [byteLength_cons, ← Nat.add_assoc]
          · rw [outside, if_pos covered, first]
          · rwa [List.cons_append, byteLength_cons, ← Nat.add_assoc]
      · next uncovered =>
          cases before with
          | nil =>
              obtain ⟨rfl, rfl⟩ := List.cons.inj same
              exact ⟨[], rest, rfl, uncovered, rfl, by simp⟩
          | cons e before =>
              obtain ⟨rfl, tail⟩ := List.cons.inj same
              obtain ⟨front, back, rfl, free, first, last⟩ := ih tail
              refine ⟨d :: front, back, rfl, ?_, ?_, ?_⟩
              · rwa [byteLength_cons, ← Nat.add_assoc]
              · rw [outside, if_neg uncovered, first]
              · rwa [List.cons_append, byteLength_cons, ← Nat.add_assoc]

/-- Where a line of what is left comes from: `middle`, of which the line is left, and a line feed. -/
structure ComesFrom (gone : List Span) (text before line front middle back : List Char) : Prop where
  split : text = front ++ middle ++ '\n' :: back
  before : remainder gone front = before
  line : outside Char.utf8Size gone (byteLength front) middle = line
  feed : ¬ Covered gone (byteLength (front ++ middle))

theorem IsLine.comesFrom (isLine : IsLine (remainder gone text) before line after) :
    ∃ front middle back, ComesFrom gone text before line front middle back ∧
      (front = [] ∨ ∃ lead, front = lead ++ ['\n'] ∧ ¬ Covered gone (byteLength lead)) := by
  obtain ⟨split, -, opens⟩ := isLine
  obtain ⟨whole, back, rfl, feed, left, -⟩ := outside_split split
  rw [Nat.zero_add] at feed
  rcases opens with rfl | ⟨lines, rfl⟩
  · exact ⟨[], whole, back, ⟨rfl, rfl, left, feed⟩, .inl rfl⟩
  · rw [List.append_assoc, List.singleton_append] at left
    obtain ⟨lead, middle, rfl, free, first, last⟩ := outside_split left
    rw [Nat.zero_add] at free last
    refine ⟨lead ++ ['\n'], middle, back, ⟨by simp, ?_, last, by simpa using feed⟩,
      .inr ⟨lead, rfl, free⟩⟩
    rw [remainder, outside_append, first, Nat.zero_add, outside, if_neg free]
    rfl

variable {front middle back : List Char}

theorem ComesFrom.feed_covered (comesFrom : ComesFrom gone text before line front middle back)
    (plain : '\n' ∉ line) {first second : List Char} (split : middle = first ++ '\n' :: second) :
    Covered gone (byteLength (front ++ first)) := by
  by_contra free
  rw [byteLength_append] at free
  apply plain
  rw [← comesFrom.line]
  exact mem_outside_iff.mpr ⟨first, second, split, free⟩

variable {lead trail : List Char}

theorem ComesFrom.position_iff (comesFrom : ComesFrom gone text before line front middle back)
    (split : text = lead ++ c :: trail) (free : ¬ Covered gone (byteLength lead)) :
    (byteLength before ≤ byteLength (remainder gone lead) ∧
      byteLength (remainder gone lead) ≤ byteLength (before ++ line)) ↔
    byteLength front ≤ byteLength lead ∧ byteLength lead ≤ byteLength (front ++ middle) := by
  obtain ⟨whole, rfl, rfl, feed⟩ := comesFrom
  -- What is left grows with the text, and by the character where that is left.
  have grows : ∀ {first second rest rest' : List Char} {d : Char}, text = first ++ d :: rest →
      ¬ Covered gone (byteLength first) → text = second ++ rest' →
      byteLength first < byteLength second →
        byteLength (remainder gone first) < byteLength (remainder gone second) := by
    intro first second rest rest' d parted free parted' shorter
    obtain ⟨more, rfl, tail⟩ := prefix_of_byteLength_le (parted.symm.trans parted') shorter.le
    cases more with
    | nil => simp at shorter
    | cons e more =>
        obtain ⟨rfl, -⟩ := List.cons.inj tail
        have size := d.utf8Size_pos
        rw [remainder, remainder, outside_append, Nat.zero_add, outside, if_neg free,
          byteLength_append, byteLength_cons]
        omega
  have all : remainder gone (front ++ middle) = remainder gone front ++
      outside Char.utf8Size gone (byteLength front) middle := by
    rw [remainder, outside_append, Nat.zero_add]
    rfl
  rw [← all]
  constructor
  · rintro ⟨lower, upper⟩
    constructor
    · by_contra early
      have := grows split free (whole.trans (List.append_assoc _ _ _)) (by omega)
      omega
    · by_contra late
      have := grows whole feed split (by omega)
      omega
  · rintro ⟨lower, upper⟩
    constructor
    · obtain ⟨more, rfl, -⟩ := prefix_of_byteLength_le
        ((whole.trans (List.append_assoc _ _ _)).symm.trans split) lower
      rw [remainder, remainder, outside_append, byteLength_append]
      exact Nat.le_add_right _ _
    · obtain ⟨more, longer, -⟩ := prefix_of_byteLength_le (split.symm.trans whole) upper
      rw [longer, remainder, remainder, outside_append, byteLength_append]
      exact Nat.le_add_right _ _

theorem ComesFrom.mem_line (comesFrom : ComesFrom gone text before line front middle back)
    (split : text = lead ++ c :: trail) (free : ¬ Covered gone (byteLength lead))
    (plain : c ≠ '\n') (lower : byteLength front ≤ byteLength lead)
    (upper : byteLength lead ≤ byteLength (front ++ middle)) : c ∈ line := by
  obtain ⟨more, longer, tail⟩ := prefix_of_byteLength_le (split.symm.trans comesFrom.split) upper
  cases more with
  | nil => exact absurd (List.cons.inj tail).1 plain
  | cons d more =>
      obtain ⟨rfl, -⟩ := List.cons.inj tail
      obtain ⟨first, rfl, rest⟩ := prefix_of_byteLength_le longer lower
      rw [byteLength_append] at free
      rw [← comesFrom.line]
      exact mem_outside_iff.mpr ⟨first, more, rest, free⟩

end Survivors

section Kept

variable {spans : List Span} {text before line after front middle back lead trail : List Char}
  {c : Char} {byte : Nat}

theorem exists_span_of_row (fits : ∀ span ∈ spans, span.Fits text)
    (split : text = lead ++ c :: trail)
    (free : ¬ Covered (spans.map (Span.widen text)) (byteLength lead))
    (covered : Covered (spans.map (Span.widen text)) byte)
    (same : (positionAt text byte).row = lead.count '\n') :
    ∃ span ∈ spans, span.start ≤ byte ∧ byte < span.stop := by
  obtain ⟨widened, member, inside⟩ := covered
  obtain ⟨span, among, rfl⟩ := List.mem_map.mp member
  by_cases alone : span.Alone text
  · -- All of the row would be gone.
    rw [Span.widen_of_alone alone] at inside
    have within : byteLength lead < byteLength text := by
      have := c.utf8Size_pos
      rw [split, byteLength_append, byteLength_cons]
      omega
    have gone := allLines_row (fits span among) inside within (same.trans (row_of_split split).symm)
    rw [← Span.widen_of_alone alone] at gone
    exact absurd ⟨_, member, gone⟩ free
  · rw [Span.widen_of_not_alone alone] at inside
    exact ⟨span, among, inside⟩

theorem no_feed_between {span : Span} {byte offset place : Nat} (fits : ∀ span ∈ spans, span.Fits text)
    (among : span ∈ spans) (inside : span.start ≤ byte ∧ byte < span.stop)
    (same : (positionAt text byte).row = (positionAt text offset).row)
    (beside : (span.allLines text).start ≤ place ∧ place < (span.allLines text).stop)
    (feed : text = front ++ '\n' :: back)
    (free : ¬ Covered (spans.map (Span.widen text)) (byteLength front)) :
    ¬ (place ≤ byteLength front ∧ byteLength front < offset) ∧
      ¬ (offset ≤ byteLength front ∧ byteLength front < place) := by
  have outer := allLines_bounds text span
  have outside : byteLength front < span.start ∨ span.stop ≤ byteLength front := by
    have bounds := widen_bounds (fits span among)
    by_contra held
    exact free ⟨_, List.mem_map_of_mem among, by omega, by omega⟩
  constructor
  · rintro ⟨lower, upper⟩
    rcases outside with before | behind
    · have := (allLines_feed (fits span among) feed (by omega) (by omega)).1
      omega
    · have := @row_lt_of_feed text front back byte offset feed (by omega) upper
      omega
  · rintro ⟨lower, upper⟩
    rcases outside with before | behind
    · have := @row_lt_of_feed text front back offset byte feed lower (by omega)
      omega
    · have := (allLines_feed (fits span among) feed (by omega) (by omega)).2
      omega

/-- Nothing is gone of a row of which something is left in a part of the text. -/
def WholeRows (gone : List Span) (text front middle : List Char) : Prop :=
  ∀ lead c trail byte, text = lead ++ c :: trail → ¬ Covered gone (byteLength lead) →
    byteLength front ≤ byteLength lead → byteLength lead ≤ byteLength (front ++ middle) →
    (positionAt text byte).row = lead.count '\n' → ¬ Covered gone byte

theorem wholeRows_of_not_meets (fits : ∀ span ∈ spans, span.Fits text)
    (comesFrom : ComesFrom (spans.map (Span.widen text)) text before line front middle back)
    (apart : ∀ span ∈ spans, ¬ span.Meets (spans.map (Span.widen text)) text before line) :
    WholeRows (spans.map (Span.widen text)) text front middle := by
  intro lead c trail byte split free lower upper same covered
  obtain ⟨span, among, inside⟩ := exists_span_of_row fits split free covered same
  obtain ⟨first, last⟩ := (comesFrom.position_iff split free).mpr ⟨lower, upper⟩
  exact apart span among ⟨lead, c, trail, byte, split, free, first, last, inside, same⟩

/-- Nothing is left of the rows whose line feeds are gone. -/
theorem ComesFrom.rows_gone {gone : List Span} {rows row start : List Char}
    (comesFrom : ComesFrom gone text before line front (rows ++ row) back) (plain : '\n' ∉ line)
    (whole : WholeRows gone text front (rows ++ row)) (ends : rows = start ++ ['\n']) :
    outside Char.utf8Size gone (byteLength front) rows = [] := by
  refine List.eq_nil_iff_forall_not_mem.mpr fun c member => ?_
  obtain ⟨first, second, parted, free⟩ := mem_outside_iff.mp member
  rw [← byteLength_append] at free
  have feed : '\n' ∈ c :: second := by
    have last : (first ++ c :: second).getLast? = some '\n' := by rw [← parted, ends]; simp
    rw [List.getLast?_append_of_ne_nil _ (List.cons_ne_nil _ _)] at last
    exact List.mem_of_getLast? last
  obtain ⟨between, later, parted', plain'⟩ := List.eq_append_cons_of_mem feed
  have feedAt : rows ++ row = (first ++ between) ++ '\n' :: (later ++ row) := by
    rw [parted, parted']
    simp
  have gone := comesFrom.feed_covered plain feedAt
  have split : text = (front ++ first) ++ c :: (second ++ row ++ '\n' :: back) := by
    rw [comesFrom.split, parted]
    simp
  have split' : text = front ++ first ++ between ++ ('\n' :: later ++ row ++ '\n' :: back) := by
    rw [comesFrom.split, parted, parted']
    simp
  rw [← List.append_assoc] at gone
  refine whole _ _ _ _ split free (by simp) ?_
    (row_of_plain split' plain' (by simp) (Nat.le_refl _)) gone
  rw [parted]
  simp only [byteLength_append]
  omega

theorem keptLine_of_not_meets (fits : ∀ span ∈ spans, span.Fits text)
    (isLine : IsLine (remainder (spans.map (Span.widen text)) text) before line after)
    (apart : ∀ span ∈ spans, ¬ span.Meets (spans.map (Span.widen text)) text before line) :
    KeptLine (spans.map (Span.widen text)) text before line := by
  obtain ⟨front, middle, back, comesFrom, opens⟩ := isLine.comesFrom
  have whole := wholeRows_of_not_meets fits comesFrom apart
  generalize spans.map (Span.widen text) = gone at isLine comesFrom opens whole ⊢
  obtain ⟨rows, row, rfl, plain, ends⟩ := lastLine_split middle
  have split : text = front ++ rows ++ row ++ '\n' :: back := by simpa using comesFrom.split
  have clear : ∀ byte, byteLength (front ++ rows) ≤ byte →
      byte < byteLength (front ++ rows ++ row) + 1 → ¬ Covered gone byte := by
    intro byte lower upper
    apply whole _ _ _ _ comesFrom.split comesFrom.feed (by simp) (Nat.le_refl _)
    have none : row.count '\n' = 0 := List.count_eq_zero_of_not_mem plain
    rw [row_of_plain split plain lower (by omega)]
    simp [none]
  have none : outside Char.utf8Size gone (byteLength front) rows = [] := by
    rcases ends with rfl | ⟨start, ends⟩
    · rfl
    · exact comesFrom.rows_gone isLine.plain whole ends
  have here : line = row := by
    rw [← comesFrom.line, outside_append, none, List.nil_append, ← byteLength_append]
    refine outside_eq_self fun byte lower upper => clear byte lower ?_
    rw [byteLength_append _ row]
    omega
  subst here
  refine ⟨front ++ rows, back, ⟨split, plain, ?_⟩, ?_, clear⟩
  · rcases ends with rfl | ⟨start, rfl⟩
    · rw [List.append_nil]
      exact opens.imp_right fun ⟨lead, same, _⟩ => ⟨lead, same⟩
    · exact .inr ⟨front ++ start, by simp⟩
  · rw [remainder, outside_append, Nat.zero_add, none, List.append_nil]
    exact comesFrom.before

theorem not_meets_of_keptLine (fits : ∀ span ∈ spans, span.Fits text)
    (kept : KeptLine (spans.map (Span.widen text)) text before line) {span : Span}
    (among : span ∈ spans) : ¬ span.Meets (spans.map (Span.widen text)) text before line := by
  rintro ⟨lead, c, trail, byte, split, free, first, last, inside, same⟩
  obtain ⟨front, back, isLine, left, clear⟩ := kept
  have self : outside Char.utf8Size (spans.map (Span.widen text)) (byteLength front) line = line := by
    refine outside_eq_self fun byte lower upper => clear byte lower ?_
    simp only [byteLength_append]
    omega
  have comesFrom : ComesFrom (spans.map (Span.widen text)) text before line front line back :=
    ⟨isLine.split, left, self, clear _ (by simp) (Nat.lt_succ_self _)⟩
  obtain ⟨lower, upper⟩ := (comesFrom.position_iff split free).mp ⟨first, last⟩
  rw [← row_of_split split] at same
  -- The byte stands on the same line, of which nothing is gone.
  have bounds := widen_bounds (fits span among)
  refine clear byte ?_ ?_ ⟨_, List.mem_map_of_mem among, by omega, by omega⟩
  · by_contra early
    rcases isLine.opens with rfl | ⟨start, rfl⟩
    · exact early (Nat.zero_le _)
    · have size := byteLength_feed start
      have less := @row_lt_of_feed text start (line ++ '\n' :: back) byte (byteLength lead)
        (by simp [isLine.split]) (by simp only at early; omega) (by omega)
      omega
  · by_contra late
    have less := @row_lt_of_feed text (front ++ line) back (byteLength lead) byte isLine.split upper
      (by simp only at late; omega)
    omega

/-- A line of what is left was one of the text if and only if no span had a row in common with it. -/
theorem keptLine_iff (fits : ∀ span ∈ spans, span.Fits text)
    (isLine : IsLine (remainder (spans.map (Span.widen text)) text) before line after) :
    KeptLine (spans.map (Span.widen text)) text before line ↔
      ∀ span ∈ spans, ¬ span.Meets (spans.map (Span.widen text)) text before line :=
  ⟨fun kept _ among => not_meets_of_keptLine fits kept among, keptLine_of_not_meets fits isLine⟩

theorem deserted_of_meets (fits : ∀ span ∈ spans, span.Fits text)
    (isLine : IsLine (remainder (spans.map (Span.widen text)) text) before line after)
    (blank : allBlank line = true) {span : Span} (among : span ∈ spans)
    (meets : span.Meets (spans.map (Span.widen text)) text before line) :
    span.Deserted text spans := by
  obtain ⟨lead, c, trail, byte, split, free, first, last, inside, same⟩ := meets
  obtain ⟨front, middle, back, comesFrom, opens⟩ := isLine.comesFrom
  obtain ⟨lower, upper⟩ := (comesFrom.position_iff split free).mp ⟨first, last⟩
  rw [← row_of_split split] at same
  have bounds := widen_bounds (fits span among)
  have held : ∀ offset, span.start ≤ offset → offset < span.stop →
      Covered (spans.map (Span.widen text)) offset := fun offset starts stops =>
    ⟨_, List.mem_map_of_mem among, by omega, by omega⟩
  constructor
  case shared =>
    intro alone
    have within : byteLength lead < byteLength text := by
      have := c.utf8Size_pos
      rw [split, byteLength_append, byteLength_cons]
      omega
    rw [Span.widen_of_alone alone] at bounds
    have gone := allLines_row (fits span among) ⟨by omega, by omega⟩ within same
    rw [← Span.widen_of_alone alone] at gone
    exact free ⟨_, List.mem_map_of_mem among, gone⟩
  case taken =>
    intro place d rest parted seen starts stops
    by_contra uncovered
    have notFeed : d ≠ '\n' := by
      rintro rfl
      rw [isBlank_newline] at seen
      cases seen
    have left : ¬ Covered (spans.map (Span.widen text)) (byteLength place) := by
      rintro ⟨_, member, covers⟩
      obtain ⟨other, among', rfl⟩ := List.mem_map.mp member
      exact uncovered ⟨other, among', (widen_visible (fits other among') parted seen).mp covers⟩
    -- It is left in the same line, as no line feed is left between it and the other character.
    have lower' : byteLength front ≤ byteLength place := by
      by_contra early
      rcases opens with rfl | ⟨ahead, rfl, feed⟩
      · exact early (Nat.zero_le _)
      · have size := byteLength_feed ahead
        have split' : text = ahead ++ '\n' :: (middle ++ '\n' :: back) := by
          simpa using comesFrom.split
        have := no_feed_between fits among inside same ⟨starts, stops⟩ split' feed
        omega
    have upper' : byteLength place ≤ byteLength (front ++ middle) := by
      by_contra late
      have := no_feed_between fits among inside same ⟨starts, stops⟩ comesFrom.split comesFrom.feed
      omega
    have member := comesFrom.mem_line parted left notFeed lower' upper'
    have := List.all_eq_true.mp blank d member
    rw [seen] at this
    cases this

end Kept

end CallAtlas.Text
