import CallAtlas.Proofs.Removal.Cutting
import Mathlib.Data.List.Basic

/-!
The blank runs of a text. A run is told by what stands in it and around it
(`IsBlankRun`), and collapsing takes out of every run what is between its first
line feed and its last (`collapseBlankRuns_eq_remainder`), and nothing else of the
text.
-/

namespace CallAtlas.Text

def Padded (text : List Char) : Prop :=
  ∀ c ∈ text, c = '\n' ∨ isPadding c = true

-- By a `Bool`, since a quantifier over `Char` may be decided by going through every character.
instance (text : List Char) : Decidable (Padded text) :=
  decidable_of_iff ((text.all fun c => c == '\n' || isPadding c) = true) (by simp [Padded])

def GoesOn (text : List Char) : Prop :=
  ∃ padding rest, text = padding ++ '\n' :: rest ∧ ∀ c ∈ padding, isPadding c = true

/-- Three line feeds or more, with padding between them. -/
structure Blanks (run : List Char) : Prop where
  first : run.head? = some '\n'
  last : run.getLast? = some '\n'
  padded : Padded run
  long : 3 ≤ run.count '\n'

instance (run : List Char) : Decidable (Blanks run) :=
  decidable_of_iff (run.head? = some '\n' ∧ run.getLast? = some '\n' ∧ Padded run ∧
      3 ≤ run.count '\n')
    ⟨fun ⟨first, last, padded, long⟩ => ⟨first, last, padded, long⟩,
      fun ⟨first, last, padded, long⟩ => ⟨first, last, padded, long⟩⟩

/-- A run that goes no further in a text, neither ahead nor back. -/
structure IsBlankRun (text before run after : List Char) : Prop where
  split : text = before ++ run ++ after
  blanks : Blanks run
  opens : ¬ GoesOn before.reverse
  closes : ¬ GoesOn after

section Lines

variable {text run after rest : List Char} {c : Char}

theorem not_goesOn_nil : ¬ GoesOn [] := by
  rintro ⟨padding, rest, split, -⟩
  simp at split

theorem goesOn_cons_iff : GoesOn (c :: rest) ↔ c = '\n' ∨ isPadding c = true ∧ GoesOn rest := by
  constructor
  · rintro ⟨padding, back, split, padded⟩
    cases padding with
    | nil => exact .inl (List.cons.inj split).1
    | cons d padding =>
        obtain ⟨rfl, tail⟩ := List.cons.inj split
        exact .inr ⟨padded c (by simp), padding, back, tail,
          fun e member => padded e (List.mem_cons_of_mem _ member)⟩
  · rintro (rfl | ⟨padding, more, back, rfl, padded⟩)
    · exact ⟨[], rest, rfl, by simp⟩
    · refine ⟨c :: more, back, rfl, fun d member => ?_⟩
      rcases List.mem_cons.mp member with rfl | later
      · exact padding
      · exact padded d later

theorem Padded.goesOn (padded : Padded text) (feed : '\n' ∈ text) (rest : List Char) :
    GoesOn (text ++ rest) := by
  induction text with
  | nil => cases feed
  | cons c text ih =>
      rw [List.cons_append, goesOn_cons_iff]
      rcases padded c (by simp) with here | padding
      · exact .inl here
      · have later : '\n' ∈ text := by
          rcases List.mem_cons.mp feed with rfl | later
          · exact absurd padding (by decide)
          · exact later
        exact .inr ⟨padding, ih (fun d member => padded d (List.mem_cons_of_mem _ member)) later⟩

theorem Padded.append (padded : Padded text) (padded' : Padded rest) : Padded (text ++ rest) := by
  intro c member
  rcases List.mem_append.mp member with first | second
  · exact padded c first
  · exact padded' c second

theorem padded_of_padding (padding : ∀ c ∈ text, isPadding c = true) : Padded text :=
  fun c member => .inr (padding c member)

theorem isBlank_of_padded (padded : Padded text) (member : c ∈ text) : isBlank c = true := by
  rcases padded c member with rfl | padding
  · exact isBlank_newline
  · exact isBlank_of_isPadding padding

theorem byteLength_of_padded (padded : Padded text) : byteLength text = text.length := by
  induction text with
  | nil => rfl
  | cons c rest ih =>
      have size : c.utf8Size = 1 := by
        rcases padded c (by simp) with rfl | padding
        · decide
        · simp only [isPadding, Bool.or_eq_true, decide_eq_true_eq] at padding
          rcases padding with rfl | rfl <;> decide
      rw [byteLength_cons, size, ih fun d member => padded d (List.mem_cons_of_mem _ member),
        List.length_cons, Nat.add_comm]

theorem length_le_of_not_goesOn {first second rest' : List Char}
    (same : first ++ rest = second ++ rest') (padded : Padded second)
    (last : second = [] ∨ second.getLast? = some '\n') (closes : ¬ GoesOn rest) :
    second.length ≤ first.length := by
  by_contra longer
  rcases List.append_eq_append_iff.mp same with ⟨extra, rfl, rfl⟩ | ⟨extra, rfl, -⟩
  · have nonempty : extra ≠ [] := by
      rintro rfl
      simp at longer
    have feed : '\n' ∈ extra := by
      rcases last with empty | last
      · simp [nonempty] at empty
      · rw [List.getLast?_append_of_ne_nil _ nonempty] at last
        exact List.mem_of_getLast? last
    exact closes (Padded.goesOn (fun c member => padded c (List.mem_append_right _ member)) feed _)
  · simp at longer

theorem maximal_unique {first second rest' : List Char} (same : first ++ rest = second ++ rest')
    (padded : Padded first) (padded' : Padded second)
    (last : first = [] ∨ first.getLast? = some '\n')
    (last' : second = [] ∨ second.getLast? = some '\n')
    (closes : ¬ GoesOn rest) (closes' : ¬ GoesOn rest') : first = second ∧ rest = rest' := by
  have upper := length_le_of_not_goesOn same padded' last' closes
  have lower := length_le_of_not_goesOn same.symm padded last closes'
  exact List.append_inj same (Nat.le_antisymm lower upper)

theorem paddedLines_split (text : List Char) (count stop passed : Nat) :
    ∃ lines rest, text = lines ++ rest ∧ Padded lines ∧
      (lines = [] ∨ lines.getLast? = some '\n') ∧ ¬ GoesOn rest ∧
      paddedLines count stop passed text =
        (count + lines.count '\n', if lines = [] then stop else passed + lines.length) := by
  induction text generalizing count stop passed with
  | nil => exact ⟨[], [], rfl, by simp [Padded], .inl rfl, not_goesOn_nil, rfl⟩
  | cons c text ih =>
      rw [paddedLines]
      split
      · next feed =>
          obtain ⟨lines, rest, rfl, padded, last, closes, read⟩ := ih (count + 1) (passed + 1) (passed + 1)
          refine ⟨c :: lines, rest, rfl, ?_, .inr ?_, closes, ?_⟩
          · intro d member
            rcases List.mem_cons.mp member with rfl | later
            · exact .inl feed
            · exact padded d later
          · rcases last with rfl | last
            · rw [feed]
              rfl
            · rw [List.getLast?_cons, last]
              rfl
          · rw [read, feed]
            by_cases empty : lines = []
            · simp [empty]
            · simp [empty]
              omega
      · next noFeed =>
          split
          · next padding =>
              obtain ⟨lines, rest, rfl, padded, last, closes, read⟩ := ih count stop (passed + 1)
              rcases last with rfl | last
              · refine ⟨[], c :: rest, rfl, by simp [Padded], .inl rfl, ?_, by simpa using read⟩
                rw [goesOn_cons_iff]
                rintro (feed | ⟨-, more⟩)
                · exact noFeed feed
                · exact closes more
              · have nonempty : lines ≠ [] := by
                  rintro rfl
                  cases last
                refine ⟨c :: lines, rest, rfl, ?_, .inr ?_, closes, ?_⟩
                · intro d member
                  rcases List.mem_cons.mp member with rfl | later
                  · exact .inr padding
                  · exact padded d later
                · rw [List.getLast?_cons, last]
                  rfl
                · rw [read]
                  simp [nonempty, noFeed]
                  omega
          · next other =>
              refine ⟨[], c :: text, rfl, by simp [Padded], .inl rfl, ?_, by simp⟩
              rw [goesOn_cons_iff]
              rintro (feed | ⟨padding, -⟩)
              · exact noFeed feed
              · exact other padding

theorem Blanks.ne_nil (blanks : Blanks run) : run ≠ [] := by
  rintro rfl
  cases blanks.first

theorem runLength_of_blanks (blanks : Blanks run) (closes : ¬ GoesOn after) :
    runLength (run ++ after) = run.length := by
  obtain ⟨first, last, padded, long⟩ := blanks
  cases run with
  | nil => cases first
  | cons c run =>
      obtain rfl : c = '\n' := Option.some.inj first
      obtain ⟨lines, rest, split, padded', last', closes', read⟩ :=
        paddedLines_split (run ++ after) 0 0 0
      have last : run = [] ∨ run.getLast? = some '\n' := by
        cases run with
        | nil => exact .inl rfl
        | cons d run => exact .inr (by simpa using last)
      obtain ⟨rfl, -⟩ := maximal_unique split
        (fun d member => padded d (List.mem_cons_of_mem _ member)) padded' last last' closes closes'
      rw [List.count_cons_self] at long
      have nonempty : run ≠ [] := by
        rintro rfl
        simp at long
      simp only [List.cons_append, runLength, read, Nat.zero_add, if_true, List.length_cons,
        if_neg nonempty]
      exact if_pos (by omega)

theorem exists_run_of_runLength (some : runLength text ≠ 0) :
    ∃ run after, text = run ++ after ∧ Blanks run ∧ ¬ GoesOn after := by
  cases text with
  | nil => exact absurd rfl some
  | cons c text =>
      rw [runLength] at some
      split at some
      · next feed =>
          obtain ⟨lines, rest, rfl, padded, last, closes, read⟩ := paddedLines_split text 0 0 0
          rw [read] at some
          have long : 2 ≤ lines.count '\n' := by
            by_contra short
            simp [short] at some
          refine ⟨c :: lines, rest, rfl, ⟨by rw [feed]; rfl, ?_, ?_, ?_⟩, closes⟩
          · rcases last with rfl | last
            · simp at long
            · rw [List.getLast?_cons, last]
              rfl
          · intro d member
            rcases List.mem_cons.mp member with rfl | later
            · exact .inl feed
            · exact padded d later
          · rw [feed, List.count_cons_self]
            omega
      · exact absurd rfl some

end Lines

/-- Down a text run by run, and character by character where no run starts. -/
theorem runs_induction {motive : List Char → Prop} (nil : motive [])
    (plain : ∀ c rest, runLength (c :: rest) = 0 → motive rest → motive (c :: rest))
    (run : ∀ run after, Blanks run → ¬ GoesOn after → motive after → motive (run ++ after)) :
    ∀ text, motive text
  | [] => nil
  | c :: rest => by
      by_cases none : runLength (c :: rest) = 0
      · exact plain c rest none (runs_induction nil plain run rest)
      · obtain ⟨first, after, split, blanks, closes⟩ := exists_run_of_runLength none
        have shorter : after.length < (c :: rest).length := by
          rw [split, List.length_append]
          have := List.length_pos_iff.mpr blanks.ne_nil
          omega
        rw [split]
        exact run first after blanks closes (runs_induction nil plain run after)
termination_by text => text.length
decreasing_by
  · exact Nat.lt_succ_self rest.length
  · exact shorter

section Collapsing

theorem collapseFrom_eq_drop (skip : Nat) (text : List Char) :
    collapseFrom skip text = collapseBlankRuns (text.drop skip) := by
  induction skip generalizing text with
  | zero => rfl
  | succ skip ih =>
      cases text with
      | nil => simp [collapseFrom, collapseBlankRuns]
      | cons c rest => rw [collapseFrom, ih, List.drop_succ_cons]

theorem collapseBlankRuns_plain {c : Char} {rest : List Char} (none : runLength (c :: rest) = 0) :
    collapseBlankRuns (c :: rest) = c :: collapseBlankRuns rest := by
  rw [collapseBlankRuns, collapseFrom, none]
  rfl

theorem collapseBlankRuns_run {run after : List Char} (blanks : Blanks run)
    (closes : ¬ GoesOn after) :
    collapseBlankRuns (run ++ after) = '\n' :: '\n' :: collapseBlankRuns after := by
  have length := runLength_of_blanks blanks closes
  cases run with
  | nil => exact absurd rfl blanks.ne_nil
  | cons c run =>
      rw [List.cons_append, List.length_cons] at length
      rw [List.cons_append, collapseBlankRuns, collapseFrom, length]
      simp only
      rw [collapseFrom_eq_drop, List.drop_left]

/-- Where the runs of a text lose something: between their first line feed and their last. -/
def insides (offset : Nat) : List Char → List Span
  | [] => []
  | c :: rest =>
      match runLength (c :: rest) with
      | 0 => insides (offset + c.utf8Size) rest
      | length + 1 =>
          ⟨offset + 1, offset + length⟩ :: insides (offset + (length + 1)) (rest.drop length)
termination_by text => text.length
decreasing_by all_goals simp only [List.length_cons, List.length_drop]; omega

theorem insides_plain {c : Char} {rest : List Char} (offset : Nat)
    (none : runLength (c :: rest) = 0) :
    insides offset (c :: rest) = insides (offset + c.utf8Size) rest := by
  rw [insides, none]

theorem insides_run {run after : List Char} (offset : Nat) (blanks : Blanks run)
    (closes : ¬ GoesOn after) : insides offset (run ++ after) =
      ⟨offset + 1, offset + (run.length - 1)⟩ :: insides (offset + run.length) after := by
  have length := runLength_of_blanks blanks closes
  cases run with
  | nil => exact absurd rfl blanks.ne_nil
  | cons c run =>
      rw [List.cons_append, List.length_cons] at length
      rw [List.cons_append, insides, length]
      simp

theorem insides_behind (offset : Nat) (text : List Char) :
    ∀ span ∈ insides offset text, offset < span.start := by
  induction text using runs_induction generalizing offset with
  | nil => simp [insides]
  | plain c rest none ih =>
      intro span member
      rw [insides_plain offset none] at member
      exact Nat.lt_of_le_of_lt (Nat.le_add_right _ _) (ih _ span member)
  | run run after blanks closes ih =>
      intro span member
      rw [insides_run offset blanks closes] at member
      rcases List.mem_cons.mp member with rfl | later
      · exact Nat.lt_succ_self offset
      · exact Nat.lt_of_le_of_lt (Nat.le_add_right _ _) (ih _ span later)

theorem Blanks.ends {run : List Char} (blanks : Blanks run) :
    ∃ middle, run = '\n' :: (middle ++ ['\n']) ∧ Padded middle := by
  obtain ⟨first, last, padded, long⟩ := blanks
  cases run with
  | nil => cases first
  | cons c rest =>
      obtain rfl : c = '\n' := Option.some.inj first
      have nonempty : rest ≠ [] := by
        rintro rfl
        simp at long
      rw [List.getLast?_cons_of_ne_nil nonempty] at last
      refine ⟨rest.dropLast, ?_, fun d member => padded d (List.mem_cons_of_mem _ ?_)⟩
      · rw [List.dropLast_append_getLast? _ last]
      · exact List.dropLast_subset rest member

theorem outside_between {spans : List Span} {offset : Nat} {middle : List Char}
    (padded : Padded middle) (after : List Char)
    (near : ∀ byte, byte < offset + (middle.length + 2) →
      (Covered spans byte ↔ offset + 1 ≤ byte ∧ byte < offset + (middle.length + 1))) :
    outside Char.utf8Size spans offset ('\n' :: (middle ++ ['\n']) ++ after) =
      '\n' :: '\n' :: outside Char.utf8Size spans (offset + (middle.length + 2)) after := by
  have size := byteLength_of_padded padded
  have feed : '\n'.utf8Size = 1 := by decide
  have first : ¬ Covered spans offset := by
    rw [near offset (by omega)]
    omega
  have gone : outside Char.utf8Size spans (offset + 1) middle = [] :=
    outside_eq_nil fun byte lower upper => (near byte (by omega)).mpr ⟨lower, by omega⟩
  have last : ¬ Covered spans (offset + 1 + middle.length) := by
    rw [near _ (by omega)]
    omega
  rw [List.cons_append, outside, if_neg first, List.append_assoc, outside_append, feed, gone, size,
    List.singleton_append, List.nil_append, outside, if_neg last, feed]
  congr 3
  omega

theorem outside_insides (offset : Nat) (text : List Char) :
    outside Char.utf8Size (insides offset text) offset text = collapseBlankRuns text := by
  induction text using runs_induction generalizing offset with
  | nil => rfl
  | plain c rest none ih =>
      have kept : ¬ Covered (insides (offset + c.utf8Size) rest) offset := by
        rintro ⟨span, member, lower, -⟩
        have := insides_behind _ rest span member
        omega
      rw [insides_plain offset none, outside, if_neg kept, ih, collapseBlankRuns_plain none]
  | run run after blanks closes ih =>
      rw [insides_run offset blanks closes, collapseBlankRuns_run blanks closes]
      obtain ⟨middle, rfl, padded⟩ := blanks.ends
      have length : ('\n' :: (middle ++ ['\n'])).length = middle.length + 2 := by simp
      have behind := insides_behind (offset + (middle.length + 2)) after
      rw [length, outside_between padded, ← ih (offset + (middle.length + 2))]
      · congr 2
        refine outside_congr fun byte lower _ => ?_
        rw [covered_cons_iff]
        refine or_iff_right ?_
        simp only
        omega
      · intro byte upper
        rw [covered_cons_iff]
        refine or_iff_left ?_
        rintro ⟨span, member, lower, -⟩
        have := behind span member
        omega

def InsideRun (text : List Char) (byte : Nat) : Prop :=
  ∃ before run after, IsBlankRun text before run after ∧
    byteLength before < byte ∧ byte + 1 < byteLength (before ++ run)

/-- Collapsing leaves what is outside of the insides of the runs. -/
theorem collapseBlankRuns_eq_remainder (text : List Char) :
    collapseBlankRuns text = remainder (insides 0 text) text :=
  (outside_insides 0 text).symm

end Collapsing

section Runs

variable {text before run after : List Char} {span : Span}

def Fresh (before text : List Char) : Prop :=
  ∀ padding run after, text = padding ++ run ++ after → (∀ c ∈ padding, isPadding c = true) →
    Blanks run → ¬ GoesOn after → ¬ GoesOn before.reverse

theorem Fresh.plain {c : Char} {rest : List Char} (fresh : Fresh before (c :: rest))
    (none : runLength (c :: rest) = 0) : Fresh (before ++ [c]) rest := by
  rintro padding run after rfl padded blanks closes goesOn
  rw [List.reverse_append, List.reverse_singleton, List.singleton_append, goesOn_cons_iff] at goesOn
  rcases goesOn with rfl | ⟨padding', goesOn⟩
  · -- The line feed would be the first one of a longer run.
    have longer : Blanks ('\n' :: (padding ++ run)) := by
      refine ⟨rfl, ?_, ?_, ?_⟩
      · rw [List.getLast?_cons_of_ne_nil (by simp [blanks.ne_nil]),
          List.getLast?_append_of_ne_nil _ blanks.ne_nil]
        exact blanks.last
      · intro d member
        rcases List.mem_cons.mp member with rfl | later
        · exact .inl rfl
        · exact (padded_of_padding padded).append blanks.padded d later
      · rw [List.count_cons_self, List.count_append]
        have := blanks.long
        omega
    have length := runLength_of_blanks longer closes
    rw [List.cons_append, none] at length
    cases length
  · refine fresh (c :: padding) run after rfl ?_ blanks closes goesOn
    intro d member
    rcases List.mem_cons.mp member with rfl | later
    · exact padding'
    · exact padded d later

theorem fresh_of_closes (closes : ¬ GoesOn after) : Fresh before after := by
  rintro padding run rest rfl padded blanks - -
  refine closes ?_
  have feed : '\n' ∈ padding ++ run :=
    List.mem_append_right _ (List.mem_of_head? blanks.first)
  exact ((padded_of_padding padded).append blanks.padded).goesOn feed rest

def insideOf (before run : List Char) : Span :=
  ⟨byteLength before + 1, byteLength before + (run.length - 1)⟩

theorem exists_run_of_mem_insides (fresh : Fresh before text)
    (member : span ∈ insides (byteLength before) text) :
    ∃ front run after, IsBlankRun (before ++ text) front run after ∧ span = insideOf front run := by
  induction text using runs_induction generalizing before with
  | nil => simp [insides] at member
  | plain c rest none ih =>
      rw [insides_plain _ none] at member
      have found := @ih (before ++ [c]) (fresh.plain none) (by simpa using member)
      simpa using found
  | run run after blanks closes ih =>
      rw [insides_run _ blanks closes] at member
      rcases List.mem_cons.mp member with rfl | later
      · have opens := fresh [] run after rfl (by simp) blanks closes
        exact ⟨before, run, after, ⟨by simp, blanks, opens, closes⟩, rfl⟩
      · have size := byteLength_of_padded blanks.padded
        have found := @ih (before ++ run) (fresh_of_closes closes) (by simpa [size] using later)
        simpa using found

theorem insideOf_mem_insides {extra : List Char}
    (isRun : IsBlankRun (before ++ text) (before ++ extra) run after) :
    insideOf (before ++ extra) run ∈ insides (byteLength before) text := by
  obtain ⟨split, blanks, opens, closes⟩ := isRun
  simp only [List.append_assoc, List.append_cancel_left_eq] at split
  induction text using runs_induction generalizing before extra with
  | nil => simp [blanks.ne_nil] at split
  | plain c rest none ih =>
      cases extra with
      | nil =>
          rw [split, List.nil_append, runLength_of_blanks blanks closes] at none
          exact absurd (List.length_eq_zero_iff.mp none) blanks.ne_nil
      | cons d extra =>
          obtain ⟨rfl, tail⟩ := List.cons.inj split
          rw [insides_plain _ none]
          have found := @ih (before ++ [c]) extra (by simpa using opens) tail
          simpa using found
  | run first rest blanks' closes' ih =>
      rw [insides_run _ blanks' closes']
      cases extra with
      | nil =>
          rw [List.nil_append] at split
          obtain ⟨rfl, -⟩ := maximal_unique split blanks'.padded blanks.padded (.inr blanks'.last)
            (.inr blanks.last) closes' closes
          simp [insideOf]
      | cons d extra =>
          obtain ⟨more, same, tail⟩ : ∃ more, d :: extra = first ++ more ∧
              rest = more ++ (run ++ after) := by
            rcases List.append_eq_append_iff.mp split with behind | ⟨more, rfl, -⟩
            · exact behind
            · -- A run that starts inside of the first one goes on to the front.
              have padded : Padded (d :: extra).reverse := fun e member =>
                blanks'.padded e (List.mem_append_left _ (List.mem_reverse.mp member))
              have feed : '\n' ∈ (d :: extra).reverse := by
                rw [List.mem_reverse, ← Option.some.inj blanks'.first]
                exact List.mem_cons_self
              refine absurd ?_ opens
              rw [List.reverse_append]
              exact padded.goesOn feed _
          have size := byteLength_of_padded blanks'.padded
          rw [same] at opens ⊢
          have found := @ih (before ++ first) more (by simpa using opens) tail
          refine List.mem_cons_of_mem _ ?_
          simpa [size] using found

theorem covered_insides_iff (text : List Char) (byte : Nat) :
    Covered (insides 0 text) byte ↔ InsideRun text byte := by
  have size : ∀ {run}, Blanks run → byteLength run = run.length ∧ 0 < run.length := fun blanks =>
    ⟨byteLength_of_padded blanks.padded, List.length_pos_iff.mpr blanks.ne_nil⟩
  constructor
  · rintro ⟨span, member, lower, upper⟩
    have fresh : Fresh [] text := fun _ _ _ _ _ _ _ => not_goesOn_nil
    obtain ⟨before, run, after, isRun, rfl⟩ := exists_run_of_mem_insides fresh member
    refine ⟨before, run, after, isRun, lower, ?_⟩
    rw [byteLength_append]
    have := size isRun.blanks
    simp only [insideOf] at upper
    omega
  · rintro ⟨before, run, after, isRun, lower, upper⟩
    refine ⟨insideOf before run, @insideOf_mem_insides text [] run after before isRun, lower, ?_⟩
    rw [byteLength_append] at upper
    have := size isRun.blanks
    simp only [insideOf]
    omega

end Runs

end CallAtlas.Text
