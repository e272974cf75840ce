import CallAtlas.Proofs.Text.BlankRuns
import CallAtlas.Proofs.Text.Parts
import Mathlib.Computability.RegularExpressions

/-!
Runs as matches of a pattern. A matcher tries the ways to match a pattern in an
order of its own, in which one more round of a repetition goes before none, and
takes the first one that it finds. For the pattern of a run that is the whole run
(`head?_remainders_runPattern`), so that collapsing is the replacement of every
match from left to right (`replaces_iff`).
-/

namespace CallAtlas.Text

section Matching

variable {text rest : List Char} {step : List Char → List (List Char)}

/-- What is left after rounds of a step, more rounds first; every round takes something. -/
def rounds (step : List Char → List (List Char)) : Nat → List Char → List (List Char)
  | 0, text => [text]
  | fuel + 1, text =>
      ((step text).filter (·.length < text.length)).flatMap (rounds step fuel) ++ [text]

/-- What a match at the start of a text leaves of it, for every way to match, in the order in
which they are tried. -/
def remainders : RegularExpression Char → List Char → List (List Char)
  | .zero => fun _ => []
  | .epsilon => fun text => [text]
  | .char c => fun text => if text.head? = some c then [text.tail] else []
  | .plus first second => fun text => remainders first text ++ remainders second text
  | .comp first second => fun text => (remainders first text).flatMap (remainders second)
  | .star body => fun text => rounds (remainders body) text.length text

/-- Puts a text in the place of every match, from left to right: where nothing matches a character
is kept, and else the first match that is tried gives way. -/
inductive Replaces (pattern : RegularExpression Char) (replacement : List Char) :
    List Char → List Char → Prop where
  | done : Replaces pattern replacement [] []
  | keep {c : Char} {rest result : List Char} (none : remainders pattern (c :: rest) = [])
      (later : Replaces pattern replacement rest result) :
      Replaces pattern replacement (c :: rest) (c :: result)
  | swap {text behind result : List Char} (first : (remainders pattern text).head? = some behind)
      (later : Replaces pattern replacement behind result) :
      Replaces pattern replacement text (replacement ++ result)

theorem self_mem_rounds (fuel : Nat) (text : List Char) : text ∈ rounds step fuel text := by
  cases fuel <;> simp [rounds]

theorem mem_rounds_iff {body : Language Char} {fuel : Nat}
    (exact : ∀ text rest, rest ∈ step text ↔ ∃ found ∈ body, text = found ++ rest)
    (enough : text.length ≤ fuel) :
    rest ∈ rounds step fuel text ↔ ∃ found ∈ KStar.kstar body, text = found ++ rest := by
  constructor
  · intro left
    clear enough
    induction fuel generalizing text with
    | zero => exact ⟨[], Language.nil_mem_kstar body, (List.mem_singleton.mp left).symm⟩
    | succ fuel ih =>
        rw [rounds, List.mem_append, List.mem_flatMap] at left
        rcases left with ⟨middle, taken, later⟩ | same
        · obtain ⟨found, matched, rfl⟩ := (exact text middle).mp (List.mem_of_mem_filter taken)
          obtain ⟨_, ⟨parts, rfl, all⟩, rfl⟩ := ih later
          refine ⟨(found :: parts).flatten, Language.join_mem_kstar ?_, by simp⟩
          exact List.forall_mem_cons.mpr ⟨matched, all⟩
        · exact ⟨[], Language.nil_mem_kstar body, (List.mem_singleton.mp same).symm⟩
  · rintro ⟨_, matched, rfl⟩
    obtain ⟨parts, rfl, all⟩ := Language.mem_kstar_iff_exists_nonempty.mp matched
    clear matched
    -- One round for each part; no part is empty, so the text is long enough for all of them.
    induction parts generalizing fuel with
    | nil => exact self_mem_rounds fuel rest
    | cons part parts ih =>
        obtain ⟨⟨matched, filled⟩, all⟩ := List.forall_mem_cons.mp all
        have long := List.length_pos_iff.mpr filled
        simp only [List.flatten_cons, List.append_assoc, List.length_append] at enough ⊢
        cases fuel with
        | zero => omega
        | succ fuel =>
            rw [rounds, List.mem_append, List.mem_flatMap]
            refine .inl ⟨parts.flatten ++ rest, List.mem_filter.mpr ⟨?_, ?_⟩, ih all ?_⟩
            · exact (exact _ _).mpr ⟨part, matched, rfl⟩
            · simpa using long
            · rw [List.length_append]
              omega

theorem mem_remainders_iff {pattern : RegularExpression Char} :
    rest ∈ remainders pattern text ↔ ∃ found ∈ pattern.matches', text = found ++ rest := by
  induction pattern generalizing text rest with
  | zero => simp [remainders, Language.notMem_zero]
  | epsilon => simp [remainders, Language.mem_one, eq_comm]
  | char c =>
      have single : ∀ found, found ∈ (RegularExpression.char c).matches' ↔ found = [c] :=
        fun found => Iff.rfl
      simp only [remainders, single, exists_eq_left]
      cases text with
      | nil => simp
      | cons d text => by_cases same : d = c <;> simp [same, eq_comm]
  | plus first second ih ih' =>
      simp only [remainders, List.mem_append, ih, ih', RegularExpression.plus_def,
        RegularExpression.matches'_add, Language.mem_add, or_and_right, exists_or]
  | comp first second ih ih' =>
      simp only [remainders, List.mem_flatMap, ih, ih', RegularExpression.comp_def,
        RegularExpression.matches'_mul, Language.mem_mul]
      constructor
      · rintro ⟨_, ⟨found, matched, rfl⟩, found', matched', rfl⟩
        exact ⟨found ++ found', ⟨found, matched, found', matched', rfl⟩, by simp⟩
      · rintro ⟨_, ⟨found, matched, found', matched', rfl⟩, rfl⟩
        exact ⟨found' ++ rest, ⟨found, matched, by simp⟩, found', matched', rfl⟩
  | star body ih =>
      rw [RegularExpression.matches'_star]
      exact mem_rounds_iff (fun text rest => ih) (Nat.le_refl _)

end Matching

section Patterns

open RegularExpression (char)

variable {text run found behind : List Char}

def allPadding (piece : List Char) : Bool :=
  piece.all isPadding

def paddingPattern : RegularExpression Char :=
  (char ' ' + char '\t').star

def linePattern : RegularExpression Char :=
  paddingPattern * char '\n'

def runPattern : RegularExpression Char :=
  char '\n' * paddingPattern * char '\n' * (linePattern * linePattern.star)

theorem mem_paddingPattern_iff : text ∈ paddingPattern.matches' ↔ allPadding text = true := by
  have one : ∀ part : List Char, part ∈ (char ' ' + char '\t').matches' ↔
      ∃ c, part = [c] ∧ isPadding c = true := by
    intro part
    simp only [RegularExpression.matches'_add, RegularExpression.matches'_char, Language.mem_add,
      isPadding, Bool.or_eq_true, decide_eq_true_eq]
    constructor
    · rintro (rfl | rfl)
      · exact ⟨' ', rfl, .inl rfl⟩
      · exact ⟨'\t', rfl, .inr rfl⟩
    · rintro ⟨c, rfl, rfl | rfl⟩
      · exact .inl rfl
      · exact .inr rfl
  rw [paddingPattern, RegularExpression.matches'_star, Language.mem_kstar, allPadding,
    List.all_eq_true]
  simp only [one]
  constructor
  · rintro ⟨parts, rfl, padded⟩ c member
    obtain ⟨part, among, inside⟩ := List.mem_flatten.mp member
    obtain ⟨d, rfl, padding⟩ := padded part among
    rwa [List.mem_singleton.mp inside]
  · intro padded
    refine ⟨text.map ([·]), by rw [← List.flatMap_def, List.flatMap_singleton'], ?_⟩
    intro part member
    obtain ⟨c, among, rfl⟩ := List.mem_map.mp member
    exact ⟨c, rfl, padded c among⟩

theorem mem_linePattern_iff :
    text ∈ linePattern.matches' ↔ ∃ line, allPadding line = true ∧ text = line ++ ['\n'] := by
  rw [linePattern, RegularExpression.matches'_mul, Language.mem_mul]
  simp only [mem_paddingPattern_iff, RegularExpression.matches'_char]
  constructor
  · rintro ⟨line, padded, feed, rfl, rfl⟩
    exact ⟨line, padded, rfl⟩
  · rintro ⟨line, padded, rfl⟩
    exact ⟨line, padded, ['\n'], rfl, rfl⟩

theorem exists_two_of_length {lines : List (List Char)} (long : 2 ≤ lines.length) :
    ∃ first second more, lines = first :: second :: more := by
  cases lines with
  | nil => simp at long
  | cons first lines =>
      cases lines with
      | nil => simp at long
      | cons second more => exact ⟨first, second, more, rfl⟩

/-- The pattern matches a line feed with two lines of padding or more behind it. -/
theorem mem_runPattern_iff : run ∈ runPattern.matches' ↔
    ∃ lines, 2 ≤ lines.length ∧ (∀ line ∈ lines, allPadding line = true) ∧
      run = '\n' :: unlines lines := by
  have many : ∀ text, text ∈ linePattern.star.matches' ↔
      ∃ lines, (∀ line ∈ lines, allPadding line = true) ∧ text = unlines lines := by
    intro text
    rw [RegularExpression.matches'_star, Language.mem_kstar]
    simp only [mem_linePattern_iff]
    constructor
    · rintro ⟨parts, rfl, each⟩
      choose! lineOf padded same using each
      refine ⟨parts.map lineOf, ?_, ?_⟩
      · intro line member
        obtain ⟨part, among, rfl⟩ := List.mem_map.mp member
        exact padded part among
      · rw [unlines, List.flatMap_map, List.flatMap_def]
        congr 1
        conv => lhs; rw [← List.map_id parts]
        exact List.map_congr_left same
    · rintro ⟨lines, padded, rfl⟩
      refine ⟨lines.map (· ++ ['\n']), List.flatMap_def, ?_⟩
      intro part member
      obtain ⟨line, among, rfl⟩ := List.mem_map.mp member
      exact ⟨line, padded line among, rfl⟩
  simp only [runPattern, RegularExpression.matches'_mul, Language.mem_mul, many,
    mem_paddingPattern_iff, mem_linePattern_iff, RegularExpression.matches'_char]
  constructor
  · rintro ⟨_, ⟨_, ⟨_, rfl, first, padded, rfl⟩, _, rfl, rfl⟩, _,
      ⟨_, ⟨second, padded', rfl⟩, _, ⟨lines, all, rfl⟩, rfl⟩, rfl⟩
    refine ⟨first :: second :: lines, by simp, ?_, by simp [unlines]⟩
    simp only [List.forall_mem_cons]
    exact ⟨padded, padded', all⟩
  · rintro ⟨lines, long, all, rfl⟩
    obtain ⟨first, second, lines, rfl⟩ := exists_two_of_length long
    simp only [List.forall_mem_cons] at all
    exact ⟨_, ⟨_, ⟨_, rfl, first, all.1, rfl⟩, _, rfl, rfl⟩, _,
      ⟨_, ⟨second, all.2.1, rfl⟩, _, ⟨lines, all.2.2, rfl⟩, rfl⟩, by simp [unlines]⟩

theorem lineFeed_not_mem_of_allPadding (padded : allPadding text = true) : '\n' ∉ text := by
  intro member
  exact absurd (List.all_eq_true.mp padded '\n' member) (by decide)

theorem count_unlines {lines : List (List Char)} (free : ∀ line ∈ lines, '\n' ∉ line) :
    (unlines lines).count '\n' = lines.length := by
  induction lines with
  | nil => rfl
  | cons line rest ih =>
      rw [List.forall_mem_cons] at free
      rw [unlines, List.flatMap_cons, ← unlines, List.count_append, List.count_append, ih free.2,
        List.count_eq_zero.mpr free.1, List.length_cons]
      simp [Nat.add_comm]

theorem ends_of_cons {c : Char} (last : (c :: text).getLast? = some '\n') :
    text = [] ∨ text.getLast? = some '\n' := by
  cases text with
  | nil => exact .inl rfl
  | cons d rest => exact .inr (by simpa using last)

theorem Padded.exists_unlines (padded : Padded text)
    (last : text = [] ∨ text.getLast? = some '\n') :
    ∃ lines, (∀ line ∈ lines, allPadding line = true) ∧ text = unlines lines := by
  induction text with
  | nil => exact ⟨[], by simp, rfl⟩
  | cons c rest ih =>
      have padded' : Padded rest := fun d member => padded d (List.mem_cons_of_mem _ member)
      rcases padded c (by simp) with rfl | padding
      · obtain ⟨lines, all, rfl⟩ :=
          ih padded' (ends_of_cons (last.resolve_left (List.cons_ne_nil _ _)))
        exact ⟨[] :: lines, by simpa [allPadding] using all, rfl⟩
      · -- The padding belongs to the first line of the rest.
        have more : rest ≠ [] := by
          rintro rfl
          rcases last with none | last
          · cases none
          · obtain rfl : c = '\n' := by simpa using last
            exact absurd padding (by decide)
        rw [List.getLast?_cons_of_ne_nil more] at last
        obtain ⟨lines, all, rfl⟩ := ih padded' (.inr (last.resolve_left (List.cons_ne_nil _ _)))
        obtain ⟨line, lines, rfl⟩ := List.exists_cons_of_ne_nil
          (show lines ≠ [] by rintro rfl; exact more rfl)
        rw [List.forall_mem_cons] at all
        refine ⟨(c :: line) :: lines, ?_, by simp [unlines]⟩
        rw [List.forall_mem_cons]
        exact ⟨by simpa [allPadding, padding] using all.1, all.2⟩

theorem mem_runPattern_iff_blanks : run ∈ runPattern.matches' ↔ Blanks run := by
  rw [mem_runPattern_iff]
  constructor
  · rintro ⟨lines, long, all, rfl⟩
    have free : ∀ line ∈ lines, '\n' ∉ line := fun line member =>
      lineFeed_not_mem_of_allPadding (all line member)
    obtain ⟨front, last, rfl⟩ := lines.eq_nil_or_concat.resolve_left (by rintro rfl; simp at long)
    refine ⟨rfl, ?_, ?_, ?_⟩
    · rw [unlines, List.concat_eq_append, List.flatMap_append, List.flatMap_singleton,
        ← List.append_assoc, ← List.cons_append, List.getLast?_concat]
    · intro c member
      rcases List.mem_cons.mp member with rfl | inside
      · exact .inl rfl
      · obtain ⟨line, among, place⟩ := List.mem_flatMap.mp inside
        rcases List.mem_append.mp place with padding | feed
        · exact .inr (List.all_eq_true.mp (all line among) c padding)
        · exact .inl (List.mem_singleton.mp feed)
    · rw [List.count_cons_self, count_unlines free]
      omega
  · rintro ⟨first, last, padded, long⟩
    obtain ⟨rest, rfl⟩ : ∃ rest, run = '\n' :: rest := by
      cases run with
      | nil => cases first
      | cons c rest => exact ⟨rest, by rw [Option.some.inj first]⟩
    obtain ⟨lines, all, rfl⟩ := Padded.exists_unlines
      (fun c member => padded c (List.mem_cons_of_mem _ member)) (ends_of_cons last)
    refine ⟨lines, ?_, all, rfl⟩
    rw [List.count_cons_self, count_unlines fun line member =>
      lineFeed_not_mem_of_allPadding (all line member)] at long
    omega

end Patterns

section Runs

variable {text run after lines rest result : List Char}

theorem runLength_feed (padded : Padded lines) (last : lines = [] ∨ lines.getLast? = some '\n')
    (closes : ¬ GoesOn rest) : runLength ('\n' :: (lines ++ rest)) =
      if 2 ≤ lines.count '\n' then lines.length + 1 else 0 := by
  obtain ⟨lines', rest', split, padded', last', closes', read⟩ :=
    paddedLines_split (lines ++ rest) 0 0 0
  obtain ⟨rfl, -⟩ := maximal_unique split padded padded' last last' closes closes'
  rw [runLength, if_pos rfl, read]
  by_cases empty : lines = []
  · simp [empty]
  · simp [empty]

theorem runLength_feed_eq_zero (closes : ¬ GoesOn rest) : runLength ('\n' :: rest) = 0 :=
  @runLength_feed [] rest (by simp [Padded]) (.inl rfl) closes

theorem runLength_ne_zero (blanks : Blanks run) (after : List Char) :
    runLength (run ++ after) ≠ 0 := by
  obtain ⟨first, last, padded, long⟩ := blanks
  cases run with
  | nil => cases first
  | cons c run =>
      obtain rfl : c = '\n' := Option.some.inj first
      obtain ⟨lines, rest, split, padded', last', closes, -⟩ :=
        paddedLines_split (run ++ after) 0 0 0
      have shorter := length_le_of_not_goesOn split.symm
        (fun d member => padded d (List.mem_cons_of_mem _ member)) (ends_of_cons last) closes
      obtain ⟨more, rfl⟩ : run <+: lines :=
        List.prefix_of_prefix_length_le ⟨after, split⟩ ⟨rest, rfl⟩ shorter
      rw [List.count_cons_self] at long
      rw [List.cons_append, split, runLength_feed padded' last' closes, List.count_append,
        if_pos (by omega)]
      exact Nat.succ_ne_zero _

/-- Of the ways to match lines of padding, the one that is tried first takes all of them. -/
theorem not_goesOn_of_head?_rounds {fuel : Nat} (enough : text.length ≤ fuel)
    (first : (rounds (remainders linePattern) fuel text).head? = some rest) : ¬ GoesOn rest := by
  induction fuel generalizing text with
  | zero =>
      obtain rfl := List.length_eq_zero_iff.mp (Nat.le_zero.mp enough)
      obtain rfl := Option.some.inj first
      exact not_goesOn_nil
  | succ fuel ih =>
      rw [rounds] at first
      cases taken : (remainders linePattern text).filter (·.length < text.length) with
      | nil =>
          rw [taken] at first
          obtain rfl := Option.some.inj first
          rintro ⟨padding, behind, rfl, padded⟩
          have line : padding ++ ['\n'] ∈ linePattern.matches' :=
            mem_linePattern_iff.mpr ⟨padding, List.all_eq_true.mpr padded, rfl⟩
          have left := mem_remainders_iff.mpr ⟨_, line, List.append_cons padding '\n' behind⟩
          have among := List.filter_eq_nil_iff.mp taken behind left
          simp only [List.length_append, List.length_cons, decide_eq_true_eq] at among
          omega
      | cons middle more =>
          have among := taken ▸ List.mem_cons_self
          have shorter := of_decide_eq_true (List.mem_filter.mp among).2
          have filled := List.ne_nil_of_mem (@self_mem_rounds (remainders linePattern) fuel middle)
          rw [taken, List.flatMap_cons, List.append_assoc,
            List.head?_append_of_ne_nil _ filled] at first
          exact ih (by omega) first

theorem exists_of_head?_mul {pattern pattern' : RegularExpression Char}
    (first : (remainders (pattern * pattern') text).head? = some rest) :
    ∃ middle, (remainders pattern' middle).head? = some rest := by
  change ((remainders pattern text).flatMap (remainders pattern')).head? = some rest at first
  rw [List.head?_flatMap] at first
  obtain ⟨middle, -, found⟩ := List.exists_of_findSome?_eq_some first
  exact ⟨middle, found⟩

theorem head?_remainders_runPattern : (remainders runPattern text).head? = some after ↔
    ∃ run, text = run ++ after ∧ Blanks run ∧ ¬ GoesOn after := by
  have sound : ∀ {after}, (remainders runPattern text).head? = some after →
      ∃ run, text = run ++ after ∧ Blanks run ∧ ¬ GoesOn after := by
    intro after first
    obtain ⟨run, matched, rfl⟩ := mem_remainders_iff.mp (List.mem_of_head? first)
    refine ⟨run, rfl, mem_runPattern_iff_blanks.mp matched, ?_⟩
    -- What the first way leaves is left by the repetition of lines at the end of the pattern.
    obtain ⟨middle, first⟩ := exists_of_head?_mul first
    obtain ⟨lines, first⟩ := exists_of_head?_mul first
    exact not_goesOn_of_head?_rounds (Nat.le_refl _) first
  refine ⟨sound, ?_⟩
  rintro ⟨run, rfl, blanks, closes⟩
  have left : after ∈ remainders runPattern (run ++ after) :=
    mem_remainders_iff.mpr ⟨run, mem_runPattern_iff_blanks.mpr blanks, rfl⟩
  cases ways : remainders runPattern (run ++ after) with
  | nil =>
      rw [ways] at left
      cases left
  | cons other more =>
      obtain ⟨run', split, blanks', closes'⟩ := sound (by rw [ways]; rfl)
      obtain ⟨-, rfl⟩ := maximal_unique split blanks.padded blanks'.padded (.inr blanks.last)
        (.inr blanks'.last) closes closes'
      rfl

theorem remainders_runPattern_eq_nil_iff :
    remainders runPattern text = [] ↔ runLength text = 0 := by
  constructor
  · intro none
    by_contra some
    obtain ⟨run, after, split, blanks, -⟩ := exists_run_of_runLength some
    have left := mem_remainders_iff.mpr ⟨run, mem_runPattern_iff_blanks.mpr blanks, split⟩
    rw [none] at left
    cases left
  · intro none
    rw [List.eq_nil_iff_forall_not_mem]
    intro after left
    obtain ⟨run, matched, rfl⟩ := mem_remainders_iff.mp left
    exact runLength_ne_zero (mem_runPattern_iff_blanks.mp matched) after none

theorem replaces_iff :
    Replaces runPattern ['\n', '\n'] text result ↔ result = collapseBlankRuns text := by
  constructor
  · intro replaces
    induction replaces with
    | done => rfl
    | keep none _ ih =>
        rw [collapseBlankRuns_plain (remainders_runPattern_eq_nil_iff.mp none), ih]
    | swap first _ ih =>
        obtain ⟨run, rfl, blanks, closes⟩ := head?_remainders_runPattern.mp first
        rw [collapseBlankRuns_run blanks closes, ih]
        rfl
  · rintro rfl
    induction text using runs_induction with
    | nil => exact .done
    | plain c rest none ih =>
        rw [collapseBlankRuns_plain none]
        exact .keep (remainders_runPattern_eq_nil_iff.mpr none) ih
    | run run after blanks closes ih =>
        rw [collapseBlankRuns_run blanks closes]
        exact .swap (head?_remainders_runPattern.mpr ⟨run, rfl, blanks, closes⟩) ih

theorem length_collapseBlankRuns_le (text : List Char) :
    (collapseBlankRuns text).length ≤ text.length := by
  induction text using runs_induction with
  | nil => exact Nat.le_refl _
  | plain c rest none ih =>
      rw [collapseBlankRuns_plain none]
      exact Nat.succ_le_succ ih
  | run run after blanks closes ih =>
      have long := Nat.le_trans blanks.long List.count_le_length
      rw [collapseBlankRuns_run blanks closes, List.length_append, List.length_cons,
        List.length_cons]
      omega

theorem length_collapseBlankRuns_lt {before : List Char} (blanks : Blanks run)
    (split : text = before ++ run ++ after) : (collapseBlankRuns text).length < text.length := by
  induction text using runs_induction generalizing before with
  | nil => simp [blanks.ne_nil] at split
  | plain c rest none ih =>
      cases before with
      | nil =>
          rw [split, List.nil_append] at none
          exact absurd none (runLength_ne_zero blanks after)
      | cons d before =>
          rw [collapseBlankRuns_plain none]
          exact Nat.succ_lt_succ (ih (List.cons.inj split).2)
  | run first rest blanks' closes _ =>
      have long := Nat.le_trans blanks'.long List.count_le_length
      have most := length_collapseBlankRuns_le rest
      rw [collapseBlankRuns_run blanks' closes, List.length_append, List.length_cons,
        List.length_cons]
      omega

end Runs

end CallAtlas.Text
