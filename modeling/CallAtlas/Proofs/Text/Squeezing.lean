import CallAtlas.Proofs.Text.RunPattern
import Mathlib.Data.List.SplitBy

/-!
Collapsing by pieces. Cut at its line feeds, a text falls into pieces, of which the
inner ones are whole lines. Two or more inner pieces of padding in a row are what a
run is made of, so collapsing puts one empty piece in their place and leaves every
other piece as it is (`collapseBlankRuns_eq_squeezed`). In what comes out no two
inner pieces of padding are next to each other, and nothing is left to collapse.
-/

namespace CallAtlas.Text

section Pieces

def alike (first second : List Char) : Bool :=
  allPadding first == allPadding second

/-- One empty piece for two pieces of padding or more; anything else stays. -/
def squeezeGroup (group : List (List Char)) : List (List Char) :=
  if 2 ≤ group.length ∧ group.all allPadding = true then [[]] else group

def squeeze (pieces : List (List Char)) : List (List Char) :=
  (pieces.splitBy alike).flatMap squeezeGroup

/-- Squeezes the pieces between the first and the last. -/
def squeezeInner : List (List Char) → List (List Char)
  | [] => []
  | first :: rest => first :: (squeeze rest.dropLast ++ rest.getLast?.toList)

def fed (pieces : List (List Char)) : List Char :=
  pieces.flatMap ('\n' :: ·)

variable {piece rest : List Char} {group more pieces : List (List Char)}

theorem intercalate_eq_fed (first : List Char) (pieces : List (List Char)) :
    ['\n'].intercalate (first :: pieces) = first ++ fed pieces := by
  induction pieces generalizing first with
  | nil => simp [fed]
  | cons second pieces ih => simp [List.intercalate_cons_cons, ih, fed]

theorem fed_eq_intercalate (some : pieces ≠ []) :
    fed pieces = '\n' :: ['\n'].intercalate pieces := by
  obtain ⟨first, pieces, rfl⟩ := List.exists_cons_of_ne_nil some
  rw [intercalate_eq_fed, fed, List.flatMap_cons, List.cons_append, fed]

theorem fed_append (first second : List (List Char)) :
    fed (first ++ second) = fed first ++ fed second :=
  List.flatMap_append

theorem goesOn_piece_iff (free : '\n' ∉ piece) :
    GoesOn (piece ++ '\n' :: rest) ↔ allPadding piece = true := by
  induction piece with
  | nil => simp [goesOn_cons_iff, allPadding]
  | cons c piece ih =>
      rw [List.mem_cons, not_or] at free
      rw [List.cons_append, goesOn_cons_iff, ih free.2]
      simp [allPadding, Ne.symm free.1]

theorem not_goesOn_of_free (free : '\n' ∉ piece) : ¬ GoesOn piece := by
  rintro ⟨padding, rest, rfl, -⟩
  simp at free

theorem collapseBlankRuns_free (free : '\n' ∉ piece) (rest : List Char) :
    collapseBlankRuns (piece ++ rest) = piece ++ collapseBlankRuns rest := by
  induction piece with
  | nil => rfl
  | cons c piece ih =>
      rw [List.mem_cons, not_or] at free
      have plain : runLength (c :: (piece ++ rest)) = 0 := by
        rw [runLength, if_neg (Ne.symm free.1)]
      rw [List.cons_append, collapseBlankRuns_plain plain, ih free.2, List.cons_append]

theorem collapseBlankRuns_feed (closes : ¬ GoesOn rest) :
    collapseBlankRuns ('\n' :: rest) = '\n' :: collapseBlankRuns rest :=
  collapseBlankRuns_plain (runLength_feed_eq_zero closes)

theorem collapseBlankRuns_shown (free : '\n' ∉ piece) (shown : allPadding piece = false)
    (some : more ≠ []) :
    collapseBlankRuns (fed (piece :: more)) = '\n' :: piece ++ collapseBlankRuns (fed more) := by
  have closes : ¬ GoesOn (piece ++ fed more) := by
    rw [fed_eq_intercalate some, goesOn_piece_iff free, shown]
    exact Bool.false_ne_true
  rw [fed, List.flatMap_cons, ← fed, List.cons_append, collapseBlankRuns_feed closes,
    collapseBlankRuns_free free, List.cons_append]

theorem fed_append_feed (group : List (List Char)) :
    fed group ++ '\n' :: rest = '\n' :: (unlines group ++ rest) := by
  induction group with
  | nil => rfl
  | cons piece group ih => simpa [fed, unlines] using ih

theorem collapseBlankRuns_padding (filled : group ≠ [])
    (padded : ∀ piece ∈ group, allPadding piece = true) (closes : ¬ GoesOn rest) :
    collapseBlankRuns (fed group ++ '\n' :: rest) =
      fed (squeezeGroup group) ++ collapseBlankRuns ('\n' :: rest) := by
  rw [collapseBlankRuns_feed closes, fed_append_feed]
  by_cases long : 2 ≤ group.length
  · have blanks : Blanks ('\n' :: unlines group) :=
      mem_runPattern_iff_blanks.mp (mem_runPattern_iff.mpr ⟨group, long, padded, rfl⟩)
    have squeezed : squeezeGroup group = [[]] :=
      if_pos ⟨long, List.all_eq_true.mpr padded⟩
    rw [← List.cons_append, collapseBlankRuns_run blanks closes, squeezed]
    rfl
  · obtain ⟨piece, rfl⟩ : ∃ piece, group = [piece] := by
      rw [← List.length_eq_one_iff]
      have := List.length_pos_iff.mpr filled
      omega
    have free := lineFeed_not_mem_of_allPadding (padded piece (by simp))
    have none : runLength ('\n' :: (unlines [piece] ++ rest)) = 0 := by
      have single : unlines [piece] = piece ++ ['\n'] := by simp [unlines]
      rw [single, runLength_feed _ (.inr List.getLast?_concat) closes]
      · simp [List.count_eq_zero.mpr free]
      · exact (padded_of_padding (List.all_eq_true.mp (padded piece (by simp)))).append
          (by simp [Padded])
    have kept : squeezeGroup [piece] = [piece] := if_neg (by simp)
    rw [collapseBlankRuns_plain none, kept]
    simp [unlines, fed, collapseBlankRuns_free free, collapseBlankRuns_feed closes]

def Uniform (padded : Bool) (group : List (List Char)) : Prop :=
  group ≠ [] ∧ ∀ piece ∈ group, allPadding piece = padded

def Differ (first second : List (List Char)) : Prop :=
  ∃ piece ∈ first, ∃ piece' ∈ second, allPadding piece ≠ allPadding piece'

theorem uniform_of_mem_splitBy (member : group ∈ pieces.splitBy alike) :
    ∃ padded, Uniform padded group := by
  have filled := List.ne_nil_of_mem_splitBy member
  have chain : group.IsChain fun first second => allPadding first = allPadding second :=
    (List.isChain_of_mem_splitBy member).imp fun first second same => by simpa [alike] using same
  obtain ⟨first, rest, rfl⟩ := List.exists_cons_of_ne_nil filled
  have : IsTrans (List Char) fun first second => allPadding first = allPadding second :=
    ⟨fun _ _ _ same same' => same.trans same'⟩
  have each := (List.pairwise_cons.mp (List.isChain_iff_pairwise.mp chain)).1
  refine ⟨allPadding first, filled, ?_⟩
  rw [List.forall_mem_cons]
  exact ⟨rfl, fun piece later => (each piece later).symm⟩

theorem isChain_splitBy (pieces : List (List Char)) : (pieces.splitBy alike).IsChain Differ := by
  refine (List.isChain_getLast_head_splitBy alike pieces).imp ?_
  rintro first second ⟨filled, filled', different⟩
  exact ⟨_, List.getLast_mem filled, _, List.head_mem filled', by simpa [alike] using different⟩

theorem squeezeGroup_of_shown (uniform : Uniform false group) : squeezeGroup group = group := by
  obtain ⟨filled, shown⟩ := uniform
  refine if_neg fun squeezed => ?_
  obtain ⟨piece, member⟩ := List.exists_mem_of_ne_nil group filled
  have padded := List.all_eq_true.mp squeezed.2 piece member
  rw [shown piece member] at padded
  cases padded

theorem collapseBlankRuns_uniform {padded : Bool} (uniform : Uniform padded group)
    (free : ∀ piece ∈ group, '\n' ∉ piece) (some : more ≠ [])
    (closes : padded = true → ¬ GoesOn (['\n'].intercalate more)) :
    collapseBlankRuns (fed (group ++ more)) =
      fed (squeezeGroup group) ++ collapseBlankRuns (fed more) := by
  cases padded with
  | true =>
      rw [fed_append, fed_eq_intercalate some]
      exact collapseBlankRuns_padding uniform.1 uniform.2 (closes rfl)
  | false =>
      rw [squeezeGroup_of_shown uniform]
      have shown := uniform.2
      clear uniform closes
      induction group with
      | nil => rfl
      | cons piece group ih =>
          rw [List.forall_mem_cons] at shown free
          rw [List.cons_append, collapseBlankRuns_shown free.1 shown.1 (by simp [some]),
            ih free.2 shown.2, ← List.append_assoc]
          rfl

theorem collapseBlankRuns_groups {last : List Char} (groups : List (List (List Char)))
    (uniform : ∀ group ∈ groups, ∃ padded, Uniform padded group) (apart : groups.IsChain Differ)
    (free : ∀ piece ∈ groups.flatten ++ [last], '\n' ∉ piece) :
    collapseBlankRuns (fed (groups.flatten ++ [last])) =
      fed (groups.flatMap squeezeGroup ++ [last]) := by
  induction groups with
  | nil =>
      have free := free last (by simp)
      have kept := collapseBlankRuns_free free []
      rw [List.append_nil] at kept
      have single : fed [last] = '\n' :: last := by simp [fed]
      rw [List.flatten_nil, List.flatMap_nil, List.nil_append, single,
        collapseBlankRuns_feed (not_goesOn_of_free free), kept]
      simp [collapseBlankRuns, collapseFrom]
  | cons group groups ih =>
      obtain ⟨⟨padded, here⟩, uniform'⟩ := List.forall_mem_cons.mp uniform
      rw [List.flatten_cons, List.append_assoc] at free
      obtain ⟨free, free'⟩ := List.forall_mem_append.mp free
      rw [List.flatten_cons, List.append_assoc, List.flatMap_cons, List.append_assoc,
        fed_append (squeezeGroup group), ← ih uniform' apart.tail free']
      refine collapseBlankRuns_uniform here free (by simp) ?_
      rintro rfl
      -- Behind padding there is the last piece or one that is not padding.
      cases groups with
      | nil => simpa using not_goesOn_of_free (free' last (by simp))
      | cons next groups =>
          obtain ⟨padded, filled, same⟩ := uniform' next (by simp)
          obtain ⟨piece, member, piece', member', different⟩ := (List.isChain_cons_cons.mp apart).1
          obtain ⟨head, tail, rfl⟩ := List.exists_cons_of_ne_nil filled
          rw [here.2 piece member, same piece' member', ← same head (by simp)] at different
          have behind : tail ++ groups.flatten ++ [last] ≠ [] := by simp
          rw [List.flatten_cons, List.cons_append, List.cons_append, intercalate_eq_fed,
            fed_eq_intercalate behind, goesOn_piece_iff (free' head (by simp))]
          exact different.symm

end Pieces

section Squeezing

variable {pieces : List (List Char)}

theorem lineFeed_not_mem_of_mem_splitOn {piece text : List Char}
    (member : piece ∈ text.splitOn '\n') : '\n' ∉ piece := by
  induction text generalizing piece with
  | nil =>
      rw [List.splitOn_nil, List.mem_singleton] at member
      simp [member]
  | cons c rest ih =>
      rw [List.splitOn_cons_eq_if_modifyHead] at member
      obtain ⟨first, more, all⟩ := List.exists_cons_of_ne_nil (List.splitOn_ne_nil '\n' rest)
      rw [all] at ih member
      split at member
      · rcases List.mem_cons.mp member with rfl | later
        · exact List.not_mem_nil
        · exact ih later
      · next plain =>
          rcases List.mem_cons.mp member with rfl | later
          · rw [List.mem_cons, not_or]
            exact ⟨fun feed => plain (by simp [← feed]), ih List.mem_cons_self⟩
          · exact ih (List.mem_cons_of_mem _ later)

theorem collapseBlankRuns_eq_squeezed (text : List Char) :
    collapseBlankRuns text = ['\n'].intercalate (squeezeInner (text.splitOn '\n')) := by
  have free : ∀ piece ∈ text.splitOn '\n', '\n' ∉ piece :=
    fun _ => lineFeed_not_mem_of_mem_splitOn
  have whole : ['\n'].intercalate (text.splitOn '\n') = text := List.intercalate_splitOn '\n'
  obtain ⟨first, rest, all⟩ := List.exists_cons_of_ne_nil (List.splitOn_ne_nil '\n' text)
  rw [all, List.forall_mem_cons] at free
  rw [all, intercalate_eq_fed] at whole
  rw [all, squeezeInner, intercalate_eq_fed, ← whole, collapseBlankRuns_free free.1]
  -- Nothing is collapsed in the first piece; every other one has a line feed in front of it.
  congr 1
  rcases rest.eq_nil_or_concat with rfl | ⟨inner, last, rfl⟩
  · rfl
  · rw [List.concat_eq_append] at free ⊢
    have groups := @collapseBlankRuns_groups last (inner.splitBy alike)
      (fun _ => uniform_of_mem_splitBy) (isChain_splitBy inner)
    rw [List.flatten_splitBy] at groups
    rw [groups free.2, List.dropLast_concat, List.getLast?_concat]
    rfl

def Sparse (first second : List Char) : Prop :=
  ¬ (allPadding first = true ∧ allPadding second = true)

theorem uniform_squeezeGroup {padded : Bool} {group : List (List Char)}
    (uniform : Uniform padded group) : Uniform padded (squeezeGroup group) := by
  cases padded with
  | false => rwa [squeezeGroup_of_shown uniform]
  | true =>
      rw [squeezeGroup]
      split
      · exact ⟨List.cons_ne_nil _ _, by simp [allPadding]⟩
      · exact uniform

theorem isChain_squeezeGroup {padded : Bool} {group : List (List Char)}
    (uniform : Uniform padded group) : (squeezeGroup group).IsChain Sparse := by
  cases padded with
  | false =>
      have shown := (uniform_squeezeGroup uniform).2
      refine (List.pairwise_of_forall_mem_list fun piece member _ _ both => ?_).isChain
      rw [shown piece member] at both
      cases both.1
  | true =>
      rw [squeezeGroup]
      split
      · exact .singleton []
      · next short =>
          match group, short with
          | [], _ => exact .nil
          | [piece], _ => exact .singleton piece
          | _ :: _ :: _, short => exact absurd ⟨by simp, List.all_eq_true.mpr uniform.2⟩ short

theorem isChain_squeeze (pieces : List (List Char)) : (squeeze pieces).IsChain Sparse := by
  have uniform : ∀ group ∈ pieces.splitBy alike, ∃ padded, Uniform padded group :=
    fun _ => uniform_of_mem_splitBy
  have filled : [] ∉ (pieces.splitBy alike).map squeezeGroup := by
    intro member
    obtain ⟨group, among, empty⟩ := List.mem_map.mp member
    obtain ⟨padded, same⟩ := uniform group among
    exact (uniform_squeezeGroup same).1 empty
  rw [squeeze, List.flatMap_def, List.isChain_flatten filled, List.isChain_map]
  constructor
  · intro squeezed member
    obtain ⟨group, among, rfl⟩ := List.mem_map.mp member
    obtain ⟨padded, same⟩ := uniform group among
    exact isChain_squeezeGroup same
  · refine (isChain_splitBy pieces).imp_of_mem_imp fun first second among among' differ => ?_
    obtain ⟨padded, same⟩ := uniform first among
    obtain ⟨padded', same'⟩ := uniform second among'
    obtain ⟨piece, member, piece', member', different⟩ := differ
    rw [same.2 piece member, same'.2 piece' member'] at different
    intro last isLast head isHead both
    rw [(uniform_squeezeGroup same).2 last (List.mem_of_getLast? isLast),
      (uniform_squeezeGroup same').2 head (List.mem_of_head? isHead)] at both
    exact different (both.1.trans both.2.symm)

theorem squeeze_of_isChain (sparse : pieces.IsChain Sparse) : squeeze pieces = pieces := by
  have kept : ∀ group ∈ pieces.splitBy alike, squeezeGroup group = group := by
    intro group among
    have inside : group <:+: pieces := by
      obtain ⟨front, back, split⟩ := List.append_of_mem among
      refine ⟨front.flatten, back.flatten, ?_⟩
      rw [← List.flatten_splitBy alike pieces, split]
      simp
    have apart := List.IsChain.infix sparse inside
    refine if_neg fun ⟨long, padded⟩ => ?_
    obtain ⟨first, second, rest, rfl⟩ := exists_two_of_length long
    exact (List.isChain_cons_cons.mp apart).1 ⟨List.all_eq_true.mp padded first (by simp),
      List.all_eq_true.mp padded second (by simp)⟩
  rw [squeeze, List.flatMap_def, List.map_congr_left kept, List.map_id', List.flatten_splitBy]

theorem squeezeInner_squeezeInner (pieces : List (List Char)) :
    squeezeInner (squeezeInner pieces) = squeezeInner pieces := by
  cases pieces with
  | nil => rfl
  | cons first rest =>
      rcases rest.eq_nil_or_concat with rfl | ⟨inner, last, rfl⟩
      · rfl
      · rw [List.concat_eq_append]
        simp only [squeezeInner, List.dropLast_concat, List.getLast?_concat, Option.toList_some,
          squeeze_of_isChain (isChain_squeeze inner)]

theorem mem_squeezeInner {piece : List Char} (member : piece ∈ squeezeInner pieces) :
    piece = [] ∨ piece ∈ pieces := by
  cases pieces with
  | nil => exact .inr member
  | cons first rest =>
      rw [squeezeInner, List.mem_cons, List.mem_append, squeeze, List.mem_flatMap] at member
      rcases member with rfl | ⟨group, among, inside⟩ | last
      · exact .inr List.mem_cons_self
      · rw [squeezeGroup] at inside
        split at inside
        · exact .inl (List.mem_singleton.mp inside)
        · refine .inr (List.mem_cons_of_mem _ (List.mem_of_mem_dropLast ?_))
          rw [← List.flatten_splitBy alike rest.dropLast]
          exact List.mem_flatten.mpr ⟨group, among, inside⟩
      · exact .inr (List.mem_cons_of_mem _ (List.mem_of_getLast? (by simpa using last)))

/-- The pieces of a collapsed text are the squeezed pieces of the text. -/
theorem splitOn_collapseBlankRuns (text : List Char) :
    (collapseBlankRuns text).splitOn '\n' = squeezeInner (text.splitOn '\n') := by
  rw [collapseBlankRuns_eq_squeezed]
  refine List.splitOn_intercalate '\n' (fun piece member => ?_) ?_
  · rcases mem_squeezeInner member with rfl | among
    · exact List.not_mem_nil
    · exact lineFeed_not_mem_of_mem_splitOn among
  · obtain ⟨first, rest, all⟩ := List.exists_cons_of_ne_nil (List.splitOn_ne_nil '\n' text)
    rw [all, squeezeInner]
    exact List.cons_ne_nil _ _

theorem collapseBlankRuns_idempotent (text : List Char) :
    collapseBlankRuns (collapseBlankRuns text) = collapseBlankRuns text := by
  rw [collapseBlankRuns_eq_squeezed (collapseBlankRuns text), splitOn_collapseBlankRuns,
    squeezeInner_squeezeInner, ← collapseBlankRuns_eq_squeezed]

theorem not_mem_runPattern_of_collapsed {text before run after : List Char}
    (split : collapseBlankRuns text = before ++ run ++ after) : run ∉ runPattern.matches' := by
  intro matched
  have shorter := length_collapseBlankRuns_lt (mem_runPattern_iff_blanks.mp matched) split
  rw [collapseBlankRuns_idempotent] at shorter
  exact Nat.lt_irrefl _ shorter

end Squeezing

/-- Collapsing puts two line feeds in the place of every match of the pattern of a run. It comes to
cutting the text at its line feeds and putting one empty piece in the place of two or more pieces
of padding in a row, the first and the last piece apart. No match is left, and collapsing again
changes nothing. -/
theorem collapseBlankRuns_exact (text : List Char) :
    (∀ result, Replaces runPattern ['\n', '\n'] text result ↔ result = collapseBlankRuns text) ∧
    collapseBlankRuns text = ['\n'].intercalate (squeezeInner (text.splitOn '\n')) ∧
    (∀ before run after, collapseBlankRuns text = before ++ run ++ after →
      run ∉ runPattern.matches') ∧
    collapseBlankRuns (collapseBlankRuns text) = collapseBlankRuns text :=
  ⟨fun _ => replaces_iff, collapseBlankRuns_eq_squeezed text,
    fun _ _ _ => not_mem_runPattern_of_collapsed, collapseBlankRuns_idempotent text⟩

end CallAtlas.Text
