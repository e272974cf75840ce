import CallAtlas.CommandLine.Output
import CallAtlas.Proofs.Diagram.Dot
import CallAtlas.Proofs.Path.Names
import Mathlib.Data.List.Nodup

/-!
The names of artifacts. Of a path only the stem of its file name goes into the names
of its artifacts, and only a pruned copy keeps the extension. So the artifacts of
two inputs have different names exactly if the inputs have different stems and no
diagram is named like the pruned copy of a file whose own extension is `dot`.
-/

namespace CallAtlas.Artifact

def stem (input : Path) : String := input.stem?.getD "callmap"

def names (removing : Bool) (input : Path) : List String :=
  (stem input ++ diagramSuffix) :: if removing then [stem input ++ prunedSuffix input] else []

def outputs (directory : Path) (removing : Bool) (inputs : List Path) : List Path :=
  (inputs.flatMap (names removing)).map directory.join

/-- The diagram of the first input is named like the pruned copy of the second. -/
def Clash (first second : Path) : Prop :=
  second.extension? = some "dot" ∧ stem first = stem second ++ ".pruned"

/-- Inputs whose artifacts have different names. -/
def NamesApart (removing : Bool) (inputs : List Path) : Prop :=
  inputs.Pairwise fun first second => stem first ≠ stem second ∧
    (removing = true → ¬ Clash first second ∧ ¬ Clash second first)

instance (first second : Path) : Decidable (Clash first second) :=
  inferInstanceAs (Decidable (_ ∧ _))

instance (removing : Bool) (inputs : List Path) : Decidable (NamesApart removing inputs) :=
  inferInstanceAs (Decidable (inputs.Pairwise _))

theorem stem_free (input : Path) : stem input ≠ "" ∧ '/' ∉ (stem input).toList := by
  rw [stem]
  cases found : input.stem? with
  | none => exact ⟨by decide, by decide⟩
  | some text => exact Path.stem?_free found

theorem length_stem (input : Path) : 0 < (stem input).toList.length := by
  rw [List.length_pos_iff, Ne, String.toList_eq_nil_iff]
  exact (stem_free input).1

theorem isName_append (input : Path) {suffix : String} (free : '/' ∉ suffix.toList)
    (long : 1 < suffix.toList.length) : Path.IsName (stem input ++ suffix) := by
  have filled := length_stem input
  have longer : 2 < (stem input ++ suffix).toList.length := by
    rw [String.toList_append, List.length_append]
    omega
  refine ⟨?_, ?_, ?_, ?_⟩
  · rw [String.toList_append, List.mem_append, not_or]
    exact ⟨(stem_free input).2, free⟩
  all_goals
    intro same
    rw [same] at longer
    revert longer
    decide

theorem prunedSuffix_cases (input : Path) :
    (∃ extension, input.extension? = some extension ∧ prunedSuffix input = ".pruned." ++ extension) ∨
      (input.extension? = none ∧ prunedSuffix input = ".pruned") := by
  rw [prunedSuffix]
  cases input.extension? with
  | none => exact .inr ⟨rfl, rfl⟩
  | some extension => exact .inl ⟨extension, rfl, rfl⟩

theorem isName_diagram (input : Path) : Path.IsName (stem input ++ diagramSuffix) :=
  isName_append input (by decide) (by decide)

theorem isName_pruned (input : Path) : Path.IsName (stem input ++ prunedSuffix input) := by
  obtain ⟨extension, found, suffix⟩ | ⟨-, suffix⟩ := prunedSuffix_cases input
  · rw [suffix]
    refine isName_append input ?_ ?_
    · rw [String.toList_append, List.mem_append, not_or]
      exact ⟨by decide, (Path.extension?_free found).2⟩
    · rw [String.toList_append, List.length_append]
      exact Nat.lt_add_right _ (by decide)
  · rw [suffix]
    exact isName_append input (by decide) (by decide)

theorem stem_of_extension?_none {input : Path} (plain : input.extension? = none)
    {before behind : List Char} (dotted : (stem input).toList = before ++ '.' :: behind) :
    before = [] := by
  rw [stem] at dotted
  cases found : input.stem? with
  | none =>
      rw [found, Option.getD_none] at dotted
      have dot : '.' ∈ "callmap".toList := by simp [dotted]
      exact absurd dot (by decide)
  | some text =>
      rw [found, Option.getD_some] at dotted
      exact Path.stem?_of_extension?_none found plain dotted

theorem toList_diagram (input : Path) :
    (stem input ++ diagramSuffix).toList = (stem input).toList ++ '.' :: ['d', 'o', 't'] :=
  String.toList_append

theorem toList_pruned (input : Path) :
    (∃ extension, input.extension? = some extension ∧ '.' ∉ extension.toList ∧
      (stem input ++ prunedSuffix input).toList =
        (stem input ++ ".pruned").toList ++ '.' :: extension.toList) ∨
    (input.extension? = none ∧ (stem input ++ prunedSuffix input).toList =
      (stem input).toList ++ '.' :: ['p', 'r', 'u', 'n', 'e', 'd']) := by
  obtain ⟨extension, found, suffix⟩ | ⟨none, suffix⟩ := prunedSuffix_cases input
  · refine .inl ⟨extension, found, (Path.extension?_free found).1, ?_⟩
    rw [suffix, String.toList_append, String.toList_append, String.toList_append, List.append_assoc]
    rfl
  · refine .inr ⟨none, ?_⟩
    rw [suffix]
    exact String.toList_append

theorem stem_eq_of_diagram {first second : Path}
    (same : stem first ++ diagramSuffix = stem second ++ diagramSuffix) :
    stem first = stem second := by
  have spelled := congrArg String.toList same
  rw [toList_diagram, toList_diagram, List.append_left_inj] at spelled
  exact String.toList_inj.mp spelled

theorem stem_ne_append_pruned (input : Path) : stem input ≠ stem input ++ ".pruned" := by
  intro same
  have longer := congrArg (fun text => text.toList.length) same
  simp at longer

theorem not_pruned_of_plain {first second : Path} (plain : second.extension? = none) :
    stem second ≠ stem first ++ ".pruned" := by
  intro same
  have dotted : (stem second).toList =
      (stem first).toList ++ '.' :: ['p', 'r', 'u', 'n', 'e', 'd'] := by
    rw [same]
    exact String.toList_append
  have none := stem_of_extension?_none plain dotted
  exact (stem_free first).1 (String.toList_eq_nil_iff.mp none)

theorem stem_eq_of_pruned {first second : Path}
    (same : stem first ++ prunedSuffix first = stem second ++ prunedSuffix second) :
    stem first = stem second := by
  have spelled := congrArg String.toList same
  -- Both names are read from their last dot. Without an extension it is the dot of the mark, and
  -- then the stem of the other would end with a mark of its own.
  obtain ⟨extension, -, free, name⟩ | ⟨plain, name⟩ := toList_pruned first <;>
    obtain ⟨extension', -, free', name'⟩ | ⟨plain', name'⟩ := toList_pruned second <;>
      rw [name, name'] at spelled
  · obtain ⟨fronts, -⟩ := Text.lastPart_unique free free' spelled
    rw [String.toList_append, String.toList_append, List.append_left_inj] at fronts
    exact String.toList_inj.mp fronts
  · obtain ⟨fronts, -⟩ := Text.lastPart_unique free (by decide) spelled
    exact absurd (String.toList_inj.mp fronts).symm (not_pruned_of_plain plain')
  · obtain ⟨fronts, -⟩ := Text.lastPart_unique (by decide) free' spelled
    exact absurd (String.toList_inj.mp fronts) (not_pruned_of_plain plain)
  · rw [List.append_left_inj] at spelled
    exact String.toList_inj.mp spelled

theorem diagram_eq_pruned_iff {first second : Path} :
    stem first ++ diagramSuffix = stem second ++ prunedSuffix second ↔ Clash first second := by
  constructor
  · intro same
    have spelled := congrArg String.toList same
    rw [toList_diagram] at spelled
    obtain ⟨extension, found, free, name⟩ | ⟨plain, name⟩ := toList_pruned second
    · rw [name] at spelled
      obtain ⟨fronts, ends⟩ := Text.lastPart_unique (by decide) free spelled
      obtain rfl : "dot" = extension := String.toList_inj.mp ends
      exact ⟨found, String.toList_inj.mp fronts⟩
    · rw [name] at spelled
      obtain ⟨-, ends⟩ := Text.lastPart_unique (by decide) (by decide) spelled
      cases ends
  · rintro ⟨found, pruned⟩
    rw [prunedSuffix, found, pruned, String.append_assoc]
    rfl

theorem not_clash_self (input : Path) : ¬ Clash input input :=
  fun clash => stem_ne_append_pruned input clash.2

section Names

variable {first second : Path} {removing : Bool}

theorem isName_of_mem {name : String} (member : name ∈ names removing first) : Path.IsName name := by
  obtain rfl | pruned := List.mem_cons.mp member
  · exact isName_diagram first
  · split at pruned
    · rw [List.mem_singleton.mp pruned]
      exact isName_pruned first
    · cases pruned

theorem names_nodup (removing : Bool) (input : Path) : (names removing input).Nodup := by
  cases removing with
  | false => exact List.nodup_singleton _
  | true =>
      rw [names, if_pos rfl, List.nodup_cons, List.mem_singleton, diagram_eq_pruned_iff]
      exact ⟨not_clash_self input, List.nodup_singleton _⟩

theorem names_disjoint_iff :
    List.Disjoint (names removing first) (names removing second) ↔
      stem first ≠ stem second ∧
        (removing = true → ¬ Clash first second ∧ ¬ Clash second first) := by
  have diagrams : stem first ++ diagramSuffix = stem second ++ diagramSuffix ↔
      stem first = stem second := ⟨stem_eq_of_diagram, congrArg (· ++ diagramSuffix)⟩
  cases removing with
  | false =>
      rw [names, names]
      simp only [Bool.false_eq_true, if_false, List.disjoint_singleton, List.mem_singleton,
        false_implies, and_true]
      rw [eq_comm, diagrams]
  | true =>
      rw [names, names]
      simp only [if_true, List.disjoint_cons_left, List.disjoint_nil_left, List.mem_cons,
        List.not_mem_nil, or_false, not_or, and_true, true_implies]
      rw [diagrams, diagram_eq_pruned_iff, @eq_comm _ (stem first ++ prunedSuffix first),
        diagram_eq_pruned_iff]
      constructor
      · rintro ⟨⟨stems, left⟩, right, -⟩
        exact ⟨stems, left, right⟩
      · rintro ⟨stems, left, right⟩
        exact ⟨⟨stems, left⟩, right, fun same => stems (stem_eq_of_pruned same)⟩

end Names

/-- The artifacts of all inputs have different paths exactly if their names are apart. -/
theorem outputs_nodup_iff (directory : Path) (removing : Bool) (inputs : List Path) :
    (outputs directory removing inputs).Nodup ↔ NamesApart removing inputs := by
  have injective : ∀ name ∈ inputs.flatMap (names removing),
      ∀ other ∈ inputs.flatMap (names removing),
        directory.join name = directory.join other → name = other := by
    intro name member other member' same
    obtain ⟨input, -, named⟩ := List.mem_flatMap.mp member
    obtain ⟨input', -, named'⟩ := List.mem_flatMap.mp member'
    exact Path.join_injective directory (isName_of_mem named) (isName_of_mem named') same
  have different : (outputs directory removing inputs).Nodup ↔
      (inputs.flatMap (names removing)).Nodup :=
    ⟨List.Nodup.of_map directory.join, List.Nodup.map_on injective⟩
  rw [different, List.nodup_flatMap, NamesApart]
  constructor
  · rintro ⟨-, apart⟩
    exact apart.imp names_disjoint_iff.mp
  · intro apart
    exact ⟨fun input _ => names_nodup removing input, apart.imp names_disjoint_iff.mpr⟩

end CallAtlas.Artifact
