import CallAtlas.Proofs.Report.Plain

/-!
When a report has a section of the dead. The report is not told the policy and goes
by whether the dead are the roots. Under the policy of reachability they never are,
unless there are no functions: a root is reached from itself, and without roots
nothing is reached. Under the other policy they always are.
-/

namespace CallAtlas

namespace Analysis

variable {settings : AnalysisSettings} {tree : SyntaxTree} {analysis : Analysis}

theorem Derived.root_not_dead (derived : Derived settings tree analysis)
    (policy : settings.deadCode = .unreachableFromRoots) {name : String}
    (root : name ∈ analysis.roots) : name ∉ analysis.dead := by
  intro dead
  exact ((derived.mem_dead_iff policy).mp dead).2 name root .refl

theorem Derived.dead_of_rootless (derived : Derived settings tree analysis)
    (policy : settings.deadCode = .unreachableFromRoots) (rootless : ∀ name, name ∉ analysis.roots)
    {name : String} (known : analysis.catalog.contains name = true) : name ∈ analysis.dead := by
  apply (derived.mem_dead_iff policy).mpr
  refine ⟨known, ?_⟩
  intro root isRoot
  exact absurd isRoot (rootless root)

theorem exists_known (filled : analysis.catalog.isEmpty = false) :
    ∃ name, analysis.catalog.contains name = true := by
  rw [NameMap.isEmpty] at filled
  cases entries : analysis.catalog.toList with
  | nil => simp [entries] at filled
  | cons entry rest =>
      refine ⟨entry.1, NameMap.mem_names.mp ?_⟩
      simp [NameMap.names, entries]

theorem Derived.roots_of_empty (derived : Derived settings tree analysis)
    (empty : analysis.catalog.isEmpty = true) : analysis.roots = ∅ := by
  apply NameSet.ext
  intro name
  constructor
  · intro root
    exact absurd (derived.mem_roots_iff.mp root).1 (Report.unknown_of_empty empty name)
  · intro none
    exact absurd none (NameSet.not_mem_empty name)

theorem Derived.dead_eq_roots_iff (derived : Derived settings tree analysis)
    (policy : settings.deadCode = .unreachableFromRoots) :
    analysis.dead = analysis.roots ↔ analysis.catalog.isEmpty = true := by
  constructor
  · intro same
    have rootless : ∀ name, name ∉ analysis.roots := by
      intro name root
      exact derived.root_not_dead policy root (same ▸ root)
    by_contra filled
    obtain ⟨name, known⟩ := exists_known (Bool.eq_false_of_not_eq_true filled)
    exact rootless name (same ▸ derived.dead_of_rootless policy rootless known)
  · intro empty
    rw [Report.dead_of_empty derived empty, derived.roots_of_empty empty]

end Analysis

namespace Report

/-- Among the lines is the heading of a section of the dead, behind an empty line. -/
def HasDeadSection (lines : List String) : Prop :=
  ∃ (before after : List String) (count : Nat), lines = before ++ "" :: s!"DEAD ({count}):" :: after

def textLines (text : String) : List String :=
  (Text.pieces text.toList).map String.ofList

section Headings

variable {analysis : Analysis}

theorem deadHeading_head (count : Nat) : (s!"DEAD ({count}):").toList.head? = some 'D' := by
  simp [toString]

-- Every other line starts with another letter or a mark.
theorem differs_of_initial {line : String} (starts : line.toList.head? = some 'D')
    (listed : line ∈ plainLines analysis) :
    analysis.catalog.isEmpty = false ∧ analysis.dead ≠ analysis.roots := by
  have notItem : ∀ names : List String, line ∉ names.map item := by
    intro names member
    obtain ⟨name, -, rfl⟩ := List.mem_map.mp member
    simp [item] at starts
  rw [plainLines] at listed
  split at listed
  · rw [List.mem_singleton.mp listed] at starts
    simp at starts
  · next filled =>
      refine ⟨Bool.eq_false_of_not_eq_true filled, ?_⟩
      simp only [List.mem_append, List.mem_cons] at listed
      rcases listed with ((((rfl | function) | rfl | rfl | root) | rfl | rfl | none) | call) | dead
      · simp [toString] at starts
      · obtain ⟨record, -, rfl⟩ := List.mem_map.mp function
        simp [toList_functionLine] at starts
      · simp at starts
      · simp [toString] at starts
      · exact absurd root (notItem _)
      · simp at starts
      · simp at starts
      · split at none
        · rw [List.mem_singleton.mp none] at starts
          simp at starts
        · cases none
      · obtain ⟨entry, -, rfl⟩ := List.mem_map.mp call
        simp [toList_callLine] at starts
      · intro same
        rw [if_pos same] at dead
        cases dead

theorem hasDeadSection_iff : HasDeadSection (plainLines analysis) ↔
    analysis.catalog.isEmpty = false ∧ analysis.dead ≠ analysis.roots := by
  constructor
  · rintro ⟨before, after, count, lines⟩
    apply differs_of_initial (deadHeading_head count)
    simp [lines]
  · rintro ⟨filled, differ⟩
    rw [plainLines, if_neg (by simp [filled]), if_neg differ]
    exact ⟨_, _, analysis.dead.size, rfl⟩

theorem textLines_plain (readable : Readable analysis) :
    textLines (plain analysis) = plainLines analysis ++ [""] := by
  rw [textLines, toList_plain, Text.pieces_unlines readable.lineFeed_not_mem]
  simp [Function.comp_def]

-- The empty line at the end is behind the section, if there is one.
theorem hasDeadSection_end {lines : List String} :
    HasDeadSection (lines ++ [""]) ↔ HasDeadSection lines := by
  constructor
  · rintro ⟨before, after, count, whole⟩
    obtain rfl | ⟨front, last, rfl⟩ := List.eq_nil_or_concat after
    · -- The last line is empty and so not the heading.
      have ends : lines ++ [""] = (before ++ [""]) ++ [s!"DEAD ({count}):"] := by simp [whole]
      have heading := deadHeading_head count
      rw [← List.singleton_inj.mp (List.append_inj_right' ends rfl)] at heading
      cases heading
    · have fronts : lines ++ [""] = (before ++ "" :: s!"DEAD ({count}):" :: front) ++ [last] := by
        simp [whole]
      exact ⟨before, front, count, List.append_inj_left' fronts rfl⟩
  · rintro ⟨before, after, count, rfl⟩
    exact ⟨before, after ++ [""], count, by simp⟩

end Headings

/-- A report has a section of the dead exactly if the policy is that of reachability and there are
functions. What can be read in the text is the same, if no name holds a space or a line feed. -/
theorem hasDeadSection_exact {settings : AnalysisSettings} {tree : SyntaxTree} {analysis : Analysis}
    (done : Analysis.ofTree settings tree = .ok analysis) :
    (HasDeadSection (plainLines analysis) ↔
      settings.deadCode = .unreachableFromRoots ∧ analysis.catalog.isEmpty = false) ∧
    ((∀ name, analysis.catalog.contains name = true → Unbroken name) →
      (HasDeadSection (textLines (plain analysis)) ↔
        settings.deadCode = .unreachableFromRoots ∧ analysis.catalog.isEmpty = false)) ∧
    (settings.deadCode = .unreachableFromRoots →
      (analysis.dead = analysis.roots ↔ analysis.catalog.isEmpty = true)) ∧
    (settings.deadCode = .neverCalled → analysis.dead = analysis.roots) := by
  have derived := Analysis.derived_of_ok done
  have lines : HasDeadSection (plainLines analysis) ↔
      settings.deadCode = .unreachableFromRoots ∧ analysis.catalog.isEmpty = false := by
    rw [hasDeadSection_iff, and_comm]
    apply and_congr_left
    intro filled
    cases policy : settings.deadCode with
    | neverCalled => simp [derived.dead_eq_roots policy]
    | unreachableFromRoots => simp [derived.dead_eq_roots_iff policy, filled]
  refine ⟨lines, ?_, derived.dead_eq_roots_iff, derived.dead_eq_roots⟩
  intro unbroken
  rw [textLines_plain (readable_of_derived derived unbroken), hasDeadSection_end]
  exact lines

def rootlessSettings : AnalysisSettings where
  denylist := ∅
  deadCode := .unreachableFromRoots

/-- Every function is called, one of them by itself, so there are no roots and all are dead. -/
theorem rootless_hasDeadSection : ∃ analysis,
    Analysis.ofTree rootlessSettings Analysis.recursive = .ok analysis ∧
    analysis.roots.toList = [] ∧ analysis.dead.toList = ["a", "b", "m"] ∧
    HasDeadSection (plainLines analysis) ∧ HasDeadSection (textLines (plain analysis)) := by
  obtain ⟨analysis, done, names, roots, dead⟩ : ∃ analysis,
      Analysis.ofTree rootlessSettings Analysis.recursive = .ok analysis ∧
      analysis.catalog.names = ["a", "b", "m"] ∧ analysis.roots.toList = [] ∧
      analysis.dead.toList = ["a", "b", "m"] :=
    ⟨_, rfl, by decide +kernel, by decide +kernel, by decide +kernel⟩
  have filled : analysis.catalog.isEmpty = false := by
    cases empty : analysis.catalog.isEmpty with
    | false => rfl
    | true => simp [NameMap.names, List.isEmpty_iff.mp empty] at names
  have unbroken : ∀ name ∈ ["a", "b", "m"], Unbroken name := by decide
  obtain ⟨lines, text, -⟩ := hasDeadSection_exact done
  refine ⟨analysis, done, roots, dead, lines.mpr ⟨rfl, filled⟩, ?_⟩
  refine (text fun name known => ?_).mpr ⟨rfl, filled⟩
  exact unbroken name (names ▸ NameMap.mem_names.mpr known)

end Report

end CallAtlas
