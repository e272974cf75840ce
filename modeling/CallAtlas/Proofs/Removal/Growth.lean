import CallAtlas.Proofs.Removal.Frame

/-!
Asking for more functions to be removed. A declaration that lost all of its
declarators loses them still, for each is dropped once, and a cut of a single
declarator is made again or gives way to one of the whole declaration. So what was
cut is cut, as far as it can be seen (`covered_of_more`), and no more is left
(`visible_antitone`).
-/

namespace CallAtlas.Removal

open Cursor (IsPlace)

section Growth

variable {tree : SyntaxTree} {catalog : Catalog} {policy : DuplicatePolicy}
  {names names' : List String} {targets targets' : List Target} {before after : List Char} {c : Char}

theorem targets_subset (among : ∀ name ∈ names, name ∈ names')
    (standing : Removal.targets tree catalog (NameSet.ofList names) = .ok targets)
    (standing' : Removal.targets tree catalog (NameSet.ofList names') = .ok targets') :
    targets ⊆ targets' := by
  intro target member
  obtain ⟨name, requested, found⟩ := (mem_targets_iff standing).mp member
  rw [NameSet.mem_ofList] at requested
  apply (mem_targets_iff standing').mpr
  exact ⟨name, NameSet.mem_ofList.mpr (among name requested), found⟩

theorem exists_place_of_covered (wellFormed : tree.WellFormed) (stand : Stand tree targets)
    (split : tree.source = before ++ c :: after) (seen : Text.isBlank c = false)
    (covered : Text.Covered (spans tree.source targets) (Text.byteLength before)) :
    ∃ place, IsPlace tree.root place ∧ place.span.start ≤ Text.byteLength before ∧
      Text.byteLength before < place.span.stop := by
  obtain ⟨span, among, inside⟩ := covered
  cases mem_spans_iff.mp among with
  | declared member =>
      obtain ⟨function, isPlace, -, rfl⟩ := stand _ member
      exact ⟨_, isPlace_withExport isPlace, inside⟩
  | whole isGroup all =>
      obtain ⟨opened, member⟩ := isGroup.opened
      exact ⟨_, isPlace_withExport (stand.bound member).1, inside⟩
  | single isGroup some dropped =>
      obtain ⟨declaration, member, -⟩ := isGroup.mem_dropped_iff.mp dropped
      obtain ⟨isPlace, held⟩ := stand.bound member
      have showsIn := declaratorSpan_showsIn wellFormed isPlace held
      exact ⟨declaration, isPlace, Nat.le_trans showsIn.lower inside.1,
        showsIn.shows before c after split seen inside.2⟩

variable (wellFormed : tree.WellFormed) (keywordFirst : tree.KeywordFirst)
  (built : Catalog.build policy tree = .ok catalog)
  (wide : tree.root.span.start < tree.root.span.stop)
  (standing : Removal.targets tree catalog (NameSet.ofList names) = .ok targets)
  (standing' : Removal.targets tree catalog (NameSet.ofList names') = .ok targets')
  (declaratorsNamed : tree.DeclaratorsNamed)

include wellFormed keywordFirst built wide standing standing'

include declaratorsNamed in
theorem whole_of_more {group group' : Group} (isGroup : IsGroup targets group)
    (isGroup' : IsGroup targets' group') (same : group'.declaration = group.declaration)
    (more : group.dropped ⊆ group'.dropped)
    (all : group.dropped.length = declaratorCount group.declaration.node) :
    group'.dropped.length = declaratorCount group'.declaration.node := by
  have nodup : group.dropped.Nodup := by
    rw [isGroup.2]
    exact dropped_nodup wellFormed keywordFirst built wide standing _
  have least := (List.subperm_of_subset nodup more).length_le
  have subperm := dropped_subperm wellFormed keywordFirst built wide standing' declaratorsNamed
    isGroup'
  have most := subperm.length_le
  rw [length_declarators] at most
  rw [← same] at all
  omega

variable (among : ∀ name ∈ names, name ∈ names')

include among

theorem IsGroup.grows {group : Group} (isGroup : IsGroup targets group) :
    ∃ group', IsGroup targets' group' ∧ group'.declaration = group.declaration ∧
      group.dropped ⊆ group'.dropped := by
  have more := targets_subset among standing standing'
  obtain ⟨opened, member⟩ := isGroup.opened
  obtain ⟨isPlace, held, kind, -⟩ := bound_unit wellFormed keywordFirst built wide standing member
  obtain ⟨group', isGroup', together, -⟩ := exists_isGroup (more member)
  obtain ⟨opened', member'⟩ := isGroup'.opened
  obtain ⟨isPlace', held', kind', -⟩ :=
    bound_unit wellFormed keywordFirst built wide standing' member'
  have same := declaration_unique wellFormed keywordFirst isPlace held kind isPlace' held' kind'
    together
  refine ⟨group', isGroup', same, ?_⟩
  intro declarator dropped
  obtain ⟨declaration, bound, starts⟩ := isGroup.mem_dropped_iff.mp dropped
  apply isGroup'.mem_dropped_iff.mpr
  exact ⟨declaration, more bound, by rw [starts, same]⟩

include declaratorsNamed in
/-- What is visible of a cut is cut for more names, too. -/
theorem covered_of_more (split : tree.source = before ++ c :: after)
    (seen : Text.isBlank c = false)
    (covered : Text.Covered (spans tree.source targets) (Text.byteLength before)) :
    Text.Covered (spans tree.source targets') (Text.byteLength before) := by
  obtain ⟨span, member, inside⟩ := covered
  cases mem_spans_iff.mp member with
  | declared target =>
      have target' := targets_subset among standing standing' target
      exact ⟨_, mem_spans_iff.mpr (.declared target'), inside⟩
  | whole isGroup all =>
      obtain ⟨group', isGroup', same, more⟩ :=
        isGroup.grows wellFormed keywordFirst built wide standing standing' among
      have all' := whole_of_more wellFormed keywordFirst built wide standing standing'
        declaratorsNamed isGroup isGroup' same more all
      exact ⟨_, mem_spans_iff.mpr (.whole isGroup' all'), by rw [same]; exact inside⟩
  | @single group declarator isGroup some dropped =>
      obtain ⟨group', isGroup', same, more⟩ :=
        isGroup.grows wellFormed keywordFirst built wide standing standing' among
      by_cases all' : group'.dropped.length = declaratorCount group'.declaration.node
      · -- The declaration goes as a whole, and it holds the declarator with its comma.
        have listed := dropped_subset wellFormed keywordFirst built wide standing' declaratorsNamed
          isGroup' (more dropped)
        have held := Cursor.mem_children_iff.mp (List.mem_of_mem_filter listed)
        obtain ⟨opened, bound⟩ := isGroup'.opened
        have isPlace := ((stand_of_targets standing').bound bound).1
        have showsIn := declaratorSpan_showsIn wellFormed isPlace held
        have around := inside_withExport wellFormed isPlace
        have upper := showsIn.shows before c after split seen inside.2
        have lower := Nat.le_trans showsIn.lower inside.1
        exact ⟨_, mem_spans_iff.mpr (.whole isGroup' all'), by omega, by omega⟩
      · exact ⟨_, mem_spans_iff.mpr (.single isGroup' all' (more dropped)), inside⟩

end Growth

/-- When more names are asked for, what is left to see is a part of what was left. -/
theorem visible_antitone {tree : SyntaxTree} {catalog : Catalog} {policy : DuplicatePolicy}
    {names names' : List String} {pruned pruned' : Pruned} (wellFormed : tree.WellFormed)
    (declaratorsNamed : tree.DeclaratorsNamed) (keywordFirst : tree.KeywordFirst)
    (built : Catalog.build policy tree = .ok catalog) (among : ∀ name ∈ names, name ∈ names')
    (done : removeFunctions tree catalog names = .ok pruned)
    (done' : removeFunctions tree catalog names' = .ok pruned') :
    (Text.visible pruned'.source).Sublist (Text.visible pruned.source) := by
  obtain ⟨targets, standing, -⟩ := removeFunctions_eq_ok_iff.mp done
  obtain ⟨targets', standing', -⟩ := removeFunctions_eq_ok_iff.mp done'
  rw [visible_source wellFormed standing done, visible_source wellFormed standing' done']
  apply Text.visible_outside_sublist
  intro before c after split seen covered
  rw [Nat.zero_add] at covered ⊢
  obtain ⟨place, isPlace, lower, upper⟩ :=
    exists_place_of_covered wellFormed (stand_of_targets standing) split seen covered
  have wide := wellFormed.root_nonempty isPlace (by omega)
  exact covered_of_more wellFormed keywordFirst built wide standing standing' declaratorsNamed among
    split seen covered

/-- `let f = () => 0, g = () => 1;` -/
def twoArrows : SyntaxTree :=
  Sketch.program "let f = () => 0, g = () => 1;"
    [Sketch.bindings 0 29
      [Sketch.binding 4 15 (Sketch.arrow 8), Sketch.token "," 15,
        Sketch.binding 17 28 (Sketch.arrow 21)]]

def twoArrowsCatalog : Catalog :=
  (Catalog.build .reject twoArrows).toOption.getD ∅

/-- The cut of one declarator gives way to that of the declaration. -/
theorem twoArrows_less : twoArrows.WellFormed ∧ twoArrows.DeclaratorsNamed ∧
    twoArrows.KeywordFirst ∧
    Catalog.build .reject twoArrows = .ok twoArrowsCatalog ∧ ∃ pruned pruned',
      removeFunctions twoArrows twoArrowsCatalog ["g"] = .ok pruned ∧
      removeFunctions twoArrows twoArrowsCatalog ["g", "f"] = .ok pruned' ∧
      Text.visible pruned.source = "letf=()=>0;".toList ∧ Text.visible pruned'.source = [] ∧
      (Text.visible pruned'.source).Sublist (Text.visible pruned.source) := by
  have wellFormed : twoArrows.WellFormed := by decide +kernel
  have declaratorsNamed : twoArrows.DeclaratorsNamed := by decide +kernel
  have keywordFirst : twoArrows.KeywordFirst := by decide +kernel
  have built : Catalog.build .reject twoArrows = .ok twoArrowsCatalog := rfl
  obtain ⟨pruned, done, left⟩ : ∃ pruned,
      removeFunctions twoArrows twoArrowsCatalog ["g"] = .ok pruned ∧
      Text.visible pruned.source = "letf=()=>0;".toList := ⟨_, rfl, by decide +kernel⟩
  obtain ⟨pruned', done', left'⟩ : ∃ pruned',
      removeFunctions twoArrows twoArrowsCatalog ["g", "f"] = .ok pruned' ∧
      Text.visible pruned'.source = [] := ⟨_, rfl, by decide +kernel⟩
  exact ⟨wellFormed, declaratorsNamed, keywordFirst, built, pruned, pruned', done, done', left,
    left', visible_antitone wellFormed declaratorsNamed keywordFirst built (by simp) done done'⟩

end CallAtlas.Removal
