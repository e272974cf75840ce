import CallAtlas.Proofs.Function.Records
import CallAtlas.Proofs.Runs
import CallAtlas.Proofs.Tree.Resolution
import CallAtlas.Removal.Basic

/-!
The targets of a removal. Each requested name that the catalog holds has its
target, a declaration or a declarator, by the function that its record is resolved
to. The declarators are filed under the places where their declarations start, and
the groups that come of it are told by the targets alone (`mem_groups_iff`).
-/

namespace CallAtlas

open Cursor (Holds IsPlace)
open SyntaxTree (IsDeclaration)

namespace Removal

/-- The target that a function of the tree makes. -/
def Hits (function : Cursor) : Target → Prop
  | .declared declaration => IsDeclaration function ∧ function = declaration
  | .bound declaration declarator => ¬ IsDeclaration function ∧ Holds declarator function ∧
      isDeclarator declarator.node = true ∧ Holds declaration declarator

section Targets

variable {tree : SyntaxTree} {catalog : Catalog} {requested : NameSet} {name : String}
  {record : FunctionRecord} {target : Target} {targets : List Target}

theorem target_eq_ok_iff : Removal.target tree name record = .ok target ↔
    ∃ function, tree.resolve? record.region = some function ∧ Hits function target := by
  unfold Removal.target
  cases resolved : tree.resolve? record.region with
  | none => simp
  | some function =>
      have isPlace := (SyntaxTree.resolve?_eq_some resolved).2.2
      simp only [Option.some.injEq, exists_eq_left']
      split
      · next declaration =>
          cases target <;> simp [Hits, IsDeclaration, declaration]
      · next bound =>
          cases up : function.parent? with
          | none =>
              have orphan : ∀ declarator, ¬ Holds declarator function := by
                intro declarator held
                rw [Cursor.parent?_of_holds held] at up
                cases up
              cases target <;> simp [Hits, IsDeclaration, bound, orphan]
          | some declarator =>
              have held := (Cursor.parent?_eq_some_iff isPlace).mp up
              have isPlace' := isPlace.of_child held
              constructor
              · intro found
                simp only at found
                split at found
                · next kind =>
                    cases up' : declarator.parent? with
                    | none =>
                        rw [up'] at found
                        cases found
                    | some declaration =>
                        rw [up'] at found
                        obtain rfl := Except.ok.inj found
                        exact ⟨bound, held, kind, (Cursor.parent?_eq_some_iff isPlace').mp up'⟩
                · cases found
              · intro hits
                cases target with
                | declared declaration => exact absurd hits.1 bound
                | bound declaration other =>
                    obtain ⟨-, held', kind, held''⟩ := hits
                    obtain rfl := Cursor.parent_unique held held'
                    simp only
                    rw [if_pos kind, Cursor.parent?_of_holds held'']

/-- The target of a name: none if the catalog does not hold it or it cannot be found. -/
def targetOf (tree : SyntaxTree) (catalog : Catalog) (name : String) : Option Target :=
  (catalog.get? name).bind fun record => (Removal.target tree name record).toOption

theorem targetOf_eq_some_iff : targetOf tree catalog name = some target ↔ ∃ record function,
    catalog.get? name = some record ∧ tree.resolve? record.region = some function ∧
      Hits function target := by
  simp only [targetOf, Option.bind_eq_some_iff, toOption_eq_some_iff, target_eq_ok_iff]
  constructor
  · rintro ⟨record, found, function, resolved, hits⟩
    exact ⟨record, function, found, resolved, hits⟩
  · rintro ⟨record, function, found, resolved, hits⟩
    exact ⟨record, found, function, resolved, hits⟩

theorem targets_eq_ok_iff : Removal.targets tree catalog requested = .ok targets ↔
    (∀ name ∈ requested, ∀ record, catalog.get? name = some record →
      ∃ target, Removal.target tree name record = .ok target) ∧
    targets = requested.toList.filterMap (targetOf tree catalog) := by
  rw [Removal.targets, mapM_eq_ok_iff, List.filterMap_filterMap]
  refine and_congr ?_ ?_
  · constructor
    · intro all name among record found
      exact all (name, record) (List.mem_filterMap.mpr ⟨name, among, by simp [found]⟩)
    · rintro all ⟨name, record⟩ member
      obtain ⟨name', among, found⟩ := List.mem_filterMap.mp member
      obtain ⟨record', found', same⟩ := Option.map_eq_some_iff.mp found
      cases same
      exact all name among record found'
  · have same : ∀ name, (((catalog.get? name).map (name, ·)).bind fun item =>
        (Removal.target tree item.1 item.2).toOption) = targetOf tree catalog name := by
      intro name
      rw [targetOf]
      cases catalog.get? name <;> rfl
    simp only [same]

theorem mem_targets_iff (done : Removal.targets tree catalog requested = .ok targets) :
    target ∈ targets ↔ ∃ name ∈ requested, targetOf tree catalog name = some target := by
  rw [(targets_eq_ok_iff.mp done).2, List.mem_filterMap]
  rfl

theorem removeFunctions_eq_ok_iff {names : List String} {pruned : Pruned} :
    removeFunctions tree catalog names = .ok pruned ↔ ∃ targets,
      Removal.targets tree catalog (NameSet.ofList names) = .ok targets ∧
      pruned.removed = (NameSet.ofList names).toList.filter catalog.contains ∧
      pruned.notFound = (NameSet.ofList names).toList.filter (fun name => !catalog.contains name) ∧
      pruned.source =
        if pruned.removed.isEmpty then cutSpans tree.source (spans tree.source targets)
        else Text.collapseBlankRuns (cutSpans tree.source (spans tree.source targets)) := by
  unfold removeFunctions
  cases done : Removal.targets tree catalog (NameSet.ofList names) with
  | error fault => simp [done, bind, Except.bind]
  | ok targets =>
      simp only [done, bind, Except.bind, pure, Except.pure, Except.ok.injEq, exists_eq_left']
      constructor
      · rintro rfl
        exact ⟨rfl, rfl, rfl⟩
      · rintro ⟨removed, notFound, source⟩
        cases pruned
        simp_all

def Stand (tree : SyntaxTree) (targets : List Target) : Prop :=
  ∀ target ∈ targets, ∃ function, IsPlace tree.root function ∧ Hits function target

theorem stand_of_targets {catalog : Catalog} {requested : NameSet}
    (done : Removal.targets tree catalog requested = .ok targets) : Stand tree targets := by
  intro target member
  obtain ⟨name, -, found⟩ := (mem_targets_iff done).mp member
  obtain ⟨record, function, -, resolved, hits⟩ := targetOf_eq_some_iff.mp found
  exact ⟨function, (SyntaxTree.resolve?_eq_some resolved).2.2, hits⟩

theorem nonempty_of_targets (nests : ∀ place, IsPlace tree.root place → place.node.Nests)
    (wide : tree.root.span.start < tree.root.span.stop)
    (done : Removal.targets tree catalog requested = .ok targets) (member : target ∈ targets) :
    ∃ function, IsPlace tree.root function ∧ Hits function target ∧
      function.span.start < function.span.stop := by
  obtain ⟨name, -, found⟩ := (mem_targets_iff done).mp member
  obtain ⟨record, function, -, resolved, hits⟩ := targetOf_eq_some_iff.mp found
  obtain ⟨same, -, isPlace⟩ := SyntaxTree.resolve?_eq_some resolved
  refine ⟨function, isPlace, hits, ?_⟩
  by_contra empty
  have root := SyntaxTree.resolve?_empty nests resolved (by rw [← same]; omega)
  rw [root, ← same] at wide
  exact empty wide

theorem Stand.bound {declaration declarator : Cursor} (stand : Stand tree targets)
    (member : .bound declaration declarator ∈ targets) :
    IsPlace tree.root declaration ∧ Holds declaration declarator := by
  obtain ⟨function, isPlace, -, held, -, held'⟩ := stand _ member
  exact ⟨(isPlace.of_child held).of_child held', held'⟩

theorem Stand.isDeclarator {declaration declarator : Cursor} (stand : Stand tree targets)
    (member : .bound declaration declarator ∈ targets) :
    Removal.isDeclarator declarator.node = true := by
  obtain ⟨-, -, -, -, kind, -⟩ := stand _ member
  exact kind

end Targets

section Groups

/-- The declarators to drop whose declaration starts at an offset, each with its declaration. -/
def boundAt (start : Nat) (targets : List Target) : List (Cursor × Cursor) :=
  targets.filterMap fun
    | .declared _ => none
    | .bound declaration declarator =>
        if declaration.span.start = start then some (declaration, declarator) else none

/-- All declarators filed under one start, with the first declaration that they were filed for. -/
def IsGroup (targets : List Target) (group : Group) : Prop :=
  (boundAt group.declaration.span.start targets).head?.map Prod.fst = some group.declaration ∧
    group.dropped = (boundAt group.declaration.span.start targets).map Prod.snd

variable {targets : List Target} {done : List Group} {declaration declarator : Cursor} {start : Nat}

theorem mem_boundAt_iff : (declaration, declarator) ∈ boundAt start targets ↔
    .bound declaration declarator ∈ targets ∧ declaration.span.start = start := by
  rw [boundAt, List.mem_filterMap]
  constructor
  · rintro ⟨target, member, found⟩
    cases target with
    | declared other => cases found
    | bound other declarator' =>
        simp only [Option.ite_none_right_eq_some, Option.some.injEq, Prod.mk.injEq] at found
        obtain ⟨starts, rfl, rfl⟩ := found
        exact ⟨member, starts⟩
  · rintro ⟨member, starts⟩
    exact ⟨_, member, by simp [starts]⟩

theorem IsGroup.opened {group : Group} (isGroup : IsGroup targets group) :
    ∃ declarator, .bound group.declaration declarator ∈ targets := by
  obtain ⟨⟨declaration, declarator⟩, first, same⟩ := Option.map_eq_some_iff.mp isGroup.1
  obtain rfl : declaration = group.declaration := same
  exact ⟨declarator, (mem_boundAt_iff.mp (List.mem_of_head? first)).1⟩

theorem IsGroup.mem_dropped_iff {group : Group} (isGroup : IsGroup targets group) :
    declarator ∈ group.dropped ↔ ∃ declaration, .bound declaration declarator ∈ targets ∧
      declaration.span.start = group.declaration.span.start := by
  rw [isGroup.2, List.mem_map]
  constructor
  · rintro ⟨⟨declaration, _⟩, member, rfl⟩
    exact ⟨declaration, mem_boundAt_iff.mp member⟩
  · rintro ⟨declaration, member⟩
    exact ⟨⟨declaration, declarator⟩, mem_boundAt_iff.mpr member, rfl⟩

theorem isGroup_of_cons {first : Cursor × Cursor} {rest : List (Cursor × Cursor)}
    (filed : boundAt start targets = first :: rest) :
    first.1.span.start = start ∧ IsGroup targets ⟨first.1, (first :: rest).map Prod.snd⟩ := by
  obtain rfl : first.1.span.start = start := (mem_boundAt_iff.mp (filed ▸ List.mem_cons_self)).2
  exact ⟨rfl, by simp [filed], by simp [filed]⟩

theorem exists_isGroup (member : .bound declaration declarator ∈ targets) : ∃ group,
    IsGroup targets group ∧ group.declaration.span.start = declaration.span.start ∧
      declarator ∈ group.dropped := by
  have filed := mem_boundAt_iff.mpr ⟨member, rfl⟩
  cases list : boundAt declaration.span.start targets with
  | nil =>
      rw [list] at filed
      cases filed
  | cons first rest =>
      obtain ⟨starts, isGroup⟩ := isGroup_of_cons list
      exact ⟨_, isGroup, starts, isGroup.mem_dropped_iff.mpr ⟨declaration, member, starts.symm⟩⟩

theorem boundAt_declared (other : Cursor) :
    boundAt start (targets ++ [.declared other]) = boundAt start targets := by
  simp [boundAt]

theorem boundAt_bound : boundAt start (targets ++ [.bound declaration declarator]) =
    boundAt start targets ++
      if declaration.span.start = start then [(declaration, declarator)] else [] := by
  rw [boundAt, List.filterMap_append]
  congr 1
  split <;> simp_all

theorem mem_add_iff (distinct : done.Pairwise fun first second =>
      first.declaration.span.start ≠ second.declaration.span.start) {group : Group} :
    group ∈ Group.add declaration declarator done ↔
      (group ∈ done ∧ group.declaration.span.start ≠ declaration.span.start) ∨
      (∃ old ∈ done, old.declaration.span.start = declaration.span.start ∧
        group = { old with dropped := old.dropped ++ [declarator] }) ∨
      ((∀ old ∈ done, old.declaration.span.start ≠ declaration.span.start) ∧
        group = ⟨declaration, [declarator]⟩) := by
  induction done with
  | nil => simp [Group.add]
  | cons first rest ih =>
      obtain ⟨ahead, tail⟩ := List.pairwise_cons.mp distinct
      rw [Group.add]
      split
      · next same =>
          have others : ∀ old ∈ rest, old.declaration.span.start ≠ declaration.span.start :=
            fun old member => same ▸ (ahead old member).symm
          simp only [List.mem_cons]
          constructor
          · rintro (rfl | member)
            · exact .inr (.inl ⟨first, .inl rfl, same, rfl⟩)
            · exact .inl ⟨.inr member, others group member⟩
          · rintro (⟨rfl | member, different⟩ | ⟨old, rfl | member, same', rfl⟩ | ⟨none, -⟩)
            · exact absurd same different
            · exact .inr member
            · exact .inl rfl
            · exact absurd same' (others old member)
            · exact absurd same (none first (.inl rfl))
      · next different =>
          rw [List.mem_cons, ih tail]
          simp only [List.mem_cons]
          constructor
          · rintro (rfl | ⟨member, different'⟩ | ⟨old, member, same, rfl⟩ | ⟨none, rfl⟩)
            · exact .inl ⟨.inl rfl, different⟩
            · exact .inl ⟨.inr member, different'⟩
            · exact .inr (.inl ⟨old, .inr member, same, rfl⟩)
            · refine .inr (.inr ⟨?_, rfl⟩)
              rintro old (rfl | member)
              · exact different
              · exact none old member
          · rintro (⟨rfl | member, different'⟩ | ⟨old, rfl | member, same, rfl⟩ | ⟨none, rfl⟩)
            · exact .inl rfl
            · exact .inr (.inl ⟨member, different'⟩)
            · exact absurd same different
            · exact .inr (.inr (.inl ⟨old, member, same, rfl⟩))
            · exact .inr (.inr (.inr ⟨fun old member => none old (.inr member), rfl⟩))

theorem add_distinct (distinct : done.Pairwise fun first second =>
      first.declaration.span.start ≠ second.declaration.span.start) :
    (Group.add declaration declarator done).Pairwise fun first second =>
      first.declaration.span.start ≠ second.declaration.span.start := by
  induction done with
  | nil => simp [Group.add]
  | cons first rest ih =>
      obtain ⟨ahead, tail⟩ := List.pairwise_cons.mp distinct
      rw [Group.add]
      split
      · exact List.pairwise_cons.mpr ⟨ahead, tail⟩
      · next different =>
          refine List.pairwise_cons.mpr ⟨fun group member => ?_, ih tail⟩
          rcases (mem_add_iff tail).mp member with ⟨member', -⟩ | ⟨old, member', -, rfl⟩ | ⟨-, rfl⟩
          · exact ahead group member'
          · exact ahead old member'
          · exact different

structure Filed (targets : List Target) (done : List Group) : Prop where
  distinct : done.Pairwise fun first second =>
    first.declaration.span.start ≠ second.declaration.span.start
  exact : ∀ group, group ∈ done ↔ IsGroup targets group

theorem isGroup_bound_iff {group : Group} :
    IsGroup (targets ++ [.bound declaration declarator]) group ↔
      (IsGroup targets group ∧ group.declaration.span.start ≠ declaration.span.start) ∨
      (∃ old, IsGroup targets old ∧ old.declaration.span.start = declaration.span.start ∧
        group = { old with dropped := old.dropped ++ [declarator] }) ∨
      ((∀ old, IsGroup targets old → old.declaration.span.start ≠ declaration.span.start) ∧
        group = ⟨declaration, [declarator]⟩) := by
  obtain ⟨opened, dropped⟩ := group
  by_cases here : declaration.span.start = opened.span.start
  · cases before : boundAt declaration.span.start targets with
    | nil =>
        have none : ∀ old, IsGroup targets old →
            old.declaration.span.start ≠ declaration.span.start := by
          rintro old ⟨head, -⟩ same
          rw [same, before] at head
          cases head
        constructor
        · rintro ⟨head, all⟩
          simp only [← here, boundAt_bound, if_true, before] at head all
          refine .inr (.inr ⟨none, ?_⟩)
          simp_all
        · rintro (⟨old, different⟩ | ⟨old, isGroup, same, -⟩ | ⟨-, same⟩)
          · exact absurd here.symm different
          · exact absurd same (none old isGroup)
          · cases same
            exact ⟨by simp [boundAt_bound, before], by simp [boundAt_bound, before]⟩
    | cons first rest =>
        obtain ⟨starts, standing⟩ := isGroup_of_cons before
        constructor
        · rintro ⟨head, all⟩
          simp only [← here, boundAt_bound, if_true, before] at head all
          refine .inr (.inl ⟨_, standing, starts, ?_⟩)
          simp_all
        · rintro (⟨old, different⟩ | ⟨old, isGroup, same, extended⟩ | ⟨none, -⟩)
          · exact absurd here.symm different
          · cases extended
            obtain ⟨head, all⟩ := isGroup
            simp only [same, before] at head all
            exact ⟨by simpa [boundAt_bound, same, before] using head,
              by simp [boundAt_bound, same, before, all]⟩
          · exact absurd starts (none _ standing)
  · have same : boundAt opened.span.start (targets ++ [.bound declaration declarator]) =
        boundAt opened.span.start targets := by
      rw [boundAt_bound, if_neg here, List.append_nil]
    constructor
    · rintro ⟨head, all⟩
      simp only [same] at head all
      exact .inl ⟨⟨head, all⟩, Ne.symm here⟩
    · rintro (⟨⟨head, all⟩, -⟩ | ⟨old, -, starts, extended⟩ | ⟨-, opened⟩)
      · exact ⟨by simp only [same]; exact head, by simp only [same]; exact all⟩
      · cases extended
        exact absurd starts.symm here
      · cases opened
        exact absurd rfl here

theorem filed_nil : Filed [] [] :=
  ⟨.nil, fun group => by simp [IsGroup, boundAt]⟩

theorem Filed.declared (filed : Filed targets done) (other : Cursor) :
    Filed (targets ++ [.declared other]) done :=
  ⟨filed.distinct, fun group => by rw [filed.exact, IsGroup, IsGroup, boundAt_declared]⟩

theorem Filed.bound (filed : Filed targets done) (declaration declarator : Cursor) :
    Filed (targets ++ [.bound declaration declarator])
      (Group.add declaration declarator done) := by
  refine ⟨add_distinct filed.distinct, fun group => ?_⟩
  rw [mem_add_iff filed.distinct, isGroup_bound_iff]
  simp only [filed.exact]

/-- The groups of some targets are all there are. -/
theorem mem_groups_iff (targets : List Target) (group : Group) :
    group ∈ groups targets ↔ IsGroup targets group := by
  have filed : ∀ (later earlier : List Target) (done : List Group), Filed earlier done →
      Filed (earlier ++ later) (later.foldl
        (fun done target => match target with
          | .declared _ => done
          | .bound declaration declarator => Group.add declaration declarator done) done) := by
    -- On the targets still to come; `done` stands after those before them.
    intro later
    induction later with
    | nil =>
        intro earlier done filed
        simpa using filed
    | cons target rest ih =>
        intro earlier done filed
        rw [List.foldl_cons, ← List.singleton_append, ← List.append_assoc]
        cases target with
        | declared other => exact ih _ _ (filed.declared other)
        | bound declaration declarator => exact ih _ _ (filed.bound declaration declarator)
  exact (filed targets [] [] filed_nil).exact group

end Groups

end Removal

end CallAtlas
