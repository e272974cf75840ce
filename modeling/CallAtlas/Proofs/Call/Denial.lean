import CallAtlas.Proofs.Graph.Analysis
import CallAtlas.Settings.Basic

/-!
What a denylist takes out of a call relation. Calls are dropped one by one while
a tree is read, before they reach the relation; the outcome is the relation of all
calls with the denied callees taken out afterwards (`denial_exact`). So a section
of the settings that denies more has fewer calls and more roots.
-/

namespace CallAtlas

namespace NameMap

variable {α β : Type}

def filterMap (map : NameMap α) (keep : α → Option β) : NameMap β where
  toList := map.toList.filterMap fun (name, value) => (keep value).map (name, ·)
  sorted := by
    refine map.sorted.filterMap _ ?_
    rintro ⟨first, value⟩ ⟨second, value'⟩ less entry kept entry' kept'
    obtain ⟨_, -, rfl⟩ := Option.map_eq_some_iff.mp kept
    obtain ⟨_, -, rfl⟩ := Option.map_eq_some_iff.mp kept'
    exact less

theorem get?_filterMap (map : NameMap α) (keep : α → Option β) (name : String) :
    (map.filterMap keep).get? name = (map.get? name).bind keep := by
  refine Option.ext fun value => ?_
  rw [← mem_toList_iff, Option.bind_eq_some_iff]
  constructor
  · intro member
    obtain ⟨⟨key, held⟩, listed, kept⟩ := List.mem_filterMap.mp member
    obtain ⟨_, same, entry⟩ := Option.map_eq_some_iff.mp kept
    obtain ⟨rfl, rfl⟩ := Prod.mk.inj entry
    exact ⟨held, mem_toList_iff.mp listed, same⟩
  · rintro ⟨held, found, kept⟩
    exact List.mem_filterMap.mpr ⟨(name, held), mem_toList_iff.mpr found, by simp [kept]⟩

end NameMap

namespace CallRelation

/-- Takes callees out of a relation, and with them the callers that have no others. -/
def withoutCallees (relation : CallRelation) (denied : String → Prop) [DecidablePred denied] :
    CallRelation :=
  relation.filterMap fun callees =>
    let kept := callees.filter fun name => !denied name
    if kept = ∅ then none else some kept

section

variable {relation : CallRelation} {caller callee : String}

variable {denied : String → Prop} [DecidablePred denied]

theorem inhabited_withoutCallees (relation : CallRelation) :
    (relation.withoutCallees denied).Inhabited := by
  intro caller callees found
  rw [withoutCallees, NameMap.get?_filterMap] at found
  obtain ⟨all, -, kept⟩ := Option.bind_eq_some_iff.mp found
  simp only at kept
  split at kept
  · cases kept
  · next some =>
      obtain rfl := Option.some.inj kept
      exact some

theorem calls_withoutCallees_iff : (relation.withoutCallees denied).Calls caller callee ↔
    relation.Calls caller callee ∧ ¬ denied callee := by
  rw [calls_iff, calls_iff, withoutCallees, NameMap.get?_filterMap]
  constructor
  · rintro ⟨kept, found, member⟩
    obtain ⟨callees, listed, same⟩ := Option.bind_eq_some_iff.mp found
    simp only at same
    split at same
    · cases same
    · obtain rfl := Option.some.inj same
      have := NameSet.mem_filter.mp member
      exact ⟨⟨callees, listed, this.1⟩, by simpa using this.2⟩
  · rintro ⟨⟨callees, listed, member⟩, allowed⟩
    have present : callee ∈ callees.filter fun name => !denied name :=
      NameSet.mem_filter.mpr ⟨member, by simpa using allowed⟩
    have some : callees.filter (fun name => !denied name) ≠ ∅ := by
      intro empty
      rw [empty] at present
      exact NameSet.not_mem_empty callee present
    exact ⟨_, by simp [listed, some], present⟩

end

end CallRelation

section Denylists

variable (tree : SyntaxTree) (catalog : Catalog)

theorem SyntaxTree.siteCalls_iff (denylist : Denylist) {site : Cursor} {caller callee : String} :
    tree.SiteCalls catalog denylist site caller callee ↔
      tree.SiteCalls catalog ∅ site caller callee ∧ callee ∉ denylist :=
  ⟨fun ⟨site, attributed, calls, allowed, callerKnown, calleeKnown⟩ =>
      ⟨⟨site, attributed, calls, NameSet.not_mem_empty _, callerKnown, calleeKnown⟩, allowed⟩,
    fun ⟨⟨site, attributed, calls, _, callerKnown, calleeKnown⟩, allowed⟩ =>
      ⟨site, attributed, calls, allowed, callerKnown, calleeKnown⟩⟩

/-- Denying callees while the tree is read is taking them out of what it says. -/
theorem CallUsage.relation_eq_withoutCallees (denylist : Denylist) :
    (CallUsage.ofTree tree catalog denylist).relation =
      (CallUsage.ofTree tree catalog ∅).relation.withoutCallees (· ∈ denylist) := by
  refine CallRelation.eq_of_calls (accounts_ofTree tree catalog denylist).inhabited
    (CallRelation.inhabited_withoutCallees _) fun caller callee => ?_
  rw [CallRelation.calls_withoutCallees_iff, calls_ofTree_iff, calls_ofTree_iff]
  simp only [tree.siteCalls_iff catalog denylist, exists_and_right]

end Denylists

structure Thinned (catalog : Catalog) (relation fewer : CallRelation) : Prop where
  calls : ∀ caller callee, fewer.Calls caller callee → relation.Calls caller callee
  roots : ∀ name ∈ findRoots catalog relation, name ∈ findRoots catalog fewer

theorem thinned_of_calls {catalog : Catalog} {relation fewer : CallRelation}
    (kept : ∀ caller callee, fewer.Calls caller callee → relation.Calls caller callee) :
    Thinned catalog relation fewer := by
  refine ⟨kept, fun name root => ?_⟩
  obtain ⟨known, uncalled⟩ := mem_findRoots_iff.mp root
  exact mem_findRoots_iff.mpr ⟨known, fun caller calls => uncalled caller (kept caller name calls)⟩

namespace AnalysisSection

/-- A name that is not allowed and that the base list or the extra one holds. -/
def Denies (given : AnalysisSection) (name : String) : Prop :=
  name ∉ given.allow.getD [] ∧
    ((match given.denylist with
      | some names => name ∈ names
      | none => name ∈ Denylist.builtin) ∨
    name ∈ given.extraDenylist.getD [])

def denyingAlso (given : AnalysisSection) (names : List String) : AnalysisSection :=
  { given with extraDenylist := some (given.extraDenylist.getD [] ++ names) }

def allowingAlso (given : AnalysisSection) (names : List String) : AnalysisSection :=
  { given with allow := some (given.allow.getD [] ++ names) }

variable {given : AnalysisSection} {name : String}

theorem mem_effectiveDenylist_iff : name ∈ given.effectiveDenylist ↔ given.Denies name := by
  rw [effectiveDenylist, Denies, NameSet.mem_without, NameSet.mem_insertAll, and_comm,
    or_comm (a := name ∈ given.extraDenylist.getD [])]
  cases given.denylist <;> simp

instance (given : AnalysisSection) : DecidablePred given.Denies :=
  fun _ => decidable_of_iff _ mem_effectiveDenylist_iff

theorem Denies.denyingAlso (denied : given.Denies name) (names : List String) :
    (given.denyingAlso names).Denies name :=
  ⟨denied.1, denied.2.imp_right (List.mem_append_left _)⟩

theorem Denies.of_allowingAlso {names : List String}
    (denied : (given.allowingAlso names).Denies name) : given.Denies name :=
  ⟨fun allowed => denied.1 (List.mem_append_left _ allowed), denied.2⟩

def relation (given : AnalysisSection) (settings : Settings) (tree : SyntaxTree)
    (catalog : Catalog) : CallRelation :=
  (CallUsage.ofTree tree catalog
    { settings with analysis := some given }.analysisSettings.denylist).relation

section Relation

variable (given) (settings : Settings) (tree : SyntaxTree) (catalog : Catalog)

theorem relation_eq_withoutCallees : given.relation settings tree catalog =
    (CallUsage.ofTree tree catalog ∅).relation.withoutCallees given.Denies := by
  have denied : ∀ name, name ∈ given.effectiveDenylist ↔ given.Denies name :=
    fun name => mem_effectiveDenylist_iff
  rw [show given.relation settings tree catalog =
      (CallUsage.ofTree tree catalog given.effectiveDenylist).relation from rfl,
    CallUsage.relation_eq_withoutCallees]
  simp only [denied]

theorem relation_thinned {stricter : AnalysisSection}
    (more : ∀ name, given.Denies name → stricter.Denies name) :
    Thinned catalog (given.relation settings tree catalog)
      (stricter.relation settings tree catalog) := by
  refine thinned_of_calls fun caller callee calls => ?_
  rw [relation_eq_withoutCallees, CallRelation.calls_withoutCallees_iff] at calls ⊢
  exact ⟨calls.1, fun denied => calls.2 (more callee denied)⟩

/-- A section takes out of the relation of all calls the callees that it denies, and nothing else:
with the built-in list or its own, more names on top, and the allowed names whatever else it says. -/
theorem denial_exact :
    given.relation settings tree catalog =
        (CallUsage.ofTree tree catalog ∅).relation.withoutCallees given.Denies ∧
      (∀ stricter : AnalysisSection, (∀ name, given.Denies name → stricter.Denies name) →
        Thinned catalog (given.relation settings tree catalog)
          (stricter.relation settings tree catalog)) ∧
      (∀ names, Thinned catalog (given.relation settings tree catalog)
        ((given.denyingAlso names).relation settings tree catalog)) ∧
      (∀ names, Thinned catalog ((given.allowingAlso names).relation settings tree catalog)
        (given.relation settings tree catalog)) := by
  refine ⟨relation_eq_withoutCallees given settings tree catalog,
    fun _ => relation_thinned given settings tree catalog, fun names => ?_, fun names => ?_⟩
  · exact relation_thinned given settings tree catalog fun name denied => denied.denyingAlso names
  · exact relation_thinned _ settings tree catalog fun name denied => denied.of_allowingAlso

end Relation

end AnalysisSection

end CallAtlas
