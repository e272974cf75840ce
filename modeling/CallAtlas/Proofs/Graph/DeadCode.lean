import CallAtlas.Proofs.Graph.Analysis
import Mathlib.Data.Fintype.Card

/-!
Dead code by reachability. A name is dead exactly if no root stands among itself
and the names that call it, directly or through others. Dead names are therefore
called by dead names, and as there are only finitely many of them, following the
callers back ends in a cycle of dead names.
-/

namespace CallAtlas

/-- If every name of a finite set is called by a name of the set, then each of them is reached
from a cycle in the set. -/
theorem exists_cycle_reaching {members : NameSet} {calls : String → String → Prop}
    (called : ∀ name ∈ members, ∃ caller ∈ members, calls caller name) {name : String}
    (member : name ∈ members) :
    ∃ origin, Relation.ReflTransGen calls origin name ∧ Relation.TransGen
      (fun caller callee => caller ∈ members ∧ callee ∈ members ∧ calls caller callee)
      origin origin := by
  by_contra acyclic
  -- The names of the set that reach the given one: without a cycle among them, one is minimal.
  let Ancestor := {origin // origin ∈ members ∧ Relation.ReflTransGen calls origin name}
  let before : Ancestor → Ancestor → Prop := fun caller callee => calls caller.1 callee.1
  have finite : Finite Ancestor :=
    ((List.finite_toSet members.toList).subset fun _ ancestor => ancestor.1).to_subtype
  have irreflexive : Std.Irrefl (Relation.TransGen before) := by
    refine ⟨fun origin cycle => acyclic ⟨origin.1, origin.2.2, ?_⟩⟩
    exact cycle.lift Subtype.val fun caller callee calls => ⟨caller.2.1, callee.2.1, calls⟩
  have wellFounded : WellFounded (Relation.TransGen before) :=
    Finite.wellFounded_of_trans_of_irrefl _
  obtain ⟨first, -, minimal⟩ := wellFounded.has_min Set.univ ⟨⟨name, member, .refl⟩, trivial⟩
  -- Its caller in the set reaches the given name too and comes before it.
  obtain ⟨caller, callerMember, calls⟩ := called first.1 first.2.1
  exact minimal ⟨caller, callerMember, first.2.2.head calls⟩ trivial (.single calls)

namespace Analysis

/-- A name stands on a cycle of calls between dead names. -/
def OnDeadCycle (analysis : Analysis) (name : String) : Prop :=
  Relation.TransGen (fun caller callee => caller ∈ analysis.dead ∧ callee ∈ analysis.dead ∧
    analysis.relation.Calls caller callee) name name

section Unreachable

variable {settings : AnalysisSettings} {tree : SyntaxTree} {analysis : Analysis}

theorem Derived.mem_dead_iff_callers (derived : Derived settings tree analysis)
    (policy : settings.deadCode = .unreachableFromRoots) {name : String} :
    name ∈ analysis.dead ↔ analysis.catalog.contains name = true ∧ name ∉ analysis.roots ∧
      ∀ caller, Relation.TransGen analysis.relation.Calls caller name →
        caller ∉ analysis.roots := by
  rw [derived.mem_dead_iff policy]
  refine and_congr_right fun _ => ?_
  constructor
  · intro unreached
    exact ⟨fun root => unreached name root .refl,
      fun caller path root => unreached caller root path.to_reflTransGen⟩
  · rintro ⟨noRoot, noneAbove⟩ root isRoot path
    rcases Relation.reflTransGen_iff_eq_or_transGen.mp path with same | above
    · exact noRoot (same ▸ isRoot)
    · exact noneAbove root above isRoot

theorem Derived.caller_dead (derived : Derived settings tree analysis)
    (policy : settings.deadCode = .unreachableFromRoots) {caller callee : String}
    (calls : analysis.relation.Calls caller callee) (dead : callee ∈ analysis.dead) :
    caller ∈ analysis.dead := by
  obtain ⟨-, unreached⟩ := (derived.mem_dead_iff policy).mp dead
  refine (derived.mem_dead_iff policy).mpr ⟨derived.caller_known calls, ?_⟩
  intro root isRoot path
  exact unreached root isRoot (path.tail calls)

theorem Derived.exists_caller (derived : Derived settings tree analysis)
    (policy : settings.deadCode = .unreachableFromRoots) {name : String}
    (dead : name ∈ analysis.dead) : ∃ caller, analysis.relation.Calls caller name := by
  obtain ⟨known, unreached⟩ := (derived.mem_dead_iff policy).mp dead
  by_contra uncalled
  have root := derived.mem_roots_iff.mpr ⟨known, fun caller calls => uncalled ⟨caller, calls⟩⟩
  exact unreached name root .refl

theorem Derived.exists_deadCycle (derived : Derived settings tree analysis)
    (policy : settings.deadCode = .unreachableFromRoots) {name : String}
    (dead : name ∈ analysis.dead) :
    ∃ origin, Relation.ReflTransGen analysis.relation.Calls origin name ∧
      analysis.OnDeadCycle origin := by
  refine exists_cycle_reaching (fun name dead => ?_) dead
  obtain ⟨caller, calls⟩ := derived.exists_caller policy dead
  exact ⟨caller, derived.caller_dead policy calls dead, calls⟩

theorem OnDeadCycle.cycle {name : String} (cycle : analysis.OnDeadCycle name) :
    Relation.TransGen analysis.relation.Calls name name :=
  Relation.TransGen.mono (fun _ _ step => step.2.2) _ _ cycle

/-- Under the policy of reachability, the dead names are those without a root among themselves
and their transitive callers; so callers of dead names are dead, every dead name has a caller and is
reached from a cycle of dead names, and without recursion nothing is dead. -/
theorem unreachable_dead_exact (policy : settings.deadCode = .unreachableFromRoots)
    (done : ofTree settings tree = .ok analysis) :
    (∀ name, name ∈ analysis.dead ↔ analysis.catalog.contains name = true ∧
      name ∉ analysis.roots ∧
      ∀ caller, Relation.TransGen analysis.relation.Calls caller name → caller ∉ analysis.roots) ∧
    (∀ caller callee, analysis.relation.Calls caller callee → callee ∈ analysis.dead →
      caller ∈ analysis.dead) ∧
    (∀ name ∈ analysis.dead, ∃ caller, analysis.relation.Calls caller name) ∧
    (∀ name ∈ analysis.dead, ∃ origin,
      Relation.ReflTransGen analysis.relation.Calls origin name ∧ analysis.OnDeadCycle origin) ∧
    ((∀ name, ¬ Relation.TransGen analysis.relation.Calls name name) → analysis.dead = ∅) := by
  have derived := derived_of_ok done
  refine ⟨fun name => derived.mem_dead_iff_callers policy,
    fun caller callee => derived.caller_dead policy, fun name => derived.exists_caller policy,
    fun name => derived.exists_deadCycle policy, ?_⟩
  intro acyclic
  refine NameSet.ext fun name => ⟨fun dead => ?_, fun absent => absurd absent (by simp)⟩
  obtain ⟨origin, -, cycle⟩ := derived.exists_deadCycle policy dead
  exact absurd cycle.cycle (acyclic origin)

/-- The second function is dead without standing on a cycle itself: it is called from one. -/
theorem recursive_dead_from_cycle :
    ∃ analysis, ofTree recursiveSettings recursive = .ok analysis ∧ "b" ∈ analysis.dead ∧
      analysis.relation.callees "b" = ∅ ∧
      ∃ origin, Relation.ReflTransGen analysis.relation.Calls origin "b" ∧
        analysis.OnDeadCycle origin := by
  have done : ofTree recursiveSettings recursive = .ok _ := rfl
  refine ⟨_, done, by decide +kernel, by decide +kernel, ?_⟩
  exact (unreachable_dead_exact rfl done).2.2.2.1 "b" (by decide +kernel)

end Unreachable

end Analysis

end CallAtlas
