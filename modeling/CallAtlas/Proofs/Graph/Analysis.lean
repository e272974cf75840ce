import CallAtlas.Graph.Analysis
import CallAtlas.Proofs.Call.Usage
import CallAtlas.Proofs.Graph.Search
import CallAtlas.Proofs.Tree.Sketch

/-!
What an analysis says about its tree. An analysis that succeeds is made of the
catalog and the call relation of the tree; its calls are between catalogued names,
its roots are the names that nobody calls, and its dead names are the roots or
the names that no root reaches.
-/

namespace CallAtlas

theorem mem_findRoots_iff {catalog : Catalog} {relation : CallRelation} {name : String} :
    name ∈ findRoots catalog relation ↔
      catalog.contains name = true ∧ ∀ caller, ¬ relation.Calls caller name := by
  simp [findRoots, CallRelation.mem_called_iff]

theorem mem_findDead_iff {catalog : Catalog} {relation : CallRelation} {name : String} :
    name ∈ findDead .unreachableFromRoots catalog relation ↔ catalog.contains name = true ∧
      ∀ root ∈ findRoots catalog relation,
        ¬ Relation.ReflTransGen (CallGraph.ofRelation catalog relation).Edge root name := by
  have alive := CallGraph.mem_reachable_iff (CallGraph.wellFormed_ofRelation catalog relation)
    (findRoots catalog relation).toList name
  simp only [findDead, NameSet.mem_filter, NameMap.mem_nameSet, Bool.not_eq_true',
    List.contains_eq_mem, decide_eq_false_iff_not, alive]
  refine and_congr_right fun _ => ?_
  constructor
  · intro dead root isRoot path
    have node := NameMap.mem_names.mpr (mem_findRoots_iff.mp isRoot).1
    exact dead ⟨root, isRoot, node, path⟩
  · rintro dead ⟨root, isRoot, -, path⟩
    exact dead root isRoot path

namespace Analysis

structure Derived (settings : AnalysisSettings) (tree : SyntaxTree) (analysis : Analysis) :
    Prop where
  catalog : Catalog.build settings.duplicates tree = .ok analysis.catalog
  relation : analysis.relation =
    (CallUsage.ofTree tree analysis.catalog settings.denylist).relation
  roots : analysis.roots = findRoots analysis.catalog analysis.relation
  dead : analysis.dead = findDead settings.deadCode analysis.catalog analysis.relation
  stats : analysis.stats =
    { totalFunctions := analysis.catalog.size
      totalEdges := analysis.relation.edgeCount
      roots := analysis.roots.size
      dead := analysis.dead.size }

section Parts

variable {settings : AnalysisSettings} {tree : SyntaxTree} {analysis : Analysis}

theorem derived_of_ok (done : ofTree settings tree = .ok analysis) :
    Derived settings tree analysis := by
  unfold ofTree at done
  cases built : Catalog.build settings.duplicates tree with
  | error refused =>
      rw [built] at done
      cases done
  | ok catalog =>
      rw [built] at done
      obtain rfl := Except.ok.inj done
      exact ⟨built, rfl, rfl, rfl, rfl⟩

theorem Derived.calls_iff (derived : Derived settings tree analysis) {caller callee : String} :
    analysis.relation.Calls caller callee ↔
      ∃ site, tree.SiteCalls analysis.catalog settings.denylist site caller callee := by
  rw [derived.relation]
  exact CallUsage.calls_ofTree_iff tree analysis.catalog settings.denylist caller callee

theorem Derived.inhabited (derived : Derived settings tree analysis) {caller : String}
    {callees : NameSet} (found : analysis.relation.get? caller = some callees) : callees ≠ ∅ := by
  rw [derived.relation] at found
  exact (CallUsage.accounts_ofTree tree analysis.catalog settings.denylist).inhabited caller callees
    found

theorem Derived.exists_callee (derived : Derived settings tree analysis) {caller : String}
    {callees : NameSet} (found : analysis.relation.get? caller = some callees) :
    ∃ callee, analysis.relation.Calls caller callee := by
  have inhabited : analysis.relation.Inhabited := fun _ _ => derived.inhabited
  exact inhabited.exists_callee found

theorem Derived.caller_known (derived : Derived settings tree analysis) {caller callee : String}
    (calls : analysis.relation.Calls caller callee) : analysis.catalog.contains caller = true := by
  obtain ⟨site, calls⟩ := derived.calls_iff.mp calls
  exact calls.callerKnown

theorem Derived.callee_known (derived : Derived settings tree analysis) {caller callee : String}
    (calls : analysis.relation.Calls caller callee) : analysis.catalog.contains callee = true := by
  obtain ⟨site, calls⟩ := derived.calls_iff.mp calls
  exact calls.calleeKnown

theorem Derived.callee_allowed (derived : Derived settings tree analysis) {caller callee : String}
    (calls : analysis.relation.Calls caller callee) : callee ∉ settings.denylist := by
  obtain ⟨site, calls⟩ := derived.calls_iff.mp calls
  exact calls.allowed

theorem Derived.mem_roots_iff (derived : Derived settings tree analysis) {name : String} :
    name ∈ analysis.roots ↔
      analysis.catalog.contains name = true ∧ ∀ caller, ¬ analysis.relation.Calls caller name := by
  rw [derived.roots, mem_findRoots_iff]

theorem Derived.edge_eq_calls (derived : Derived settings tree analysis) :
    (CallGraph.ofRelation analysis.catalog analysis.relation).Edge = analysis.relation.Calls := by
  funext caller callee
  rw [CallGraph.edge_ofRelation_iff, eq_iff_iff]
  exact ⟨And.left, fun calls => ⟨calls, derived.caller_known calls, derived.callee_known calls⟩⟩

theorem Derived.mem_dead_iff (derived : Derived settings tree analysis)
    (policy : settings.deadCode = .unreachableFromRoots) {name : String} :
    name ∈ analysis.dead ↔ analysis.catalog.contains name = true ∧
      ∀ root ∈ analysis.roots, ¬ Relation.ReflTransGen analysis.relation.Calls root name := by
  rw [derived.dead, policy, mem_findDead_iff, derived.edge_eq_calls, derived.roots]

theorem Derived.dead_eq_roots (derived : Derived settings tree analysis)
    (policy : settings.deadCode = .neverCalled) : analysis.dead = analysis.roots := by
  rw [derived.dead, policy, derived.roots]
  rfl

theorem Derived.dead_known (derived : Derived settings tree analysis) {name : String}
    (dead : name ∈ analysis.dead) : analysis.catalog.contains name = true := by
  cases policy : settings.deadCode with
  | neverCalled =>
      rw [derived.dead_eq_roots policy] at dead
      exact (derived.mem_roots_iff.mp dead).1
  | unreachableFromRoots => exact ((derived.mem_dead_iff policy).mp dead).1

theorem Derived.totalEdges (derived : Derived settings tree analysis) :
    analysis.stats.totalEdges =
      (CallUsage.ofTree tree analysis.catalog settings.denylist).stats.edgesRecorded := by
  rw [(CallUsage.accounts_ofTree tree analysis.catalog settings.denylist).edges, derived.stats,
    ← derived.relation]

structure Consistent (settings : AnalysisSettings) (tree : SyntaxTree) (analysis : Analysis) :
    Prop where
  catalog : Catalog.build settings.duplicates tree = .ok analysis.catalog
  callers : ∀ caller callees, analysis.relation.get? caller = some callees →
    analysis.catalog.contains caller = true ∧ callees ≠ ∅
  callees : ∀ caller callee, analysis.relation.Calls caller callee →
    analysis.catalog.contains callee = true ∧ callee ∉ settings.denylist
  roots : ∀ name, name ∈ analysis.roots ↔
    analysis.catalog.contains name = true ∧ ∀ caller, ¬ analysis.relation.Calls caller name
  deniedRoots : ∀ name, analysis.catalog.contains name = true → name ∈ settings.denylist →
    name ∈ analysis.roots
  neverCalled : settings.deadCode = .neverCalled → analysis.dead = analysis.roots
  unreachable : settings.deadCode = .unreachableFromRoots → ∀ name ∈ analysis.dead,
    analysis.catalog.contains name = true ∧ name ∉ analysis.roots
  stats : analysis.stats =
    { totalFunctions := analysis.catalog.size
      totalEdges := {pair : String × String | analysis.relation.Calls pair.1 pair.2}.ncard
      roots := analysis.roots.size
      dead := analysis.dead.size }
  edges : analysis.stats.totalEdges =
    (CallUsage.ofTree tree analysis.catalog settings.denylist).stats.edgesRecorded

/-- Every analysis that succeeds is consistent. -/
theorem ofTree_consistent (done : ofTree settings tree = .ok analysis) :
    Consistent settings tree analysis := by
  have derived := derived_of_ok done
  constructor
  case catalog => exact derived.catalog
  case callers =>
    intro caller callees found
    obtain ⟨callee, calls⟩ := derived.exists_callee found
    exact ⟨derived.caller_known calls, derived.inhabited found⟩
  case callees =>
    intro caller callee calls
    exact ⟨derived.callee_known calls, derived.callee_allowed calls⟩
  case roots => exact fun name => derived.mem_roots_iff
  case deniedRoots =>
    intro name known denied
    exact derived.mem_roots_iff.mpr ⟨known, fun caller calls => derived.callee_allowed calls denied⟩
  case neverCalled => exact derived.dead_eq_roots
  case unreachable =>
    intro policy name dead
    obtain ⟨known, unreached⟩ := (derived.mem_dead_iff policy).mp dead
    exact ⟨known, fun root => unreached name root .refl⟩
  case stats => rw [derived.stats, CallRelation.edgeCount_eq_ncard]
  case edges => exact derived.totalEdges

end Parts

def recursive : SyntaxTree :=
  Sketch.program
    "function a() \x7b b(); a(); \x7d\nfunction b() \x7b m(); \x7d\nfunction m() \x7b\x7d"
    [Sketch.function "function_declaration" 0 26 [Sketch.call 15, Sketch.call 20],
      Sketch.function "function_declaration" 27 48 [Sketch.call 42],
      Sketch.function "function_declaration" 49 64 []]

def recursiveSettings : AnalysisSettings where
  denylist := NameSet.ofList ["m"]
  deadCode := .unreachableFromRoots

theorem recursive_consistent : ∃ analysis, ofTree recursiveSettings recursive = .ok analysis ∧
    analysis.roots.toList = ["m"] ∧ analysis.dead.toList = ["a", "b"] ∧
    Consistent recursiveSettings recursive analysis :=
  ⟨_, rfl, by decide +kernel, by decide +kernel, ofTree_consistent rfl⟩

end Analysis

end CallAtlas
