import CallAtlas.Proofs.Diagram.Export

/-!
A diagram agrees with the calls it is made from and with the report of the same
analysis. Its nodes are the callers, its edges the calls, both in increasing order;
the callers that are set off are those that the report lists as roots; one name has
one label; and only functions without calls in either direction are left out
(`ofAnalysis_faithful`).
-/

namespace CallAtlas

def DiagramEdge.ends (edge : DiagramEdge) : String × String :=
  (edge.source.name, edge.target.name)

namespace Diagram

def names (diagram : Diagram) : List String :=
  (diagram.nodes ++ diagram.isolated).map (·.name) ++
    diagram.edges.flatMap fun edge => [edge.source.name, edge.target.name]

/-- A diagram that shows the calls of an analysis. -/
structure Faithful (analysis : Analysis) (diagram : Diagram) : Prop where
  nodesSorted : (diagram.nodes.map (·.name)).Pairwise (· < ·)
  nodes : ∀ name, name ∈ diagram.nodes.map (·.name) ↔ ∃ callee, analysis.relation.Calls name callee
  edgesSorted : (diagram.edges.map (·.ends)).Pairwise (Prod.Lex (· < ·) (· < ·))
  edges : ∀ caller callee,
    (caller, callee) ∈ diagram.edges.map (·.ends) ↔ analysis.relation.Calls caller callee
  edgeCount : diagram.edges.length = analysis.stats.totalEdges
  isolated : diagram.isolated = diagram.nodes.filter (·.name ∈ analysis.roots)
  isolatedNames : diagram.isolated.map (·.name) = analysis.rootsWithCalls
  labels : ∀ edge ∈ diagram.edges, ∀ node ∈ [edge.source, edge.target],
    Shows analysis.catalog node ∧
      ∀ other ∈ diagram.nodes, other.name = node.name → other.label = node.label
  leftOut : ∀ name, analysis.catalog.contains name = true → (name ∉ diagram.names ↔
    ∀ other, ¬ analysis.relation.Calls name other ∧ ¬ analysis.relation.Calls other name)

theorem Shows.label_unique {catalog : Catalog} {node other : DiagramNode}
    (shown : Shows catalog node) (shown' : Shows catalog other) (same : other.name = node.name) :
    other.label = node.label := by
  obtain ⟨record, found, label⟩ := shown
  obtain ⟨record', found', label'⟩ := shown'
  rw [same, found] at found'
  rw [label, label', Option.some.inj found']

section Analysed

variable {settings : AnalysisSettings} {tree : SyntaxTree} {analysis : Analysis}
  (derived : Analysis.Derived settings tree analysis)

include derived

theorem node_names : (ofAnalysis analysis).nodes.map (·.name) = analysis.relation.names := by
  rw [NameMap.names, ← callers_exact derived, ofAnalysis, List.map_map, List.map_map]
  rfl

theorem node_names_sorted : ((ofAnalysis analysis).nodes.map (·.name)).Pairwise (· < ·) := by
  rw [node_names derived]
  exact analysis.relation.sorted_names

theorem mem_node_names_iff {name : String} : name ∈ (ofAnalysis analysis).nodes.map (·.name) ↔
    ∃ callee, analysis.relation.Calls name callee := by
  rw [node_names derived, NameMap.mem_names]
  exact CallRelation.Inhabited.isSome_iff fun _ _ => derived.inhabited

-- Both lists are strictly increasing, so it is enough to compare their members.
theorem isolated_names :
    (ofAnalysis analysis).isolated.map (·.name) = analysis.rootsWithCalls := by
  have sorted : ((ofAnalysis analysis).isolated.map (·.name)).Pairwise (· < ·) :=
    (node_names_sorted derived).sublist (List.filter_sublist.map _)
  apply NameSet.eq_of_sorted sorted (analysis.roots.sorted.filter _)
  intro name
  have isolated : name ∈ (ofAnalysis analysis).isolated.map (·.name) ↔
      name ∈ (ofAnalysis analysis).nodes.map (·.name) ∧ name ∈ analysis.roots := by
    simp only [ofAnalysis, List.mem_map, List.mem_filter, NameSet.contains_iff]
    constructor
    · rintro ⟨node, ⟨listed, root⟩, rfl⟩
      exact ⟨⟨node, listed, rfl⟩, root⟩
    · rintro ⟨⟨node, listed, rfl⟩, root⟩
      exact ⟨node, ⟨listed, root⟩, rfl⟩
  rw [isolated, mem_node_names_iff derived, derived.mem_roots_iff]
  constructor
  · rintro ⟨caller, -, uncalled⟩
    exact (mem_rootsWithCalls_iff derived).mpr ⟨caller, uncalled⟩
  · intro root
    obtain ⟨⟨callee, calls⟩, uncalled⟩ := (mem_rootsWithCalls_iff derived).mp root
    exact ⟨⟨callee, calls⟩, derived.caller_known calls, uncalled⟩

theorem mem_names_iff {name : String} : name ∈ (ofAnalysis analysis).names ↔
    ∃ other, analysis.relation.Calls name other ∨ analysis.relation.Calls other name := by
  have inEdges : name ∈ (ofAnalysis analysis).edges.flatMap
      (fun edge => [edge.source.name, edge.target.name]) ↔
      ∃ other, analysis.relation.Calls name other ∨ analysis.relation.Calls other name := by
    simp only [calls_iff_edge derived, List.mem_flatMap, List.mem_cons, List.not_mem_nil, or_false]
    constructor
    · rintro ⟨edge, listed, rfl | rfl⟩
      · exact ⟨edge.target.name, .inl ⟨edge, listed, rfl, rfl⟩⟩
      · exact ⟨edge.source.name, .inr ⟨edge, listed, rfl, rfl⟩⟩
    · rintro ⟨other, ⟨edge, listed, here, -⟩ | ⟨edge, listed, -, here⟩⟩
      · exact ⟨edge, listed, .inl here.symm⟩
      · exact ⟨edge, listed, .inr here.symm⟩
  -- A node, isolated or not, is the source of an edge.
  have inNodes : ∀ node ∈ (ofAnalysis analysis).nodes ++ (ofAnalysis analysis).isolated,
      ∃ callee, analysis.relation.Calls node.name callee := by
    intro node member
    have listed : node ∈ (ofAnalysis analysis).nodes := by
      rcases List.mem_append.mp member with node | isolated
      · exact node
      · exact (List.mem_filter.mp isolated).1
    exact (mem_node_names_iff derived).mp (List.mem_map_of_mem listed)
  rw [names, List.mem_append, inEdges, or_iff_right_iff_imp]
  intro member
  obtain ⟨node, listed, rfl⟩ := List.mem_map.mp member
  obtain ⟨callee, calls⟩ := inNodes node listed
  exact ⟨callee, .inl calls⟩

end Analysed

/-- The diagram of every analysis that succeeds is faithful to it. -/
theorem ofAnalysis_faithful {settings : AnalysisSettings} {tree : SyntaxTree} {analysis : Analysis}
    (done : Analysis.ofTree settings tree = .ok analysis) :
    Faithful analysis (ofAnalysis analysis) := by
  have derived := Analysis.derived_of_ok done
  have ends : (ofAnalysis analysis).edges.map (·.ends) = analysis.relation.pairs :=
    edges_exact derived
  constructor
  case nodesSorted => exact node_names_sorted derived
  case nodes =>
    intro name
    exact mem_node_names_iff derived
  case edgesSorted =>
    rw [ends]
    exact analysis.relation.pairs_sorted
  case edges =>
    intro caller callee
    rw [ends]
    exact CallRelation.mem_pairs_iff
  case edgeCount =>
    rw [derived.stats, ← CallRelation.length_pairs, ← ends, List.length_map]
  case isolated =>
    rw [ofAnalysis]
    apply List.filter_congr
    intro node _
    rw [Bool.eq_iff_iff, NameSet.contains_iff, decide_eq_true_iff]
  case isolatedNames => exact isolated_names derived
  case labels =>
    intro edge listed node among
    have shown : Shows analysis.catalog node := by
      obtain ⟨source, target⟩ := shows_of_mem_edges listed
      rcases List.mem_pair.mp among with rfl | rfl
      · exact source
      · exact target
    refine ⟨shown, ?_⟩
    intro other member same
    exact shown.label_unique (shows_of_mem_nodes member) same
  case leftOut =>
    intro name _
    rw [mem_names_iff derived, not_exists]
    exact forall_congr' fun other => not_or

def chain : SyntaxTree :=
  Sketch.program ("function a() \x7b b(); c(); \x7d\nfunction b() \x7b c(); \x7d\n" ++
      "function c() \x7b\x7d\nfunction d() \x7b\x7d")
    [Sketch.function "function_declaration" 0 26 [Sketch.call 15, Sketch.call 20],
      Sketch.function "function_declaration" 27 48 [Sketch.call 42],
      Sketch.function "function_declaration" 49 64 [],
      Sketch.function "function_declaration" 65 80 []]

theorem chain_faithful : ∃ analysis, Analysis.ofTree { denylist := ∅ } chain = .ok analysis ∧
    (ofAnalysis analysis).edges.map (·.ends) = [("a", "b"), ("a", "c"), ("b", "c")] ∧
    (ofAnalysis analysis).nodes.map (·.name) = ["a", "b"] ∧ analysis.rootsWithCalls = ["a"] ∧
    analysis.catalog.names = ["a", "b", "c", "d"] ∧ Faithful analysis (ofAnalysis analysis) := by
  have done : Analysis.ofTree { denylist := ∅ } chain = .ok _ := rfl
  exact ⟨_, done, by decide +kernel, by decide +kernel, by decide +kernel, by decide +kernel,
    ofAnalysis_faithful done⟩

end Diagram

end CallAtlas
