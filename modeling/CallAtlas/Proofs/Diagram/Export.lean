import CallAtlas.Proofs.Diagram.Dot
import CallAtlas.Proofs.Function.Records
import CallAtlas.Proofs.Graph.Analysis

/-!
What the diagram of an analysis tells. Its edges are the calls of the analysis in
their order and its isolated nodes the roots that call something, each under a
label from which name, size and place of the function can be read. So the text of
the diagram determines the call graph (`dot_determines`).
-/

namespace CallAtlas

namespace FunctionRecord

variable {record other : FunctionRecord}

def sizeLine (record : FunctionRecord) : List Char :=
  Nat.toDigits 10 record.lineCount ++ [' ', 'l', 'i', 'n', 'e', 's']

def placeLine (record : FunctionRecord) : List Char :=
  ['l', 'i', 'n', 'e', ' '] ++ Nat.toDigits 10 record.definingLine

theorem toList_label (record : FunctionRecord) : record.label.toList =
    record.name.toList ++ '\n' :: record.sizeLine ++ '\n' :: record.placeLine := by
  have parts : record.label = record.name ++ "\n" ++ record.lineCount.repr ++ " lines\nline " ++
      record.definingLine.repr := rfl
  simp [parts, sizeLine, placeLine]

theorem not_mem_sizeLine {c : Char} (plain : c.isDigit = false)
    (free : c ∉ [' ', 'l', 'i', 'n', 'e', 's']) :
    c ∉ record.sizeLine := by
  intro member
  rcases List.mem_append.mp member with digit | other
  · rw [Text.digit_of_mem digit] at plain
    cases plain
  · exact free other

theorem not_mem_placeLine {c : Char} (plain : c.isDigit = false)
    (free : c ∉ ['l', 'i', 'n', 'e', ' ']) :
    c ∉ record.placeLine := by
  intro member
  rcases List.mem_append.mp member with other | digit
  · exact free other
  · rw [Text.digit_of_mem digit] at plain
    cases plain

-- A name may hold line feeds, so a label is taken apart from its end.
theorem label_injective (same : record.label = other.label) : record.name = other.name ∧
    record.lineCount = other.lineCount ∧ record.definingLine = other.definingLine := by
  have size : ∀ record : FunctionRecord, '\n' ∉ record.sizeLine :=
    fun record => not_mem_sizeLine (by decide) (by decide)
  have place : ∀ record : FunctionRecord, '\n' ∉ record.placeLine :=
    fun record => not_mem_placeLine (by decide) (by decide)
  have texts := congrArg String.toList same
  rw [toList_label, toList_label] at texts
  obtain ⟨fronts, places⟩ := Text.lastPart_unique (place record) (place other) texts
  obtain ⟨names, sizes⟩ := Text.lastPart_unique (size record) (size other) fronts
  exact ⟨String.toList_injective names, Text.toDigits_injective (List.append_cancel_right sizes),
    Text.toDigits_injective (List.append_cancel_left places)⟩

theorem return_not_mem_label (plain : '\r' ∉ record.name.toList) : '\r' ∉ record.label.toList := by
  have size : '\r' ∉ record.sizeLine := not_mem_sizeLine (by decide) (by decide)
  have place : '\r' ∉ record.placeLine := not_mem_placeLine (by decide) (by decide)
  simp [toList_label, plain, size, place]

end FunctionRecord

namespace Diagram

def Shows (catalog : Catalog) (node : DiagramNode) : Prop :=
  ∃ record, catalog.get? node.name = some record ∧ node.label = record.label

theorem node?_eq_some_iff {catalog : Catalog} {name : String} {node : DiagramNode} :
    node? catalog name = some node ↔ node.name = name ∧ Shows catalog node := by
  rw [node?, Option.map_eq_some_iff]
  constructor
  · rintro ⟨record, found, rfl⟩
    exact ⟨rfl, record, found, rfl⟩
  · rintro ⟨rfl, record, found, label⟩
    exact ⟨record, found, by rw [← label]⟩

theorem node?_of_contains {catalog : Catalog} {name : String}
    (known : catalog.contains name = true) : ∃ node, node? catalog name = some node := by
  obtain ⟨record, found⟩ := Option.isSome_iff_exists.mp known
  exact ⟨_, by rw [node?, found]; rfl⟩

theorem names_of_node? {catalog : Catalog} {names : List String}
    (known : ∀ name ∈ names, catalog.contains name = true) :
    (names.filterMap (node? catalog)).map DiagramNode.name = names := by
  rw [List.map_filterMap]
  refine (List.filterMap_congr fun name member => ?_).trans List.filterMap_some
  obtain ⟨node, found⟩ := node?_of_contains (known name member)
  rw [found, Option.map_some, (node?_eq_some_iff.mp found).1]

section Analysed

variable {settings : AnalysisSettings} {tree : SyntaxTree} {analysis : Analysis}
  (derived : Analysis.Derived settings tree analysis)

theorem shows_of_mem_callers {caller : DiagramNode × NameSet} (member : caller ∈ callers analysis) :
    Shows analysis.catalog caller.1 := by
  obtain ⟨⟨name, callees⟩, -, made⟩ := List.mem_filterMap.mp member
  simp only at made
  split at made
  · cases made
  · obtain ⟨node, found, rfl⟩ := Option.map_eq_some_iff.mp made
    exact (node?_eq_some_iff.mp found).2

theorem shows_of_mem_nodes {node : DiagramNode} (member : node ∈ (ofAnalysis analysis).nodes) :
    Shows analysis.catalog node := by
  obtain ⟨caller, listed, rfl⟩ := List.mem_map.mp member
  exact shows_of_mem_callers listed

theorem shows_of_mem_edges {edge : DiagramEdge} (member : edge ∈ (ofAnalysis analysis).edges) :
    Shows analysis.catalog edge.source ∧ Shows analysis.catalog edge.target := by
  obtain ⟨⟨source, callees⟩, listed, made⟩ := List.mem_flatMap.mp member
  obtain ⟨target, present, rfl⟩ := List.mem_map.mp made
  obtain ⟨name, -, found⟩ := List.mem_filterMap.mp present
  exact ⟨shows_of_mem_callers listed, (node?_eq_some_iff.mp found).2⟩

include derived

theorem callers_exact : (callers analysis).map (fun caller => (caller.1.name, caller.2)) =
    analysis.relation.toList := by
  rw [callers, List.map_filterMap]
  refine (List.filterMap_congr ?_).trans List.filterMap_some
  rintro ⟨name, callees⟩ listed
  have found := NameMap.mem_toList_iff.mp listed
  obtain ⟨callee, calls⟩ := derived.exists_callee found
  obtain ⟨node, shown⟩ := node?_of_contains (derived.caller_known calls)
  have entry : analysis.relation.callees name = callees := by
    rw [CallRelation.callees, found, Option.getD_some]
  have some : ¬ callees.isEmpty = true := by
    rw [← entry, CallRelation.callees_isEmpty_iff]
    exact fun none => none callee calls
  simp [some, shown, (node?_eq_some_iff.mp shown).1]

theorem edges_exact : (ofAnalysis analysis).edges.map
    (fun edge => (edge.source.name, edge.target.name)) = analysis.relation.pairs := by
  have edges : ∀ caller ∈ callers analysis,
      ((caller.2.toList.filterMap (node? analysis.catalog)).map (DiagramEdge.mk caller.1)).map
        (fun edge => (edge.source.name, edge.target.name)) =
      caller.2.toList.map (caller.1.name, ·) := by
    rintro caller member
    have known : ∀ name ∈ caller.2.toList, analysis.catalog.contains name = true := by
      intro name callee
      have listed : (caller.1.name, caller.2) ∈ analysis.relation.toList := by
        rw [← callers_exact derived]
        exact List.mem_map_of_mem member
      exact derived.callee_known
        (CallRelation.calls_iff.mpr ⟨_, NameMap.mem_toList_iff.mp listed, callee⟩)
    conv_rhs => rw [← names_of_node? known]
    simp [Function.comp_def]
  rw [ofAnalysis, List.map_flatMap, CallRelation.pairs, ← callers_exact derived, List.flatMap_map]
  exact List.flatMap_congr edges

theorem calls_iff_edge {caller callee : String} : analysis.relation.Calls caller callee ↔
    ∃ edge ∈ (ofAnalysis analysis).edges, edge.source.name = caller ∧ edge.target.name = callee := by
  rw [← CallRelation.mem_pairs_iff, ← edges_exact derived, List.mem_map]
  simp

-- Roots that call something are known by the calls alone.
theorem mem_rootsWithCalls_iff {name : String} : name ∈ analysis.rootsWithCalls ↔
    (∃ callee, analysis.relation.Calls name callee) ∧
      ∀ caller, ¬ analysis.relation.Calls caller name := by
  have calls : (!(analysis.relation.callees name).isEmpty) = true ↔
      ∃ callee, analysis.relation.Calls name callee := by
    rw [Bool.not_eq_true', ← Bool.not_eq_true, CallRelation.callees_isEmpty_iff]
    exact not_forall_not
  rw [Analysis.rootsWithCalls, List.mem_filter, calls, ← NameSet.mem_def, derived.mem_roots_iff]
  constructor
  · rintro ⟨⟨-, uncalled⟩, caller⟩
    exact ⟨caller, uncalled⟩
  · rintro ⟨⟨callee, calls⟩, uncalled⟩
    exact ⟨⟨derived.caller_known calls, uncalled⟩, callee, calls⟩

theorem return_not_mem {node : DiagramNode} (shown : Shows analysis.catalog node)
    (plain : ∀ name, analysis.catalog.contains name = true → '\r' ∉ name.toList) :
    '\r' ∉ node.label.toList := by
  obtain ⟨record, found, label⟩ := shown
  rw [label]
  apply FunctionRecord.return_not_mem_label
  rw [Catalog.name_of_get? derived.catalog found]
  exact plain node.name (by rw [NameMap.contains, found]; rfl)

theorem plain_labels
    (plain : ∀ name, analysis.catalog.contains name = true → '\r' ∉ name.toList) :
    (Dot.Labels.ofDiagram (ofAnalysis analysis)).Plain := by
  have nodes : ∀ node ∈ (ofAnalysis analysis).nodes, '\r' ∉ node.label.toList :=
    fun node member => return_not_mem derived (shows_of_mem_nodes member) plain
  refine ⟨?_, ?_, ?_⟩
  · intro label member
    obtain ⟨node, listed, rfl⟩ := List.mem_map.mp member
    exact nodes node listed
  · intro label member
    obtain ⟨node, listed, rfl⟩ := List.mem_map.mp member
    exact nodes node (List.mem_filter.mp listed).1
  · intro labels member
    obtain ⟨edge, listed, rfl⟩ := List.mem_map.mp member
    obtain ⟨source, target⟩ := shows_of_mem_edges listed
    exact ⟨return_not_mem derived source plain, return_not_mem derived target plain⟩

end Analysed

def Agree (catalog other : Catalog) (name : String) : Prop :=
  ∃ record record', catalog.get? name = some record ∧ other.get? name = some record' ∧
    record.lineCount = record'.lineCount ∧ record.definingLine = record'.definingLine

section Pairs

variable {settings settings' : AnalysisSettings} {tree tree' : SyntaxTree}
  {analysis other : Analysis}

theorem agree_of_label (derived : Analysis.Derived settings tree analysis)
    (derived' : Analysis.Derived settings' tree' other) {node node' : DiagramNode}
    (shown : Shows analysis.catalog node) (shown' : Shows other.catalog node')
    (same : node.label = node'.label) :
    node'.name = node.name ∧ Agree analysis.catalog other.catalog node.name := by
  obtain ⟨record, found, label⟩ := shown
  obtain ⟨record', found', label'⟩ := shown'
  obtain ⟨names, sizes, places⟩ := FunctionRecord.label_injective (label ▸ label' ▸ same)
  rw [Catalog.name_of_get? derived.catalog found, Catalog.name_of_get? derived'.catalog found']
    at names
  rw [← names] at found'
  exact ⟨names.symm, record, record', found, found', sizes, places⟩

-- An edge of one diagram is found in the other by its labels.
theorem calls_of_labels (derived : Analysis.Derived settings tree analysis)
    (derived' : Analysis.Derived settings' tree' other)
    (same : (Dot.Labels.ofDiagram (ofAnalysis analysis)).edges =
      (Dot.Labels.ofDiagram (ofAnalysis other)).edges)
    {caller callee : String} (calls : analysis.relation.Calls caller callee) :
    other.relation.Calls caller callee ∧ Agree analysis.catalog other.catalog caller ∧
      Agree analysis.catalog other.catalog callee := by
  obtain ⟨edge, member, rfl, rfl⟩ := (calls_iff_edge derived).mp calls
  have listed : (edge.source.label, edge.target.label) ∈
      (Dot.Labels.ofDiagram (ofAnalysis other)).edges := by
    rw [← same]
    exact List.mem_map_of_mem member
  obtain ⟨edge', member', labels⟩ := List.mem_map.mp listed
  obtain ⟨sources, targets⟩ := Prod.mk.inj labels
  have shown := shows_of_mem_edges member
  have shown' := shows_of_mem_edges member'
  obtain ⟨source, sourceAgrees⟩ := agree_of_label derived derived' shown.1 shown'.1 sources.symm
  obtain ⟨target, targetAgrees⟩ := agree_of_label derived derived' shown.2 shown'.2 targets.symm
  exact ⟨(calls_iff_edge derived').mpr ⟨edge', member', source, target⟩, sourceAgrees, targetAgrees⟩

/-- The text of a diagram determines the calls, the roots among the callers, and size and place of
every function that calls or is called; and no two functions share the name of a node. -/
theorem dot_determines (done : Analysis.ofTree settings tree = .ok analysis)
    (done' : Analysis.ofTree settings' tree' = .ok other)
    (plain : ∀ name, analysis.catalog.contains name = true → '\r' ∉ name.toList)
    (plain' : ∀ name, other.catalog.contains name = true → '\r' ∉ name.toList) :
    (Dot.render (ofAnalysis analysis) = Dot.render (ofAnalysis other) →
      analysis.relation = other.relation ∧ analysis.rootsWithCalls = other.rootsWithCalls ∧
      ∀ caller callee, analysis.relation.Calls caller callee →
        Agree analysis.catalog other.catalog caller ∧
        Agree analysis.catalog other.catalog callee) ∧
    ∀ name name' record record', analysis.catalog.get? name = some record →
      analysis.catalog.get? name' = some record' →
      Dot.quoted record.label = Dot.quoted record'.label → name = name' := by
  have derived := Analysis.derived_of_ok done
  have derived' := Analysis.derived_of_ok done'
  refine ⟨fun same => ?_, ?_⟩
  · have labels := congrArg Dot.Labels.edges (Dot.labels_of_render (plain_labels derived plain)
      (plain_labels derived' plain') same)
    have calls : ∀ caller callee, analysis.relation.Calls caller callee ↔
        other.relation.Calls caller callee := fun caller callee =>
      ⟨fun calls => (calls_of_labels derived derived' labels calls).1,
        fun calls => (calls_of_labels derived' derived labels.symm calls).1⟩
    refine ⟨?_, ?_, fun caller callee calls => (calls_of_labels derived derived' labels calls).2⟩
    · exact CallRelation.eq_of_calls (fun _ _ => derived.inhabited) (fun _ _ => derived'.inhabited)
        calls
    · refine NameSet.eq_of_sorted (analysis.roots.sorted.filter _) (other.roots.sorted.filter _)
        fun name => ?_
      simp only [mem_rootsWithCalls_iff derived, mem_rootsWithCalls_iff derived', calls]
  · intro name name' record record' found found' same
    have shown : Shows analysis.catalog ⟨name, record.label⟩ := ⟨record, found, rfl⟩
    have shown' : Shows analysis.catalog ⟨name', record'.label⟩ := ⟨record', found', rfl⟩
    have labels := Dot.quoted_injective (return_not_mem derived shown plain)
      (return_not_mem derived shown' plain) same
    exact (agree_of_label derived derived shown shown' labels).1.symm

end Pairs

def callAlone : SyntaxTree :=
  Sketch.program "function a() \x7b b(); \x7d\nfunction b() \x7b\x7d"
    [Sketch.function "function_declaration" 0 21 [Sketch.call 15],
      Sketch.function "function_declaration" 22 37 []]

def callBeside : SyntaxTree :=
  Sketch.program "function a() \x7b b(); \x7d\nfunction b() \x7b\x7d\nfunction c() \x7b\x7d"
    [Sketch.function "function_declaration" 0 21 [Sketch.call 15],
      Sketch.function "function_declaration" 22 37 [],
      Sketch.function "function_declaration" 38 53 []]

def oneCall : Diagram :=
  let caller := ⟨"a", "a\n1 lines\nline 1"⟩
  { nodes := [caller], edges := [⟨caller, ⟨"b", "b\n1 lines\nline 2"⟩⟩], isolated := [caller] }

theorem callAlone_determined : ∃ analysis other,
    Analysis.ofTree { denylist := ∅ } callAlone = .ok analysis ∧
    Analysis.ofTree { denylist := ∅ } callBeside = .ok other ∧ analysis.catalog ≠ other.catalog ∧
    Dot.render (ofAnalysis analysis) = Dot.render (ofAnalysis other) ∧
    analysis.relation.pairs = [("a", "b")] ∧ analysis.relation = other.relation ∧
    Agree analysis.catalog other.catalog "b" := by
  obtain ⟨analysis, done, shown, names, pairs⟩ :
      ∃ analysis, Analysis.ofTree { denylist := ∅ } callAlone = .ok analysis ∧
        ofAnalysis analysis = oneCall ∧ analysis.catalog.names = ["a", "b"] ∧
        analysis.relation.pairs = [("a", "b")] :=
    ⟨_, rfl, by decide +kernel, by decide +kernel, by decide +kernel⟩
  obtain ⟨other, done', shown', names'⟩ :
      ∃ other, Analysis.ofTree { denylist := ∅ } callBeside = .ok other ∧
        ofAnalysis other = oneCall ∧ other.catalog.names = ["a", "b", "c"] :=
    ⟨_, rfl, by decide +kernel, by decide +kernel⟩
  have differ : analysis.catalog ≠ other.catalog := by
    intro same
    rw [same, names'] at names
    exact absurd names (by decide)
  have same : Dot.render (ofAnalysis analysis) = Dot.render (ofAnalysis other) := by
    rw [shown, shown']
  have calls : analysis.relation.Calls "a" "b" := by
    rw [← CallRelation.mem_pairs_iff, pairs]
    exact List.mem_singleton_self _
  have plain : ∀ name, analysis.catalog.contains name = true → '\r' ∉ name.toList := by
    simp only [← NameMap.mem_names, names]
    decide
  have plain' : ∀ name, other.catalog.contains name = true → '\r' ∉ name.toList := by
    simp only [← NameMap.mem_names, names']
    decide
  obtain ⟨relations, -, agree⟩ := (dot_determines done done' plain plain').1 same
  exact ⟨analysis, other, done, done', differ, same, pairs, relations, (agree "a" "b" calls).2⟩

end Diagram

end CallAtlas
