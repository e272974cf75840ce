import CallAtlas.Proofs.Diagram.Quoting
import CallAtlas.Proofs.Text.Parts

/-!
Reading diagrams back. A quoted string is read up to its end and its pairs are
resolved, which gives the label back without its carriage returns
(`readQuoted_escape`). A label holds a line feed in no other form, so the
lines of a diagram are told apart, and with them its three parts and the labels of
each (`labels_of_render`).
-/

namespace CallAtlas

namespace Dot

section Quoting

/-- Reads the inside of a quoted string; what is behind its end comes back with it. -/
def readQuoted (text : List Char) : Option (List Char × List Char) := do
  let (inside, behind) ← splitQuoted text
  let label ← unescape? inside
  return (label, behind)

theorem readQuoted_escape (label rest : List Char) :
    readQuoted (escape label ++ '"' :: rest) = some (withoutReturns label, rest) := by
  have writes := writes_escape label
  have split := writes.inside.splitQuoted rest
  have read := writes.unescape?
  rw [readQuoted]
  simp [split, read]

theorem toList_quoted (label : String) :
    (quoted label).toList = '"' :: (escape label.toList ++ ['"']) := by
  simp [quoted, escapeLabel]

def readLabel (text : List Char) : Option (String × List Char) :=
  (readQuoted ((text.dropWhile (· ≠ '"')).drop 1)).map fun (inside, behind) =>
    (String.ofList inside, behind)

theorem readLabel_quoted {label : String} (plain : '\r' ∉ label.toList) (front rest : String)
    (free : '"' ∉ front.toList) :
    readLabel (front ++ quoted label ++ rest).toList = some (label, rest.toList) := by
  have whole : withoutReturns label.toList = label.toList := by
    refine List.filter_eq_self.mpr fun c member => decide_eq_true ?_
    rintro rfl
    exact plain member
  have inside := readQuoted_escape label.toList rest.toList
  rw [whole] at inside
  have skipped : ∀ c ∈ front.toList, decide (c ≠ '"') = true := by
    intro c member
    refine decide_eq_true ?_
    rintro rfl
    exact free member
  rw [readLabel, String.toList_append, String.toList_append, toList_quoted, List.append_assoc,
    List.dropWhile_append_of_pos skipped]
  simp [inside]

theorem quoted_injective {label other : String} (plain : '\r' ∉ label.toList)
    (plain' : '\r' ∉ other.toList) (same : quoted label = quoted other) : label = other := by
  have read := readLabel_quoted plain "" "" (by decide)
  rw [same, readLabel_quoted plain' "" "" (by decide)] at read
  exact (Prod.mk.inj (Option.some.inj read)).1.symm

def firstLabel (line : List Char) : Option String :=
  (readLabel line).map Prod.fst

theorem firstLabel_quoted {label : String} (plain : '\r' ∉ label.toList) (rest : String) :
    firstLabel ("  " ++ quoted label ++ rest).toList = some label := by
  rw [firstLabel, readLabel_quoted plain "  " rest (by decide)]
  rfl

end Quoting

section Lines

def nodeLine (label : String) : String :=
  "  " ++ quoted label ++ ";"

def isolatedLine (label : String) : String :=
  "  " ++ quoted label ++ " [fillcolor=gold];"

def edgeLine (labels : String × String) : String :=
  "  " ++ quoted labels.1 ++ (" -> " ++ quoted labels.2 ++ ";")

def readLabels (line : List Char) : Option (String × String) := do
  let (source, behind) ← readLabel line
  let (target, _) ← readLabel behind
  return (source, target)

theorem readLabels_edgeLine {labels : String × String} (plain : '\r' ∉ labels.1.toList)
    (plain' : '\r' ∉ labels.2.toList) : readLabels (edgeLine labels).toList = some labels := by
  have source := readLabel_quoted plain "  " (" -> " ++ quoted labels.2 ++ ";") (by decide)
  have target := readLabel_quoted plain' " -> " ";" (by decide)
  rw [readLabels, edgeLine, source]
  simp only [Option.bind_eq_bind, Option.bind_some, target]
  rfl

@[ext] structure Labels where
  nodes : List String
  isolated : List String
  edges : List (String × String)

def Labels.ofDiagram (diagram : Diagram) : Labels where
  nodes := diagram.nodes.map DiagramNode.label
  isolated := diagram.isolated.map DiagramNode.label
  edges := diagram.edges.map fun edge => (edge.source.label, edge.target.label)

def header : List String :=
  ["digraph callmap \x7b",
    "  rankdir=LR;",
    "  node [shape=box, style=filled, fillcolor=lightblue, fontname=\"JetBrains Mono\"];",
    ""]

def Labels.edgeLines (labels : Labels) : List String :=
  labels.edges.map edgeLine ++ ["\x7d"]

def Labels.isolatedLines (labels : Labels) : List String :=
  labels.isolated.map isolatedLine

/-- The lines behind those of the nodes; isolated nodes have a part of their own. -/
def Labels.later (labels : Labels) : List String :=
  if labels.isolated = [] then labels.edgeLines
  else labels.isolatedLines ++ "" :: labels.edgeLines

theorem lines_eq (diagram : Diagram) : lines diagram = header ++
    ((Labels.ofDiagram diagram).nodes.map nodeLine ++ "" :: (Labels.ofDiagram diagram).later) := by
  obtain ⟨nodes, edges, isolated⟩ := diagram
  cases isolated <;>
    simp [lines, header, Labels.later, Labels.ofDiagram, Labels.edgeLines, Labels.isolatedLines,
      nodeLine, isolatedLine, edgeLine, Function.comp_def, String.append_assoc]

theorem toList_render (diagram : Diagram) :
    (render diagram).toList = Text.unlines ((lines diagram).map String.toList) := by
  simp [render, Text.unlines, String.toList_join, List.flatMap_map]

theorem lineFeed_not_mem_quoted (label : String) : '\n' ∉ (quoted label).toList := by
  simp [toList_quoted, lineFeed_not_mem_escape]

theorem lineFeed_not_mem_lines (diagram : Diagram) :
    ∀ line ∈ (lines diagram).map String.toList, '\n' ∉ line := by
  have free := lineFeed_not_mem_quoted
  have first : ∀ line ∈ header, '\n' ∉ line.toList := by decide
  have edges : ∀ line ∈ (Labels.ofDiagram diagram).edgeLines, '\n' ∉ line.toList := by
    intro line member
    rcases List.mem_append.mp member with listed | last
    · obtain ⟨labels, -, rfl⟩ := List.mem_map.mp listed
      simp [edgeLine, free]
    · rw [List.mem_singleton.mp last]
      decide
  have isolated : ∀ line ∈ (Labels.ofDiagram diagram).isolatedLines, '\n' ∉ line.toList := by
    intro line member
    obtain ⟨label, -, rfl⟩ := List.mem_map.mp member
    simp [isolatedLine, free]
  intro text member
  obtain ⟨line, listed, rfl⟩ := List.mem_map.mp member
  rw [lines_eq, List.mem_append, List.mem_append, List.mem_cons, Labels.later] at listed
  rcases listed with early | node | rfl | later
  · exact first line early
  · obtain ⟨label, -, rfl⟩ := List.mem_map.mp node
    simp [nodeLine, free]
  · simp
  · split at later
    · exact edges line later
    · rw [List.mem_append, List.mem_cons] at later
      rcases later with listed | rfl | listed
      · exact isolated line listed
      · simp
      · exact edges line listed

theorem Labels.later_unique {labels other : Labels} (same : labels.later = other.later) :
    labels.isolatedLines = other.isolatedLines ∧ labels.edgeLines = other.edgeLines := by
  have isolated := Text.empty_not_mem_map isolatedLine (by simp [isolatedLine])
  have edges : ∀ labels : Labels, "" ∉ labels.edgeLines := by
    intro labels member
    rcases List.mem_append.mp member with listed | last
    · exact Text.empty_not_mem_map edgeLine (by simp [edgeLine]) labels.edges listed
    · simp at last
  -- With isolated nodes there is one empty line more.
  by_cases none : labels.isolated = [] <;> by_cases none' : other.isolated = []
  · rw [later, if_pos none, later, if_pos none'] at same
    exact ⟨by rw [isolatedLines, isolatedLines, none, none'], same⟩
  · rw [later, if_pos none, later, if_neg none'] at same
    exact absurd (by simp [same]) (edges labels)
  · rw [later, if_neg none, later, if_pos none'] at same
    exact absurd (by simp [← same]) (edges other)
  · rw [later, if_neg none, later, if_neg none'] at same
    exact Text.parts_unique (isolated labels.isolated) (isolated other.isolated) same

theorem parts_of_render {diagram other : Diagram} (same : render diagram = render other) :
    (Labels.ofDiagram diagram).nodes.map nodeLine = (Labels.ofDiagram other).nodes.map nodeLine ∧
      (Labels.ofDiagram diagram).isolatedLines = (Labels.ofDiagram other).isolatedLines ∧
      (Labels.ofDiagram diagram).edgeLines = (Labels.ofDiagram other).edgeLines := by
  have nodes := Text.empty_not_mem_map nodeLine (by simp [nodeLine])
  have texts := congrArg String.toList same
  rw [toList_render, toList_render] at texts
  have lists := Text.unlines_injective (lineFeed_not_mem_lines diagram)
    (lineFeed_not_mem_lines other) texts
  have all := List.map_injective_iff.mpr (fun _ _ => String.toList_injective) lists
  rw [lines_eq, lines_eq] at all
  obtain ⟨first, rest⟩ := Text.parts_unique (nodes _) (nodes _) (List.append_cancel_left all)
  exact ⟨first, Labels.later_unique rest⟩

def Labels.Plain (labels : Labels) : Prop :=
  (∀ label ∈ labels.nodes, '\r' ∉ label.toList) ∧ (∀ label ∈ labels.isolated, '\r' ∉ label.toList) ∧
    ∀ edge ∈ labels.edges, '\r' ∉ edge.1.toList ∧ '\r' ∉ edge.2.toList

-- A list of lines is a list of labels if each label can be read back from its line.
theorem eq_of_lines {α : Type} {line : α → String} (read : List Char → Option α)
    {items items' : List α} (back : ∀ item ∈ items, read (line item).toList = some item)
    (back' : ∀ item ∈ items', read (line item).toList = some item)
    (same : items.map line = items'.map line) : items = items' := by
  have reading : ∀ list : List α, (∀ item ∈ list, read (line item).toList = some item) →
      (list.map line).map (fun line => read line.toList) = list.map some := by
    intro list back
    rw [List.map_map]
    exact List.map_congr_left back
  have := congrArg (List.map fun line => read line.toList) same
  rw [reading items back, reading items' back'] at this
  exact List.map_injective_iff.mpr (fun _ _ => Option.some.inj) this

theorem labels_of_render {diagram other : Diagram} (plain : (Labels.ofDiagram diagram).Plain)
    (plain' : (Labels.ofDiagram other).Plain) (same : render diagram = render other) :
    Labels.ofDiagram diagram = Labels.ofDiagram other := by
  obtain ⟨nodes, isolated, edges⟩ := parts_of_render same
  obtain ⟨plainNodes, plainIsolated, plainEdges⟩ := plain
  obtain ⟨plainNodes', plainIsolated', plainEdges'⟩ := plain'
  apply Labels.ext
  · exact eq_of_lines firstLabel
      (fun label member => firstLabel_quoted (plainNodes label member) ";")
      (fun label member => firstLabel_quoted (plainNodes' label member) ";") nodes
  · exact eq_of_lines firstLabel
      (fun label member => firstLabel_quoted (plainIsolated label member) " [fillcolor=gold];")
      (fun label member => firstLabel_quoted (plainIsolated' label member) " [fillcolor=gold];")
      isolated
  · exact eq_of_lines readLabels
      (fun edge member => readLabels_edgeLine (plainEdges edge member).1 (plainEdges edge member).2)
      (fun edge member => readLabels_edgeLine (plainEdges' edge member).1 (plainEdges' edge member).2)
      (List.append_cancel_right edges)

end Lines

end Dot

end CallAtlas
