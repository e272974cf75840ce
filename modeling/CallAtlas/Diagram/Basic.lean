import CallAtlas.Graph.Analysis

/-!
The picture of an analysis: a node for each caller, an edge for each pair of the
call relation, and the callers that nobody calls once more on their own, to be
set off. Functions without calls in either direction do not appear.
-/

namespace CallAtlas

structure DiagramNode where
  name : String
  label : String
  deriving DecidableEq, Repr

structure DiagramEdge where
  source : DiagramNode
  target : DiagramNode
  deriving DecidableEq, Repr

structure Diagram where
  nodes : List DiagramNode := []
  edges : List DiagramEdge := []
  isolated : List DiagramNode := []
  deriving DecidableEq, Repr

namespace FunctionRecord

def label (record : FunctionRecord) : String :=
  s!"{record.name}\n{record.lineCount} lines\nline {record.definingLine}"

end FunctionRecord

namespace Diagram

def isEmpty (diagram : Diagram) : Bool :=
  diagram.nodes.isEmpty && diagram.edges.isEmpty && diagram.isolated.isEmpty

def node? (catalog : Catalog) (name : String) : Option DiagramNode :=
  (catalog.get? name).map fun record => ⟨name, record.label⟩

def callers (analysis : Analysis) : List (DiagramNode × NameSet) :=
  analysis.relation.toList.filterMap fun (caller, callees) =>
    if callees.isEmpty then none else (node? analysis.catalog caller).map (·, callees)

def ofAnalysis (analysis : Analysis) : Diagram where
  nodes := (callers analysis).map (·.1)
  edges := (callers analysis).flatMap fun (source, callees) =>
    (callees.toList.filterMap (node? analysis.catalog)).map (⟨source, ·⟩)
  isolated := ((callers analysis).map (·.1)).filter fun node => analysis.roots.contains node.name

end Diagram

end CallAtlas
