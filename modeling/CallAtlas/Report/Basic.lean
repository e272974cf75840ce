import CallAtlas.Graph.Analysis
import CallAtlas.Report.Json

/-!
Reports of an analysis, as plain text and as JSON. Functions are listed by size,
the largest first and equal ones by name. Only roots that call something are
listed, and the dead functions have a section of their own in the plain text if
they are not the roots.
-/

namespace CallAtlas.Report

/-- Larger functions go first; functions of one size go by name. -/
def goesBefore (first second : FunctionRecord) : Bool :=
  second.lineCount < first.lineCount ||
    (first.lineCount == second.lineCount && decide (first.name ≤ second.name))

def bySize (analysis : Analysis) : List FunctionRecord :=
  analysis.catalog.values.mergeSort goesBefore

def functionLine (record : FunctionRecord) : String :=
  s!"- {record.name}: {record.lineCount} lines (line {record.definingLine})"

def item (name : String) : String :=
  "- " ++ name

def callLine (entry : String × NameSet) : String :=
  "- " ++ entry.1 ++ " -> " ++ ", ".intercalate entry.2.toList

def plainLines (analysis : Analysis) : List String :=
  if analysis.catalog.isEmpty then ["No functions found."]
  else
    let roots := analysis.rootsWithCalls
    s!"FUNCTIONS ({analysis.catalog.size}):" :: (bySize analysis).map functionLine ++
    "" :: s!"ROOTS ({roots.length}):" :: roots.map item ++
    "" :: "CALLS:" ::
      (if analysis.relation.isEmpty then ["(none)"] else []) ++
      analysis.relation.toList.map callLine ++
    (if analysis.dead = analysis.roots then []
      else "" :: s!"DEAD ({analysis.dead.size}):" :: analysis.dead.toList.map item)

def plain (analysis : Analysis) : String :=
  String.join ((plainLines analysis).map (· ++ "\n"))

def names (list : List String) : Json :=
  .array (list.map Json.string)

def stats (stats : GraphStats) : Json :=
  .object
    [("dead", .number stats.dead),
      ("roots", .number stats.roots),
      ("total_edges", .number stats.totalEdges),
      ("total_functions", .number stats.totalFunctions)]

def functionEntry (record : FunctionRecord) : Json :=
  .object
    [("defining_line", .number record.definingLine),
      ("line_count", .number record.lineCount),
      ("name", .string record.name)]

/-- The report as a JSON value; the members of its objects are in increasing order. -/
def json (analysis : Analysis) : Json :=
  .object
    [("calls", .object (analysis.relation.toList.map fun (caller, callees) =>
        (caller, names callees.toList))),
      ("dead", names analysis.dead.toList),
      ("functions", .array ((bySize analysis).map functionEntry)),
      ("roots", names analysis.rootsWithCalls),
      ("stats", stats analysis.stats)]

end CallAtlas.Report
