import CallAtlas.Graph.DeadCode

/-!
The analysis of a source file: its catalog, its call relation, the roots and the
dead functions.
-/

namespace CallAtlas

structure AnalysisSettings where
  denylist : Denylist := Denylist.builtin
  duplicates : DuplicatePolicy := .lastWriterWins
  deadCode : DeadCodePolicy := .neverCalled
  deriving DecidableEq

structure Analysis where
  catalog : Catalog
  relation : CallRelation
  roots : NameSet
  dead : NameSet
  stats : GraphStats
  deriving DecidableEq

namespace Analysis

def ofRelation (policy : DeadCodePolicy) (catalog : Catalog) (relation : CallRelation) : Analysis :=
  let roots := findRoots catalog relation
  let dead := findDead policy catalog relation
  { catalog
    relation
    roots
    dead
    stats :=
      { totalFunctions := catalog.size
        totalEdges := relation.edgeCount
        roots := roots.size
        dead := dead.size } }

/-- Analyses a tree; only the duplicate policy can refuse it. -/
def ofTree (settings : AnalysisSettings) (tree : SyntaxTree) : Except DuplicateName Analysis := do
  let catalog ← Catalog.build settings.duplicates tree
  let usage := CallUsage.ofTree tree catalog settings.denylist
  return ofRelation settings.deadCode catalog usage.relation

def rootsWithCalls (analysis : Analysis) : List String :=
  analysis.roots.toList.filter fun name => !(analysis.relation.callees name).isEmpty

end Analysis

end CallAtlas
