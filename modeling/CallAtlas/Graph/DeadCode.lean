import CallAtlas.Graph.Reachability

/-!
Roots and dead functions. A root is a catalogued name that nobody calls. Either
the roots themselves count as dead, or the names that no root reaches.
-/

namespace CallAtlas

inductive DeadCodePolicy where
  | neverCalled
  | unreachableFromRoots
  deriving DecidableEq, Repr

def findRoots (catalog : Catalog) (relation : CallRelation) : NameSet :=
  catalog.nameSet.filter fun name => !relation.called.contains name

def findDead (policy : DeadCodePolicy) (catalog : Catalog) (relation : CallRelation) : NameSet :=
  match policy with
  | .neverCalled => findRoots catalog relation
  | .unreachableFromRoots =>
      let alive := (CallGraph.ofRelation catalog relation).reachable
        (findRoots catalog relation).toList
      catalog.nameSet.filter fun name => !alive.contains name

structure GraphStats where
  totalFunctions : Nat
  totalEdges : Nat
  roots : Nat
  dead : Nat
  deriving DecidableEq, Repr

end CallAtlas
