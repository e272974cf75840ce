import CallAtlas.Call.Relation

/-!
Call graphs and reachability. The nodes of a graph are the catalogued names and
its edges the pairs of the call relation between them. Reachability is a worklist
search; every name enters the list at most once, so as many rounds as there are
nodes are enough.
-/

namespace CallAtlas

structure CallGraph where
  nodes : List String
  edges : List (String × String)

namespace CallGraph

/-- The graph of a catalog and a relation; pairs with a name outside the catalog are left out. -/
def ofRelation (catalog : Catalog) (relation : CallRelation) : CallGraph where
  nodes := catalog.names
  edges := relation.pairs.filter fun (caller, callee) =>
    catalog.contains caller && catalog.contains callee

def successors (graph : CallGraph) (name : String) : List String :=
  (graph.edges.filter (·.1 = name)).map (·.2)

def discover (seen : List String) : List String → List String × List String
  | [] => (seen, [])
  | name :: rest =>
      if seen.contains name then discover seen rest
      else
        let (all, fresh) := discover (name :: seen) rest
        (all, name :: fresh)

/-- One round takes the first name of the worklist and appends its unseen successors. -/
def search (graph : CallGraph) : Nat → List String → List String → List String
  | 0, _, seen => seen
  | _ + 1, [], seen => seen
  | rounds + 1, name :: queue, seen =>
      let (all, fresh) := discover seen (graph.successors name)
      search graph rounds (queue ++ fresh) all

def reachable (graph : CallGraph) (starts : List String) : List String :=
  let (seen, queue) := discover [] (starts.filter (graph.nodes.contains ·))
  search graph graph.nodes.length queue seen

end CallGraph

end CallAtlas
