import CallAtlas.Tree.Node

/-!
Outlines: a tree written as the list of its nodes in document order, each with
its depth. A node's children are the nodes one level deeper that follow it before
the next node of its own level or above.
-/

namespace CallAtlas

structure OutlineItem where
  depth : Nat
  label : Label

namespace Outline

def assemble : List OutlineItem → List (Nat × Node)
  | [] => []
  | item :: rest =>
      let later := assemble rest
      let deeper := fun (tree : Nat × Node) => decide (item.depth < tree.1)
      (item.depth, .branch item.label ((later.takeWhile deeper).map (·.2))) ::
        later.dropWhile deeper

def toNode? (items : List OutlineItem) : Option Node :=
  match assemble items with
  | [(0, root)] => some root
  | _ => none

mutual

def ofNode (depth : Nat) : Node → List OutlineItem
  | .branch label children => ⟨depth, label⟩ :: ofNodes (depth + 1) children

def ofNodes (depth : Nat) : List Node → List OutlineItem
  | [] => []
  | child :: rest => ofNode depth child ++ ofNodes depth rest

end

end Outline

end CallAtlas
