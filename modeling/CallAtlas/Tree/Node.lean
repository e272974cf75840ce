import CallAtlas.Text.Bytes

/-!
Concrete parse trees of a source file. A node has a kind, the field under which
its parent holds it, the bytes of the source that it covers and its children in
document order, keywords and punctuation included.
-/

namespace CallAtlas

open Text (Span)

structure Label where
  kind : String
  /-- Rules of the grammar are named; keywords and punctuation are not. -/
  named : Bool
  /-- The parser put the node in to repair the text; it covers no bytes. -/
  missing : Bool
  /-- The node covers text that the grammar has no place for. -/
  faulty : Bool
  field : Option String
  span : Span
  deriving DecidableEq, Repr

inductive Node where
  | branch (label : Label) (children : List Node)
  deriving Repr

namespace Node

def label : Node → Label
  | branch label _ => label

def children : Node → List Node
  | branch _ children => children

def kind (node : Node) : String := node.label.kind

def named (node : Node) : Bool := node.label.named

def field (node : Node) : Option String := node.label.field

def span (node : Node) : Span := node.label.span

def isUnder (field : String) (node : Node) : Bool :=
  node.field == some field

def childUnder? (node : Node) (field : String) : Option Node :=
  node.children.find? (isUnder field)

/-- To show a property of every node, show it of a node whose children have it. -/
theorem ofChildren {motive : Node → Prop}
    (step : ∀ label children, (∀ child ∈ children, motive child) → motive (branch label children))
    (node : Node) : motive node :=
  @Node.rec motive (fun children => ∀ child ∈ children, motive child)
    (fun label children held => step label children held)
    (fun _ absent => absurd absent List.not_mem_nil)
    (fun first rest here later child member => by
      rcases List.mem_cons.mp member with rfl | found
      · exact here
      · exact later child found)
    node

mutual

def size : Node → Nat
  | branch _ children => sizes children + 1

def sizes : List Node → Nat
  | [] => 0
  | child :: rest => size child + sizes rest

end

end Node

end CallAtlas
