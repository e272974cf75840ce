import CallAtlas.Tree.Node

/-!
A cursor is a place in a tree: a node and the way to it from the root. It moves
to the first child, the next sibling and the parent. The walk visits every node
by these moves; `walk_eq_preorder` says that it lists the nodes in document order.
-/

namespace CallAtlas

structure Step where
  parent : Node
  index : Nat

structure Cursor where
  node : Node
  above : List Step

namespace Cursor

def ofRoot (root : Node) : Cursor := ⟨root, []⟩

def kind (cursor : Cursor) : String := cursor.node.kind

def span (cursor : Cursor) : Text.Span := cursor.node.span

def child? (cursor : Cursor) (index : Nat) : Option Cursor :=
  cursor.node.children[index]?.map (⟨·, ⟨cursor.node, index⟩ :: cursor.above⟩)

def firstChild? (cursor : Cursor) : Option Cursor :=
  cursor.child? 0

def parent? (cursor : Cursor) : Option Cursor :=
  match cursor.above with
  | [] => none
  | step :: rest => some ⟨step.parent, rest⟩

def nextSibling? (cursor : Cursor) : Option Cursor :=
  match cursor.above with
  | [] => none
  | step :: rest => child? ⟨step.parent, rest⟩ (step.index + 1)

def previousSibling? (cursor : Cursor) : Option Cursor :=
  match cursor.above with
  | [] => none
  | step :: rest =>
      match step.index with
      | 0 => none
      | index + 1 => child? ⟨step.parent, rest⟩ index

/-- Climbs until there is a next sibling; the way up shrinks with every climb. -/
def climb (node : Node) : List Step → Option Cursor
  | [] => none
  | step :: rest =>
      match nextSibling? ⟨node, step :: rest⟩ with
      | some sibling => some sibling
      | none => climb step.parent rest

/-- The move of the walk: down if there is a child, else to the side, climbing as
far as it takes. -/
def advance? (cursor : Cursor) : Option Cursor :=
  match cursor.firstChild? with
  | some child => some child
  | none => climb cursor.node cursor.above

def walkFrom : Nat → Cursor → List Cursor
  | 0, _ => []
  | bound + 1, cursor =>
      cursor :: match cursor.advance? with
        | none => []
        | some next => walkFrom bound next

def walk (root : Node) : List Cursor :=
  walkFrom root.size (ofRoot root)

mutual

/-- The node, then its children's trees from left to right. -/
def preorderAt (above : List Step) : Node → List Cursor
  | .branch label children =>
      ⟨.branch label children, above⟩ :: preorderOf (.branch label children) above 0 children

def preorderOf (parent : Node) (above : List Step) (index : Nat) : List Node → List Cursor
  | [] => []
  | child :: rest =>
      preorderAt (⟨parent, index⟩ :: above) child ++ preorderOf parent above (index + 1) rest

end

def preorder (root : Node) : List Cursor :=
  preorderAt [] root

def resume (bound : Nat) : Option Cursor → List Cursor
  | none => []
  | some cursor => walkFrom bound cursor

theorem walkFrom_succ (bound : Nat) (cursor : Cursor) :
    walkFrom (bound + 1) cursor = cursor :: resume bound cursor.advance? := by
  rw [walkFrom]
  cases cursor.advance? <;> rfl

theorem walkFrom_children (parent : Node) (above : List Step) (bound : Nat)
    (rest : List Node) (child : Node) (index : Nat)
    (split : parent.children.drop index = child :: rest)
    (held : ∀ node ∈ child :: rest, ∀ bound above, walkFrom (node.size + bound) ⟨node, above⟩ =
      preorderAt above node ++ resume bound (climb node above)) :
    walkFrom (Node.sizes (child :: rest) + bound) ⟨child, ⟨parent, index⟩ :: above⟩ =
      preorderOf parent above index (child :: rest) ++ resume bound (climb parent above) := by
  induction rest generalizing child index with
  | nil =>
      have last : parent.children[index + 1]? = none := by
        have := congrArg (·[1]?) split
        simpa [List.getElem?_drop] using this
      have here := held child (by simp) bound (⟨parent, index⟩ :: above)
      simp only [Node.sizes, Nat.add_zero, preorderOf, List.append_nil]
      rw [here, climb]
      simp [nextSibling?, child?, last]
  | cons next rest ih =>
      have following : parent.children[index + 1]? = some next := by
        have := congrArg (·[1]?) split
        simpa [List.getElem?_drop] using this
      have split' : parent.children.drop (index + 1) = next :: rest := by
        rw [← List.drop_drop, split]
        rfl
      have here := held child (by simp) (Node.sizes (next :: rest) + bound) (⟨parent, index⟩ :: above)
      have later := ih next (index + 1) split'
        (fun node member => held node (List.mem_cons_of_mem _ member))
      rw [show Node.sizes (child :: next :: rest) + bound =
        child.size + (Node.sizes (next :: rest) + bound) by simp [Node.sizes]; omega]
      have side : climb child (⟨parent, index⟩ :: above) =
          some ⟨next, ⟨parent, index + 1⟩ :: above⟩ := by
        simp [climb, nextSibling?, child?, following]
      conv => rhs; rw [preorderOf]
      rw [here, side, List.append_assoc, ← later]
      rfl

theorem walkFrom_size (node : Node) : ∀ (bound : Nat) (above : List Step),
    walkFrom (node.size + bound) ⟨node, above⟩ =
      preorderAt above node ++ resume bound (climb node above) := by
  induction node using Node.ofChildren with
  | step label children held =>
      intro bound above
      have one : (Node.branch label children).size + bound = (Node.sizes children + bound) + 1 := by
        simp [Node.size]
        omega
      rw [one, walkFrom_succ, preorderAt]
      cases children with
      | nil => simp [advance?, firstChild?, child?, Node.children, Node.sizes, preorderOf]
      | cons child rest =>
          have down : advance? ⟨.branch label (child :: rest), above⟩ =
              some ⟨child, ⟨.branch label (child :: rest), 0⟩ :: above⟩ := by
            simp [advance?, firstChild?, child?, Node.children]
          have below := walkFrom_children (.branch label (child :: rest)) above bound rest child 0 rfl held
          rw [down, resume, below, List.cons_append]

/-- The walk lists every node once, in document order. -/
theorem walk_eq_preorder (root : Node) : walk root = preorder root := by
  have all := walkFrom_size root 0 []
  simpa [walk, preorder, ofRoot, climb, resume] using all

end Cursor

end CallAtlas
