import CallAtlas.Proofs.Tree.Places

/-!
Walks in single moves. The walk goes down, to the side and up, and nothing but the
lack of a move ends it: neither a bound nor a record of what was visited. It ends on
every tree all the same, and what it has visited by then are the places of the tree
in document order (`visits_exact`).
-/

namespace CallAtlas.Cursor

/-- The search for the next subtree, in single moves: to the side if there is a sibling, else up. -/
inductive Climbs : Cursor → Option Cursor → Prop where
  | side {place sibling : Cursor} (next : place.nextSibling? = some sibling) :
      Climbs place (some sibling)
  | up {place parent : Cursor} {found : Option Cursor} (last : place.nextSibling? = none)
      (above : place.parent? = some parent) (climbs : Climbs parent found) : Climbs place found
  | top {place : Cursor} (last : place.nextSibling? = none) (above : place.parent? = none) :
      Climbs place none

/-- A walk in single moves, with what it visits until it ends: down if there is a child, else to
where a climb leads. Nothing bounds it. -/
inductive Visits : Cursor → List Cursor → Prop where
  | down {place child : Cursor} {later : List Cursor} (first : place.firstChild? = some child)
      (visits : Visits child later) : Visits place (place :: later)
  | onward {place next : Cursor} {later : List Cursor} (leaf : place.firstChild? = none)
      (climbs : Climbs place (some next)) (visits : Visits next later) :
      Visits place (place :: later)
  | done {place : Cursor} (leaf : place.firstChild? = none) (climbs : Climbs place none) :
      Visits place [place]

section Loops

variable {root : Node} {place : Cursor} {found : Option Cursor} {visited : List Cursor}

theorem Climbs.eq_climb (climbs : Climbs place found) : found = climb place.node place.above := by
  induction climbs with
  | @side place sibling next =>
      obtain ⟨node, way⟩ := place
      cases way with
      | nil => cases next
      | cons step rest => simp [climb, next]
  | @up place parent found last above climbs ih =>
      obtain ⟨node, way⟩ := place
      cases way with
      | nil => cases above
      | cons step rest =>
          obtain rfl := Option.some.inj above
          simp [climb, last, ih]
  | @top place last above =>
      obtain ⟨node, way⟩ := place
      cases way with
      | nil => rfl
      | cons step rest => cases above

theorem climbs_climb (node : Node) (above : List Step) :
    Climbs ⟨node, above⟩ (climb node above) := by
  induction above generalizing node with
  | nil => exact .top rfl rfl
  | cons step rest ih =>
      rw [climb]
      cases next : nextSibling? ⟨node, step :: rest⟩ with
      | none => exact .up next rfl (ih step.parent)
      | some sibling => exact .side next

theorem advance?_of_leaf (leaf : place.firstChild? = none) (climbs : Climbs place found) :
    place.advance? = found := by
  rw [advance?, leaf, climbs.eq_climb]

theorem Visits.walkFrom_eq (visits : Visits place visited) (bound : Nat) :
    walkFrom (visited.length + bound) place = visited := by
  induction visits with
  | @down place child later first visits ih =>
      rw [List.length_cons, Nat.add_right_comm, walkFrom_succ, advance?, first]
      exact congrArg (place :: ·) ih
  | @onward place next later leaf climbs visits ih =>
      rw [List.length_cons, Nat.add_right_comm, walkFrom_succ, advance?_of_leaf leaf climbs]
      exact congrArg (place :: ·) ih
  | @done place leaf climbs =>
      rw [List.length_singleton, Nat.add_comm, walkFrom_succ, advance?_of_leaf leaf climbs]
      rfl

/-- A bounded walk that does not use up its bound has come to the end. -/
theorem visits_walkFrom {bound : Nat} (free : (walkFrom bound place).length < bound) :
    Visits place (walkFrom bound place) := by
  induction bound generalizing place with
  | zero => simp at free
  | succ bound ih =>
      rw [walkFrom_succ] at free ⊢
      cases down : place.firstChild? with
      | some child =>
          have next : place.advance? = some child := by rw [advance?, down]
          rw [next] at free ⊢
          exact .down down (ih (Nat.lt_of_succ_lt_succ free))
      | none =>
          have climbs := climbs_climb place.node place.above
          rw [advance?_of_leaf down climbs] at free ⊢
          cases led : climb place.node place.above with
          | none => exact .done down (led ▸ climbs)
          | some next =>
              rw [led] at free climbs
              exact .onward down climbs (ih (Nat.lt_of_succ_lt_succ free))

theorem walkFrom_ofRoot (root : Node) (bound : Nat) :
    walkFrom (root.size + bound) (ofRoot root) = preorder root := by
  have whole := walkFrom_size root bound []
  simpa [preorder, ofRoot, climb, resume] using whole

theorem length_preorderOf (parent : Node) (above : List Step) (children : List Node) (index : Nat)
    (held : ∀ child ∈ children, ∀ above, (preorderAt above child).length = child.size) :
    (preorderOf parent above index children).length = Node.sizes children := by
  induction children generalizing index with
  | nil => rfl
  | cons first rest ih =>
      have later := ih (index + 1) fun child member => held child (List.mem_cons_of_mem _ member)
      rw [preorderOf, List.length_append, held first (by simp), later, Node.sizes]

theorem length_preorderAt (node : Node) :
    ∀ above : List Step, (preorderAt above node).length = node.size := by
  induction node using Node.ofChildren with
  | step label children held =>
      intro above
      rw [preorderAt, List.length_cons, length_preorderOf _ above children 0 held, Node.size]

theorem visits_preorder (root : Node) : Visits (ofRoot root) (preorder root) := by
  have bounded := walkFrom_ofRoot root 1
  have free : (walkFrom (root.size + 1) (ofRoot root)).length < root.size + 1 := by
    rw [bounded, preorder, length_preorderAt]
    exact Nat.lt_succ_self _
  exact bounded ▸ visits_walkFrom free

theorem visits_iff : Visits (ofRoot root) visited ↔ visited = preorder root := by
  constructor
  · intro visits
    have here := visits.walkFrom_eq root.size
    rw [Nat.add_comm, walkFrom_ofRoot] at here
    exact here.symm
  · rintro rfl
    exact visits_preorder root

/-- The walk ends by itself on every tree, and what it has visited by then are the places of the
tree, each once, every place before those below it and the trees of its children in their order. -/
theorem visits_exact (root : Node) :
    (∀ visited, Visits (ofRoot root) visited ↔ visited = walk root) ∧
    walk root = preorder root ∧
    (walk root).length = root.size ∧
    (walk root).Nodup ∧
    (∀ place, place ∈ walk root ↔ IsPlace root place) ∧
    (walk root).Pairwise InOrder := by
  have same := walk_eq_preorder root
  refine ⟨?_, same, ?_, walk_nodup root, fun place => mem_walk_iff, ?_⟩
  · intro visited
    rw [visits_iff, same]
  · rw [same, preorder, length_preorderAt]
  · rw [same]
    exact preorderAt_inOrder root []

end Loops

end CallAtlas.Cursor
