import CallAtlas.Proofs.Text.Offsets
import CallAtlas.Proofs.Tree.Places
import CallAtlas.Tree.Checked

/-!
Well-formed trees. The ranges of a node's children lie inside of its own and
follow each other, and all ranges stand between characters of the source. So the
ranges of two nodes are one inside of the other if one node stands below the
other, and else they are apart; and the leaves, in document order, stand one behind
the other.
-/

namespace CallAtlas

open Text (Span IsBoundary)

/-- The ranges of the children are inside of the node's own and follow each other. -/
structure Node.Nests (node : Node) : Prop where
  ordered : node.span.start ≤ node.span.stop
  inside : ∀ child ∈ node.children,
    node.span.start ≤ child.span.start ∧ child.span.stop ≤ node.span.stop
  apart : node.children.Pairwise fun first second => first.span.stop ≤ second.span.start

instance (node : Node) : Decidable node.Nests :=
  decidable_of_iff
    (node.span.start ≤ node.span.stop ∧
      (∀ child ∈ node.children,
        node.span.start ≤ child.span.start ∧ child.span.stop ≤ node.span.stop) ∧
      node.children.Pairwise fun first second => first.span.stop ≤ second.span.start)
    ⟨fun ⟨ordered, inside, apart⟩ => ⟨ordered, inside, apart⟩,
      fun ⟨ordered, inside, apart⟩ => ⟨ordered, inside, apart⟩⟩

namespace Cursor

def Related (first second : Cursor) : Prop :=
  LeadsTo first second ∨ LeadsTo second first

section Ways

variable {root : Node} {place below other parent child : Cursor}

theorem IsPlace.leadsTo (isPlace : IsPlace root place) (leads : LeadsTo place below) :
    IsPlace root below :=
  Relation.ReflTransGen.trans isPlace leads

theorem IsPlace.of_holds (isPlace : IsPlace root parent) (held : Holds parent child) :
    IsPlace root child :=
  isPlace.leadsTo (.single held)

theorem IsPlace.cases (isPlace : IsPlace root place) :
    place = ofRoot root ∨ ∃ parent, IsPlace root parent ∧ Holds parent place := by
  rcases Relation.ReflTransGen.cases_tail isPlace with same | ⟨parent, above, held⟩
  · exact .inl same
  · exact .inr ⟨parent, above, held⟩

theorem parent?_of_holds (held : Holds parent child) : child.parent? = some parent := by
  obtain ⟨index, -, way⟩ := holds_iff.mp held
  rw [parent?, way]

theorem parent?_eq_some_iff (isPlace : IsPlace root child) :
    child.parent? = some parent ↔ Holds parent child := by
  constructor
  · intro found
    rcases isPlace.cases with rfl | ⟨other, -, held⟩
    · cases found
    · rw [parent?_of_holds held] at found
      exact Option.some.inj found ▸ held
  · exact parent?_of_holds

theorem IsPlace.of_child (isPlace : IsPlace root child) (held : Holds parent child) :
    IsPlace root parent := by
  rcases isPlace.cases with rfl | ⟨other, above, held'⟩
  · exact absurd held (not_holds_ofRoot root parent)
  · exact parent_unique held held' ▸ above

theorem IsPlace.of_leadsTo (isPlace : IsPlace root below) (leads : LeadsTo place below) :
    IsPlace root place := by
  induction leads with
  | refl => exact isPlace
  | tail leads held ih => exact ih (isPlace.of_child held)

theorem related_of_leadsTo (leads : LeadsTo place below) (leads' : LeadsTo other below) :
    Related place other := by
  have unique : Relator.RightUnique (Function.swap Holds) :=
    fun child parent other held held' => (parent_unique held held').symm
  have total := Relation.ReflTransGen.total_of_right_unique unique
    (Relation.reflTransGen_swap.mpr leads) (Relation.reflTransGen_swap.mpr leads')
  exact total.symm.imp Relation.reflTransGen_swap.mp Relation.reflTransGen_swap.mp

theorem LeadsTo.eq_or_child (leads : LeadsTo place below) :
    below = place ∨ ∃ child, Holds place child ∧ LeadsTo child below := by
  rcases Relation.ReflTransGen.cases_head leads with same | through
  · exact .inl same.symm
  · exact .inr through

theorem LeadsTo.of_holds (leads : LeadsTo place child) (held : Holds parent child) :
    place = child ∨ LeadsTo place parent := by
  rcases Relation.ReflTransGen.cases_tail leads with same | ⟨other, above, held'⟩
  · exact .inl same.symm
  · exact .inr (parent_unique held held' ▸ above)

theorem not_holds_of_leaf (leaf : place.node.children = []) (child : Cursor) :
    ¬ Holds place child := by
  intro held
  obtain ⟨index, found, -⟩ := holds_iff.mp held
  rw [leaf] at found
  cases found

theorem LeadsTo.eq_of_leaf (leads : LeadsTo place below) (leaf : place.node.children = []) :
    below = place := by
  rcases leads.eq_or_child with same | ⟨child, held, -⟩
  · exact same
  · exact absurd held (not_holds_of_leaf leaf child)

theorem LeadsTo.eq_ofRoot (leads : LeadsTo place (ofRoot root)) : place = ofRoot root := by
  rcases Relation.ReflTransGen.cases_tail leads with same | ⟨other, -, held⟩
  · exact same.symm
  · exact absurd held (not_holds_ofRoot root other)

theorem LeadsTo.antisymm (leads : LeadsTo place other) (back : LeadsTo other place) :
    place = other := by
  rcases Relation.reflTransGen_iff_eq_or_transGen.mp leads with same | encloses
  · exact same.symm
  · exact absurd (encloses.trans_left back) (not_encloses_self place)

end Ways

def Follows (parent first second : Cursor) : Prop :=
  ∃ index, parent.child? index = some first ∧ parent.child? (index + 1) = some second

section Siblings

variable {parent child first second : Cursor}

theorem Follows.holds_first (follows : Follows parent first second) : Holds parent first := by
  obtain ⟨index, found, -⟩ := follows
  exact ⟨index, found⟩

theorem Follows.holds_second (follows : Follows parent first second) : Holds parent second := by
  obtain ⟨index, -, found⟩ := follows
  exact ⟨index + 1, found⟩

theorem above_of_child? {index : Nat} (found : parent.child? index = some child) :
    child.above = ⟨parent.node, index⟩ :: parent.above := by
  obtain ⟨node, -, rfl⟩ := Option.map_eq_some_iff.mp found
  rfl

theorem index_of_child? {index index' : Nat} (found : parent.child? index = some child)
    (found' : parent.child? index' = some child) : index = index' := by
  have way := above_of_child? found'
  rw [above_of_child? found] at way
  simpa using way

theorem Follows.second_unique {other : Cursor} (follows : Follows parent first second)
    (follows' : Follows parent first other) : second = other := by
  obtain ⟨index, found, next⟩ := follows
  obtain ⟨index', found', next'⟩ := follows'
  rw [index_of_child? found found', next'] at next
  exact (Option.some.inj next).symm

theorem Follows.first_unique {other : Cursor} (follows : Follows parent first second)
    (follows' : Follows parent other second) : first = other := by
  obtain ⟨index, found, next⟩ := follows
  obtain ⟨index', found', next'⟩ := follows'
  have same := index_of_child? next next'
  rw [show index = index' by omega, found'] at found
  exact (Option.some.inj found).symm

theorem nextSibling?_eq_some_iff (held : Holds parent child) :
    child.nextSibling? = some second ↔ Follows parent child second := by
  obtain ⟨index, found⟩ := held
  rw [nextSibling?, above_of_child? found]
  constructor
  · intro next
    exact ⟨index, found, next⟩
  · rintro ⟨index', found', next⟩
    obtain rfl := index_of_child? found found'
    exact next

theorem previousSibling?_eq_some_iff (held : Holds parent child) :
    child.previousSibling? = some first ↔ Follows parent first child := by
  obtain ⟨index, found⟩ := held
  rw [previousSibling?, above_of_child? found]
  constructor
  · intro previous
    cases index with
    | zero => cases previous
    | succ index => exact ⟨index, previous, found⟩
  · rintro ⟨index', previous, found'⟩
    obtain rfl := index_of_child? found found'
    exact previous

def children (place : Cursor) : List Cursor :=
  place.node.children.mapIdx fun index node => ⟨node, ⟨place.node, index⟩ :: place.above⟩

theorem children_getElem? (parent : Cursor) (index : Nat) :
    parent.children[index]? = parent.child? index := by
  simp [children, child?]

theorem map_node_children (parent : Cursor) :
    parent.children.map Cursor.node = parent.node.children := by
  refine List.ext_getElem? fun index => ?_
  rw [List.getElem?_map, children_getElem?, child?, Option.map_map]
  exact Option.map_id'

theorem mem_children_iff : child ∈ parent.children ↔ Holds parent child := by
  simp only [List.mem_iff_getElem?, children_getElem?]
  rfl

theorem children_nodup (parent : Cursor) : parent.children.Nodup := by
  rw [List.nodup_iff_getElem?_ne_getElem?]
  intro index later order _ same
  rw [children_getElem?, children_getElem?] at same
  cases found : parent.child? index with
  | none => simp_all [child?, children]
  | some child =>
      have := index_of_child? found (same ▸ found)
      omega

theorem Follows.split (follows : Follows parent first second) :
    ∃ front back, parent.children = front ++ first :: second :: back := by
  obtain ⟨index, found, next⟩ := follows
  rw [← children_getElem?] at found next
  obtain ⟨bound, rfl⟩ := List.getElem?_eq_some_iff.mp found
  obtain ⟨bound', rfl⟩ := List.getElem?_eq_some_iff.mp next
  refine ⟨parent.children.take index, parent.children.drop (index + 2), ?_⟩
  simp

end Siblings

end Cursor

namespace SyntaxTree

structure WellFormed (tree : SyntaxTree) : Prop where
  nests : ∀ place, Cursor.IsPlace tree.root place → place.node.Nests
  bounded : ∀ place, Cursor.IsPlace tree.root place →
    IsBoundary tree.source place.span.start ∧ IsBoundary tree.source place.span.stop

theorem wellFormed_iff {tree : SyntaxTree} : tree.WellFormed ↔
    ∀ place ∈ tree.nodes, place.node.Nests ∧
      IsBoundary tree.source place.span.start ∧ IsBoundary tree.source place.span.stop := by
  simp only [nodes, Cursor.mem_walk_iff]
  exact ⟨fun formed place isPlace => ⟨formed.nests place isPlace, formed.bounded place isPlace⟩,
    fun all => ⟨fun place isPlace => (all place isPlace).1,
      fun place isPlace => (all place isPlace).2⟩⟩

instance (tree : SyntaxTree) : Decidable tree.WellFormed :=
  decidable_of_iff _ wellFormed_iff.symm

end SyntaxTree

namespace Cursor

section Ranges

variable {root : Node} {place below other parent child : Cursor}
  (nests : ∀ place, IsPlace root place → place.node.Nests)

include nests

theorem span_inside (isPlace : IsPlace root place) (leads : LeadsTo place below) :
    place.span.start ≤ below.span.start ∧ below.span.stop ≤ place.span.stop := by
  induction leads with
  | refl => exact ⟨Nat.le_refl _, Nat.le_refl _⟩
  | @tail middle last leads held ih =>
      have nested := nests middle (isPlace.leadsTo leads)
      obtain ⟨index, found, -⟩ := holds_iff.mp held
      have inside := nested.inside last.node (List.mem_of_getElem? found)
      have upper : middle.span.start ≤ last.span.start := inside.1
      have lower : last.span.stop ≤ middle.span.stop := inside.2
      omega

theorem span_ne_of_children (isPlace : IsPlace root place)
    (apart : ∀ child, Holds place child → child.span ≠ place.span)
    (encloses : Encloses place below) : below.span ≠ place.span := by
  intro same
  obtain ⟨child, held, leads⟩ := Relation.TransGen.head'_iff.mp encloses
  have outer := span_inside nests isPlace (.single held)
  have inner := span_inside nests (isPlace.of_holds held) leads
  rw [same] at inner
  apply apart child held
  exact Span.ext (Nat.le_antisymm inner.1 outer.1) (Nat.le_antisymm outer.2 inner.2)

omit nests in
theorem children_apart {node : Node} (nested : node.Nests) {first second : Node} {index later : Nat}
    (found : node.children[index]? = some first) (found' : node.children[later]? = some second)
    (order : index < later) : first.span.stop ≤ second.span.start := by
  obtain ⟨bound, rfl⟩ := List.getElem?_eq_some_iff.mp found
  obtain ⟨bound', rfl⟩ := List.getElem?_eq_some_iff.mp found'
  exact List.pairwise_iff_getElem.mp nested.apart index later bound bound' order

omit nests in
theorem child?_apart {first second : Cursor} {index later : Nat} (nested : parent.node.Nests)
    (found : parent.child? index = some first) (found' : parent.child? later = some second)
    (order : index < later) : first.span.stop ≤ second.span.start := by
  obtain ⟨node, present, rfl⟩ := Option.map_eq_some_iff.mp found
  obtain ⟨node', present', rfl⟩ := Option.map_eq_some_iff.mp found'
  exact children_apart nested present present' order

omit nests in
theorem Follows.apart {first second : Cursor} (follows : Follows parent first second)
    (nested : parent.node.Nests) : first.span.stop ≤ second.span.start := by
  obtain ⟨index, found, found'⟩ := follows
  exact child?_apart nested found found' (Nat.lt_succ_self _)

theorem siblings_apart (isPlace : IsPlace root parent) (held : Holds parent child)
    (held' : Holds parent other) :
    child = other ∨ child.span.stop ≤ other.span.start ∨ other.span.stop ≤ child.span.start := by
  obtain ⟨index, found⟩ := held
  obtain ⟨index', found'⟩ := held'
  have nested := nests parent isPlace
  rcases Nat.lt_trichotomy index index' with earlier | rfl | later
  · exact .inr (.inl (child?_apart nested found found' earlier))
  · rw [found] at found'
    exact .inl (Option.some.inj found')
  · exact .inr (.inr (child?_apart nested found' found later))

/-- Two places are related or have ranges apart. -/
theorem related_or_apart (isPlace : IsPlace root place) (isPlace' : IsPlace root other) :
    Related place other ∨ place.span.stop ≤ other.span.start ∨
      other.span.stop ≤ place.span.start := by
  -- Down the way to the first place, as long as it is also the way to the second.
  have along : ∀ start, IsPlace root start → LeadsTo start place → LeadsTo start other →
      Related place other ∨ place.span.stop ≤ other.span.start ∨
        other.span.stop ≤ place.span.start := by
    intro start isStart leads
    induction leads using Relation.ReflTransGen.head_induction_on with
    | refl => exact fun leads' => .inl (.inl leads')
    | @head start child held leads ih =>
        intro leads'
        rcases leads'.eq_or_child with rfl | ⟨child', held', below'⟩
        · exact .inl (.inr (leads.head held))
        · rcases siblings_apart nests isStart held held' with rfl | apart
          · exact ih (isStart.of_holds held) below'
          · have inside := span_inside nests (isStart.of_holds held) leads
            have inside' := span_inside nests (isStart.of_holds held') below'
            exact .inr (by omega)
  exact along (ofRoot root) .refl isPlace isPlace'

theorem related_of_overlap (isPlace : IsPlace root place) (isPlace' : IsPlace root other)
    (byte : Nat) (held : place.span.start ≤ byte ∧ byte < place.span.stop)
    (held' : other.span.start ≤ byte ∧ byte < other.span.stop) : Related place other := by
  rcases related_or_apart nests isPlace isPlace' with related | apart
  · exact related
  · omega

/-- What overlaps two neighbours or the gap between them stands at or below one of them, or else
above both. -/
theorem Follows.overlap {first second : Cursor} (follows : Follows parent first second)
    (isPlace : IsPlace root parent) (isPlace' : IsPlace root place) {byte : Nat}
    (inside : first.span.start ≤ byte ∧ byte < second.span.stop)
    (held : place.span.start ≤ byte ∧ byte < place.span.stop) :
    LeadsTo place parent ∨ LeadsTo first place ∨ LeadsTo second place := by
  have bounds := span_inside nests isPlace (.single follows.holds_first)
  have bounds' := span_inside nests isPlace (.single follows.holds_second)
  rcases related_of_overlap nests isPlace isPlace' byte (by omega) held with below | above
  · rcases below.eq_or_child with rfl | ⟨child, down, below⟩
    · exact .inl .refl
    · -- The child on the way is one of the two, as the others end before them or start behind.
      have within := span_inside nests (isPlace.of_holds down) below
      have nested := nests parent isPlace
      obtain ⟨index, found, found'⟩ := follows
      obtain ⟨index', found''⟩ := down
      rcases Nat.lt_trichotomy index' index with earlier | rfl | later
      · have := child?_apart nested found'' found earlier
        omega
      · rw [found] at found''
        exact .inr (.inl (Option.some.inj found'' ▸ below))
      · rcases Nat.lt_or_eq_of_le later with behind | rfl
        · have := child?_apart nested found' found'' behind
          omega
        · rw [found'] at found''
          exact .inr (.inr (Option.some.inj found'' ▸ below))
  · exact .inl above

/-- One place is around another or ends before it starts. -/
def Precedes (first second : Cursor) : Prop :=
  Encloses first second ∨ first.span.stop ≤ second.span.start

/-- Of two places in document order the first is around the second or ends before it. -/
theorem preorderAt_precedes (node : Node) (above : List Step)
    (isPlace : IsPlace root ⟨node, above⟩) : (preorderAt above node).Pairwise Precedes := by
  have among : ∀ place ∈ preorderAt above node, IsPlace root place := by
    intro place member
    exact isPlace.leadsTo ((mem_preorderAt_iff _ _ _).mp member)
  refine (preorderAt_inOrder node above).imp_of_mem ?_
  intro first second member member' inOrder
  rcases inOrder with
    encloses | ⟨parent, child, other, index, later, order, found, found', leads, leads'⟩
  · exact .inl encloses
  · -- The first is inside of a child that ends before the child around the second starts.
    have isChild := (among first member).of_leadsTo leads
    have isOther := (among second member').of_leadsTo leads'
    have apart := child?_apart (nests parent (isChild.of_child ⟨index, found⟩)) found found' order
    have inside := span_inside nests isChild leads
    have inside' := span_inside nests isOther leads'
    exact .inr (Nat.le_trans inside.2 (Nat.le_trans apart inside'.1))

def LeafBefore (first second : Cursor) : Prop :=
  first.node.children = [] → second.node.children = [] → first.span.stop ≤ second.span.start

theorem preorderAt_leaves (node : Node) (above : List Step) (isPlace : IsPlace root ⟨node, above⟩) :
    (preorderAt above node).Pairwise LeafBefore := by
  refine (preorderAt_precedes nests node above isPlace).imp ?_
  rintro first second (encloses | ahead) leaf -
  · obtain ⟨child, held, -⟩ := Relation.TransGen.head'_iff.mp encloses
    exact absurd held (not_holds_of_leaf leaf child)
  · exact ahead

end Ranges

end Cursor

namespace SyntaxTree

def leaves (tree : SyntaxTree) : List Cursor :=
  tree.nodes.filter fun place => place.node.children.isEmpty

variable {tree : SyntaxTree} {place : Cursor}

theorem mem_leaves_iff :
    place ∈ tree.leaves ↔ Cursor.IsPlace tree.root place ∧ place.node.children = [] := by
  rw [leaves, List.mem_filter, List.isEmpty_iff, nodes, Cursor.mem_walk_iff]

theorem WellFormed.leaves_ordered (wellFormed : tree.WellFormed) :
    tree.leaves.Pairwise fun first second => first.span.stop ≤ second.span.start := by
  rw [leaves, List.pairwise_filter, nodes, Cursor.walk_eq_preorder]
  refine (Cursor.preorderAt_leaves wellFormed.nests tree.root [] .refl).imp ?_
  intro first second before leaf leaf'
  exact before (List.isEmpty_iff.mp leaf) (List.isEmpty_iff.mp leaf')

end SyntaxTree

namespace SyntaxTree.WellFormed

variable {tree : SyntaxTree} {place : Cursor}

theorem fits (wellFormed : tree.WellFormed) (isPlace : Cursor.IsPlace tree.root place) :
    place.span.Fits tree.source :=
  ⟨(wellFormed.nests place isPlace).ordered, (wellFormed.bounded place isPlace).1,
    (wellFormed.bounded place isPlace).2⟩

theorem root_nonempty (wellFormed : tree.WellFormed) (isPlace : Cursor.IsPlace tree.root place)
    (nonempty : place.span.start < place.span.stop) :
    tree.root.span.start < tree.root.span.stop := by
  have inside := Cursor.span_inside wellFormed.nests .refl isPlace
  exact Nat.lt_of_le_of_lt inside.1 (Nat.lt_of_lt_of_le nonempty inside.2)

end SyntaxTree.WellFormed

end CallAtlas
