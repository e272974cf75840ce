import CallAtlas.Tree.Cursor
import Mathlib.Data.Set.Card
import Mathlib.Logic.Relation

/-!
The places of a tree. A place is reached from the root by going down from child
to child, so its ancestors are the places on the way. The walk meets every place
exactly once and in document order, and a count over the walk is the size of a set of
places.
-/

namespace CallAtlas.Cursor

def Holds (parent child : Cursor) : Prop :=
  ∃ index, parent.child? index = some child

/-- A cursor that stands somewhere in the tree of a root. -/
def IsPlace (root : Node) (place : Cursor) : Prop :=
  Relation.ReflTransGen Holds (ofRoot root) place

/-- One place is another or stands below it. -/
abbrev LeadsTo (place below : Cursor) : Prop :=
  Relation.ReflTransGen Holds place below

def Encloses (ancestor place : Cursor) : Prop :=
  Relation.TransGen Holds ancestor place

theorem holds_iff {parent child : Cursor} :
    Holds parent child ↔ ∃ index, parent.node.children[index]? = some child.node ∧
      child.above = ⟨parent.node, index⟩ :: parent.above := by
  constructor
  · rintro ⟨index, found⟩
    obtain ⟨node, present, rfl⟩ := Option.map_eq_some_iff.mp found
    exact ⟨index, present, rfl⟩
  · rintro ⟨index, present, way⟩
    refine ⟨index, ?_⟩
    rw [child?, present, Option.map_some, ← way]

theorem parent_unique {parent other child : Cursor} (held : Holds parent child)
    (held' : Holds other child) : other = parent := by
  obtain ⟨index, -, way⟩ := holds_iff.mp held
  obtain ⟨index', -, way'⟩ := holds_iff.mp held'
  rw [way] at way'
  obtain ⟨⟨same, -⟩, rest⟩ : (parent.node = other.node ∧ index = index') ∧
      parent.above = other.above := by simpa using way'
  cases parent
  cases other
  simp_all

theorem not_holds_ofRoot (root : Node) (parent : Cursor) : ¬ Holds parent (ofRoot root) := by
  intro held
  obtain ⟨index, -, way⟩ := holds_iff.mp held
  simp [ofRoot] at way

theorem not_encloses_ofRoot (root : Node) (ancestor : Cursor) :
    ¬ Encloses ancestor (ofRoot root) := by
  intro encloses
  obtain ⟨parent, -, held⟩ := Relation.TransGen.tail'_iff.mp encloses
  exact not_holds_ofRoot root parent held

theorem encloses_iff_of_holds {parent child : Cursor} (held : Holds parent child)
    (ancestor : Cursor) :
    Encloses ancestor child ↔ ancestor = parent ∨ Encloses ancestor parent := by
  constructor
  · intro encloses
    obtain ⟨other, reaches, held'⟩ := Relation.TransGen.tail'_iff.mp encloses
    rw [parent_unique held held'] at reaches
    rcases Relation.reflTransGen_iff_eq_or_transGen.mp reaches with same | encloses
    · exact .inl same.symm
    · exact .inr encloses
  · rintro (rfl | encloses)
    · exact .single held
    · exact encloses.tail held

theorem above_suffix {start place : Cursor} (reaches : Relation.ReflTransGen Holds start place) :
    start.above <:+ place.above := by
  induction reaches with
  | refl => exact List.suffix_rfl
  | tail _ held ih =>
      obtain ⟨index, -, way⟩ := holds_iff.mp held
      rw [way]
      exact ih.trans (List.suffix_cons _ _)

theorem not_encloses_self (place : Cursor) : ¬ Encloses place place := by
  have longer : ∀ {ancestor place : Cursor}, Encloses ancestor place →
      ancestor.above.length < place.above.length := by
    intro ancestor place encloses
    obtain ⟨child, held, reaches⟩ := Relation.TransGen.head'_iff.mp encloses
    obtain ⟨index, -, way⟩ := holds_iff.mp held
    have suffix := (above_suffix reaches).length_le
    simp only [way, List.length_cons] at suffix
    omega
  intro encloses
  exact absurd (longer encloses) (Nat.lt_irrefl _)

theorem mem_preorderOf_iff (parent : Node) (above : List Step) (place : Cursor)
    (children : List Node) (index : Nat) :
    place ∈ preorderOf parent above index children ↔
      ∃ offset child, children[offset]? = some child ∧
        place ∈ preorderAt (⟨parent, index + offset⟩ :: above) child := by
  -- The index of the first child moves along with the list, the way to it does not.
  induction children generalizing index with
  | nil => simp [preorderOf]
  | cons first rest ih =>
      rw [preorderOf, List.mem_append, ih]
      constructor
      · rintro (here | ⟨offset, child, found, below⟩)
        · exact ⟨0, first, rfl, here⟩
        · refine ⟨offset + 1, child, found, ?_⟩
          rwa [Nat.add_comm offset 1, ← Nat.add_assoc]
      · rintro ⟨offset, child, found, below⟩
        cases offset with
        | zero =>
            obtain rfl : first = child := by simpa using found
            exact .inl below
        | succ offset =>
            refine .inr ⟨offset, child, found, ?_⟩
            rwa [Nat.add_comm offset 1, ← Nat.add_assoc] at below

theorem mem_preorderAt_iff (node : Node) : ∀ (above : List Step) (place : Cursor),
    place ∈ preorderAt above node ↔ Relation.ReflTransGen Holds ⟨node, above⟩ place := by
  induction node using Node.ofChildren with
  | step label children held =>
      intro above place
      rw [preorderAt, List.mem_cons, mem_preorderOf_iff, Relation.ReflTransGen.cases_head_iff]
      constructor
      · rintro (rfl | ⟨index, child, found, below⟩)
        · exact .inl rfl
        · rw [Nat.zero_add] at below
          have reaches := (held child (List.mem_of_getElem? found) _ place).mp below
          exact .inr ⟨⟨child, _⟩, holds_iff.mpr ⟨index, found, rfl⟩, reaches⟩
      · rintro (rfl | ⟨⟨child, way⟩, step, reaches⟩)
        · exact .inl rfl
        · obtain ⟨index, found, rfl⟩ := holds_iff.mp step
          refine .inr ⟨index, child, found, ?_⟩
          rw [Nat.zero_add]
          exact (held child (List.mem_of_getElem? found) _ place).mpr reaches

theorem mem_walk_iff {root : Node} {place : Cursor} :
    place ∈ walk root ↔ IsPlace root place := by
  rw [walk_eq_preorder]
  exact mem_preorderAt_iff root [] place

theorem child_unique {parent : Node} {above way : List Step} {index other : Nat}
    (through : ⟨parent, index⟩ :: above <:+ way) (through' : ⟨parent, other⟩ :: above <:+ way) :
    index = other := by
  have suffix := List.suffix_of_suffix_length_le through through' (by simp)
  have same := suffix.eq_of_length (by simp)
  simpa using same

theorem preorderOf_nodup (parent : Node) (above : List Step) (children : List Node) (index : Nat)
    (held : ∀ child ∈ children, ∀ above, (preorderAt above child).Nodup) :
    (preorderOf parent above index children).Nodup := by
  induction children generalizing index with
  | nil => simp [preorderOf]
  | cons first rest ih =>
      have here := held first (by simp) (⟨parent, index⟩ :: above)
      have later := ih (index + 1) (fun child member => held child (List.mem_cons_of_mem _ member))
      rw [preorderOf]
      refine here.append later ?_
      -- A place below two children would have a way through both of them.
      intro place inFirst inRest
      obtain ⟨offset, child, -, below⟩ := (mem_preorderOf_iff _ _ _ _ _).mp inRest
      have through := above_suffix ((mem_preorderAt_iff _ _ _).mp inFirst)
      have through' := above_suffix ((mem_preorderAt_iff _ _ _).mp below)
      have same := child_unique through through'
      omega

theorem preorderAt_nodup (node : Node) : ∀ above : List Step, (preorderAt above node).Nodup := by
  induction node using Node.ofChildren with
  | step label children held =>
      intro above
      rw [preorderAt, List.nodup_cons]
      refine ⟨?_, preorderOf_nodup _ _ _ _ held⟩
      -- Below a child the way is longer than at the node itself.
      intro again
      obtain ⟨index, child, -, below⟩ := (mem_preorderOf_iff _ _ _ _ _).mp again
      have longer := (above_suffix ((mem_preorderAt_iff _ _ _).mp below)).length_le
      simp at longer

theorem walk_nodup (root : Node) : (walk root).Nodup := by
  rw [walk_eq_preorder]
  exact preorderAt_nodup root []

/-- In document order: around the other place, or at or below an earlier child of a node that has
the other place at or below a later one. -/
def InOrder (first second : Cursor) : Prop :=
  Encloses first second ∨ ∃ (parent child other : Cursor) (index later : Nat), index < later ∧
    parent.child? index = some child ∧ parent.child? later = some other ∧
    LeadsTo child first ∧ LeadsTo other second

theorem child?_of_getElem? {parent child : Node} {above : List Step} {index : Nat}
    (found : parent.children[index]? = some child) :
    child? ⟨parent, above⟩ index = some ⟨child, ⟨parent, index⟩ :: above⟩ := by
  rw [child?, found, Option.map_some]

theorem preorderOf_inOrder (parent : Node) (above : List Step) (children : List Node) (index : Nat)
    (split : ∀ offset, children[offset]? = parent.children[index + offset]?)
    (held : ∀ child ∈ children, ∀ above, (preorderAt above child).Pairwise InOrder) :
    (preorderOf parent above index children).Pairwise InOrder := by
  induction children generalizing index with
  | nil => exact .nil
  | cons first rest ih =>
      have split' : ∀ offset, rest[offset]? = parent.children[index + 1 + offset]? := by
        intro offset
        rw [Nat.add_assoc, Nat.add_comm 1]
        exact split (offset + 1)
      rw [preorderOf, List.pairwise_append]
      refine ⟨held first (by simp) _,
        ih (index + 1) split' fun child member => held child (List.mem_cons_of_mem _ member), ?_⟩
      -- One place is below the first child, the other below one of those behind it.
      intro place inFirst other inRest
      obtain ⟨offset, child, found, below⟩ := (mem_preorderOf_iff _ _ _ _ _).mp inRest
      right
      exact ⟨⟨parent, above⟩, _, _, index, index + 1 + offset, by omega,
        child?_of_getElem? (split 0).symm, child?_of_getElem? ((split' offset).symm.trans found),
        (mem_preorderAt_iff _ _ _).mp inFirst, (mem_preorderAt_iff _ _ _).mp below⟩

theorem preorderAt_inOrder (node : Node) :
    ∀ above : List Step, (preorderAt above node).Pairwise InOrder := by
  induction node using Node.ofChildren with
  | step label children held =>
      intro above
      rw [preorderAt, List.pairwise_cons]
      constructor
      · intro place below
        obtain ⟨index, child, found, below⟩ := (mem_preorderOf_iff _ _ _ _ _).mp below
        rw [Nat.zero_add] at below
        have down : Holds ⟨.branch label children, above⟩
            ⟨child, ⟨.branch label children, index⟩ :: above⟩ := holds_iff.mpr ⟨index, found, rfl⟩
        exact .inl (.head' down ((mem_preorderAt_iff _ _ _).mp below))
      · refine preorderOf_inOrder _ above children 0 ?_ held
        intro offset
        rw [Nat.zero_add]
        rfl

theorem countP_walk (root : Node) (test : Cursor → Bool) :
    (walk root).countP test = {place | IsPlace root place ∧ test place = true}.ncard := by
  classical
  -- The walk repeats no place, so its length after filtering is the size of the set.
  have same : {place | IsPlace root place ∧ test place = true} =
      (((walk root).filter test).toFinset : Set Cursor) := by
    ext place
    simp [mem_walk_iff]
  rw [same, Set.ncard_coe_finset, List.toFinset_card_of_nodup ((walk_nodup root).filter test),
    List.countP_eq_length_filter]

end CallAtlas.Cursor
