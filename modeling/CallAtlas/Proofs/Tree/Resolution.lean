import CallAtlas.Proofs.Tree.Layout
import CallAtlas.Proofs.Tree.Sketch

/-!
Finding a node by its range. The way down passes every node that covers a
non-empty range exactly and ends at the deepest of them, which is what the search
gives. An empty range is found only where the whole tree is empty.
-/

namespace CallAtlas.SyntaxTree

open Cursor (Holds IsPlace LeadsTo)
open Text (Span)

variable {root : Node} {span : Span}

/-- The test that the way down makes of a child before it looks at where the child starts. -/
def Reaches (span : Span) (child : Node) : Prop :=
  span.stop ≤ child.span.stop ∧ span.start < child.span.stop

theorem not_skipped_iff {child : Node} :
    ¬ (child.span.stop < span.stop ∨ child.span.stop ≤ span.start) ↔ Reaches span child := by
  unfold Reaches
  omega

theorem descendInto_cases (span : Span) (parent : Node) (above : List Step)
    (children : List Node) (index : Nat) :
    descendInto span parent above index children = ⟨parent, above⟩ ∨
      ∃ offset child, children[offset]? = some child ∧ Reaches span child ∧
        child.span.start ≤ span.start ∧ descendInto span parent above index children =
          descend span (⟨parent, index + offset⟩ :: above) child := by
  induction children generalizing index with
  | nil => exact .inl (by rw [descendInto])
  | cons child rest ih =>
      rw [descendInto]
      split
      · rcases ih (index + 1) with stays | ⟨offset, below, found, reaches, starts, goes⟩
        · exact .inl stays
        · refine .inr ⟨offset + 1, below, found, reaches, starts, ?_⟩
          rw [goes, Nat.add_assoc, Nat.add_comm 1 offset]
      · next reaches =>
          split
          · next starts => exact .inr ⟨0, child, rfl, not_skipped_iff.mp reaches, starts, rfl⟩
          · exact .inl rfl

theorem descendInto_of_covering (span : Span) (parent : Node) (above : List Step)
    (children : List Node) (index offset : Nat) {child : Node}
    (found : children[offset]? = some child)
    (reaches : Reaches span child) (starts : child.span.start ≤ span.start)
    (first : ∀ earlier other, earlier < offset → children[earlier]? = some other →
      ¬ Reaches span other) :
    descendInto span parent above index children =
      descend span (⟨parent, index + offset⟩ :: above) child := by
  induction children generalizing index offset with
  | nil => simp at found
  | cons head rest ih =>
      rw [descendInto]
      cases offset with
      | zero =>
          obtain rfl : head = child := by simpa using found
          rw [if_neg (not_skipped_iff.mpr reaches), if_pos starts, Nat.add_zero]
      | succ offset =>
          have skipped := mt not_skipped_iff.mp (first 0 head (by omega) rfl)
          rw [if_pos (not_not.mp skipped), ih (index + 1) offset found
            fun earlier other before found => first (earlier + 1) other (by omega) found]
          rw [Nat.add_assoc, Nat.add_comm 1 offset]

/-- The way down leads to where it ends, and past its start only into nodes that cover the range. -/
theorem descend_covers (span : Span) (node : Node) : ∀ above : List Step,
    LeadsTo ⟨node, above⟩ (descend span above node) ∧
      (descend span above node = ⟨node, above⟩ ∨
        Reaches span (descend span above node).node ∧
          (descend span above node).span.start ≤ span.start) := by
  induction node using Node.ofChildren with
  | step label children held =>
      intro above
      rw [descend]
      rcases descendInto_cases span (.branch label children) above children 0 with
        stays | ⟨index, child, found, reaches, starts, goes⟩
      · rw [stays]
        exact ⟨.refl, .inl rfl⟩
      · rw [goes]
        have down : Holds ⟨.branch label children, above⟩
            ⟨child, ⟨.branch label children, 0 + index⟩ :: above⟩ :=
          Cursor.holds_iff.mpr ⟨0 + index, by rw [Nat.zero_add]; exact found, rfl⟩
        obtain ⟨leads, ends⟩ := held child (List.mem_of_getElem? found)
          (⟨.branch label children, 0 + index⟩ :: above)
        refine ⟨leads.head down, .inr ?_⟩
        rcases ends with same | covers
        · rw [same]
          exact ⟨reaches, starts⟩
        · exact covers

/-- The way down passes every node that covers a non-empty range exactly. -/
theorem leadsTo_descend (nests : ∀ place, IsPlace root place → place.node.Nests)
    (nonempty : span.start < span.stop) (node : Node) : ∀ (above : List Step) (place : Cursor),
    IsPlace root ⟨node, above⟩ → LeadsTo ⟨node, above⟩ place → place.span = span →
      LeadsTo place (descend span above node) := by
  induction node using Node.ofChildren with
  | step label children held =>
      intro above place isPlace leads same
      rcases leads.eq_or_child with rfl | ⟨⟨child, way⟩, down, below⟩
      · exact (descend_covers span _ above).1
      · have isChild := isPlace.of_holds down
        obtain ⟨index, found, rfl⟩ := Cursor.holds_iff.mp down
        have inside := Cursor.span_inside nests isChild below
        rw [same] at inside
        have starts : child.span.start ≤ span.start := inside.1
        have stops : span.stop ≤ child.span.stop := inside.2
        have nested := nests _ isPlace
        -- The children before this one end before it starts, so they do not reach the range.
        have goes := descendInto_of_covering span (.branch label children) above children 0
          index found ⟨stops, Nat.lt_of_lt_of_le nonempty stops⟩ starts
          fun earlier other before found' => by
            have apart : other.span.stop ≤ child.span.start :=
              Cursor.children_apart nested found' found before
            unfold Reaches
            omega
        rw [descend, goes, Nat.zero_add]
        exact held child (List.mem_of_getElem? found) _ place isChild below same

theorem covering?_eq_some (above : List Step) : ∀ (node : Node) {place : Cursor},
    IsPlace root ⟨node, above⟩ → covering? span node above = some place →
      place.span = span ∧ LeadsTo place ⟨node, above⟩ ∧ IsPlace root place := by
  induction above with
  | nil =>
      intro node place isPlace found
      rw [covering?] at found
      split at found
      · next same =>
          obtain rfl := Option.some.inj found
          exact ⟨same, .refl, isPlace⟩
      · cases found
  | cons step rest ih =>
      intro node place isPlace found
      rw [covering?] at found
      split at found
      · next same =>
          obtain rfl := Option.some.inj found
          exact ⟨same, .refl, isPlace⟩
      · have held : Holds ⟨step.parent, rest⟩ ⟨node, step :: rest⟩ :=
          (Cursor.parent?_eq_some_iff isPlace).mp rfl
        obtain ⟨same, leads, isPlace'⟩ := ih step.parent (isPlace.of_child held) found
        exact ⟨same, leads.tail held, isPlace'⟩

theorem covering?_self {place : Cursor} (same : place.span = span) :
    covering? span place.node place.above = some place := by
  cases place with
  | mk node above =>
      have same' : node.span = span := same
      cases above <;> rw [covering?, if_pos same']

variable {tree : SyntaxTree} {region : Region} {place found : Cursor}

theorem isPlace_descend (tree : SyntaxTree) (span : Span) :
    IsPlace tree.root (descend span [] tree.root) :=
  (descend_covers span tree.root []).1

theorem resolve?_eq_some (resolved : tree.resolve? region = some found) :
    found.span = region.span ∧ LeadsTo found (descend region.span [] tree.root) ∧
      IsPlace tree.root found :=
  covering?_eq_some _ _ (isPlace_descend tree region.span) resolved

/-- A search for the non-empty range of a place finds the place or one below it with that range,
below which no other has it. -/
theorem resolve?_of_span (nests : ∀ place, IsPlace tree.root place → place.node.Nests)
    (isPlace : IsPlace tree.root place) (same : place.span = region.span)
    (nonempty : place.span.start < place.span.stop) :
    ∃ found, tree.resolve? region = some found ∧ LeadsTo place found ∧ found.span = place.span := by
  rw [same] at nonempty
  have passes := leadsTo_descend nests nonempty tree.root [] place .refl isPlace same
  have inside := Cursor.span_inside nests isPlace passes
  have covers : (descend region.span [] tree.root).span = region.span := by
    rw [same] at inside
    rcases (descend_covers region.span tree.root []).2 with stays | ⟨⟨stops, -⟩, starts⟩
    · -- Nothing was entered, so the place is the root.
      have back : LeadsTo (descend region.span [] tree.root) place := by
        rw [stays]
        exact isPlace
      rw [← passes.antisymm back, same]
    · exact Span.ext (Nat.le_antisymm starts inside.1) (Nat.le_antisymm inside.2 stops)
  exact ⟨_, covering?_self covers, passes, covers.trans same.symm⟩

/-- A non-empty range that only one of the nodes at and below a place has finds the place. -/
theorem resolve?_eq_self (nests : ∀ place, IsPlace tree.root place → place.node.Nests)
    (isPlace : IsPlace tree.root place) (same : place.span = region.span)
    (nonempty : place.span.start < place.span.stop)
    (deepest : ∀ below, Cursor.Encloses place below → below.span ≠ place.span) :
    tree.resolve? region = some place := by
  obtain ⟨found, resolved, leads, same'⟩ := resolve?_of_span nests isPlace same nonempty
  rcases Relation.reflTransGen_iff_eq_or_transGen.mp leads with rfl | encloses
  · exact resolved
  · exact absurd same' (deepest found encloses)

theorem resolve?_empty (nests : ∀ place, IsPlace tree.root place → place.node.Nests)
    (resolved : tree.resolve? region = some found) (empty : region.span.stop ≤ region.span.start) :
    tree.root.span = region.span := by
  obtain ⟨same, leads, isPlace⟩ := resolve?_eq_some resolved
  rcases (descend_covers region.span tree.root []).2 with stays | ⟨⟨-, starts⟩, -⟩
  · rw [stays] at leads
    rw [← same, leads.antisymm isPlace]
    rfl
  · -- A node entered reaches past the range, and so does everything above it.
    have inside := Cursor.span_inside nests isPlace leads
    have starts' : region.span.start < (descend region.span [] tree.root).span.stop := starts
    rw [same] at inside
    omega

/-- The deepest place with a range: every place that has the range leads down to it. -/
structure Deepest (root : Node) (span : Span) (place : Cursor) : Prop where
  isPlace : IsPlace root place
  covers : place.span = span
  lowest : ∀ other, IsPlace root other → other.span = span → LeadsTo other place

theorem resolve?_deepest (nests : ∀ place, IsPlace tree.root place → place.node.Nests)
    (nonempty : region.span.start < region.span.stop) (isPlace : IsPlace tree.root place)
    (same : place.span = region.span) :
    ∃ found, tree.resolve? region = some found ∧ Deepest tree.root region.span found := by
  obtain ⟨found, resolved, -⟩ := resolve?_of_span nests isPlace same (same ▸ nonempty)
  obtain ⟨covers, -, isFound⟩ := resolve?_eq_some resolved
  refine ⟨found, resolved, isFound, covers, ?_⟩
  -- A search for the range of another place is the same search.
  intro other isOther same'
  obtain ⟨found', resolved', leads, -⟩ := resolve?_of_span nests isOther same' (same' ▸ nonempty)
  rw [resolved] at resolved'
  exact Option.some.inj resolved' ▸ leads

/-- A search gives a place with the range asked for, the deepest one if the range is not empty; so
a place whose range no child of it has is found by its own region. -/
theorem resolution_exact (nests : ∀ place, IsPlace tree.root place → place.node.Nests) :
    (∀ region found, tree.resolve? region = some found →
      IsPlace tree.root found ∧ found.span = region.span) ∧
    (∀ region, region.span.start < region.span.stop →
      (∃ place, IsPlace tree.root place ∧ place.span = region.span) →
      ∃ found, tree.resolve? region = some found ∧ Deepest tree.root region.span found) ∧
    ∀ place, IsPlace tree.root place → place.span.start < place.span.stop →
      (∀ child, Holds place child → child.span ≠ place.span) →
      tree.resolve? (tree.region place.node) = some place := by
  constructor
  · intro region found resolved
    obtain ⟨covers, -, isPlace⟩ := resolve?_eq_some resolved
    exact ⟨isPlace, covers⟩
  constructor
  · rintro region nonempty ⟨place, isPlace, same⟩
    exact resolve?_deepest nests nonempty isPlace same
  · intro place isPlace nonempty apart
    apply resolve?_eq_self nests isPlace rfl nonempty
    intro below encloses
    exact Cursor.span_ne_of_children nests isPlace apart encloses

def bareCall : SyntaxTree :=
  Sketch.program "f()"
    [Sketch.rule "expression_statement" 0 3
      [Sketch.rule "call_expression" 0 3
        [Sketch.under "function" (Sketch.identifier 0),
          Sketch.under "arguments" (Sketch.brackets "arguments" 1)]]]

theorem bareCall_resolved : bareCall.WellFormed ∧
    (∃ found, bareCall.resolve? (bareCall.region bareCall.root) = some found ∧
      Deepest bareCall.root ⟨0, 3⟩ found ∧ found.kind = "call_expression") ∧
    bareCall.resolve? (bareCall.region (Sketch.place bareCall [0, 0]).node) =
      some (Sketch.place bareCall [0, 0]) := by
  have wellFormed : bareCall.WellFormed := by decide +kernel
  obtain ⟨-, deepest, self⟩ := resolution_exact wellFormed.nests
  refine ⟨wellFormed, ?_, ?_⟩
  · obtain ⟨found, resolved, deepest⟩ :=
      deepest (bareCall.region bareCall.root) (by decide) ⟨Cursor.ofRoot bareCall.root, .refl, rfl⟩
    refine ⟨found, resolved, deepest, ?_⟩
    have call : bareCall.resolve? (bareCall.region bareCall.root) =
        some (Sketch.place bareCall [0, 0]) := rfl
    rw [call] at resolved
    obtain rfl := Option.some.inj resolved
    rfl
  · apply self
    · exact Sketch.isPlace_place bareCall [0, 0]
    · decide
    · intro child held
      obtain ⟨index, found, -⟩ := Cursor.holds_iff.mp held
      exact (by decide : ∀ child ∈ (Sketch.place bareCall [0, 0]).node.children,
        child.span ≠ (Sketch.place bareCall [0, 0]).span) _ (List.mem_of_getElem? found)

end CallAtlas.SyntaxTree
