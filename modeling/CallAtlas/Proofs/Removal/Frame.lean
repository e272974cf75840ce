import CallAtlas.Proofs.Removal.Outcome

/-!
The frame of a removal. A unit is what stands for a requested function, its
declaration or its declarator. A place that is related to no unit and goes along
with none keeps all of its visible characters, side by side (`aside_survives`).
What stands beside a declaration in its export statement is cut along with it, for
an export goes as a whole (`decorated_not_kept`). A variable declaration does so
when all of its declarators are asked for, and else it loses some of its commas.
-/

namespace CallAtlas

open Cursor (Holds IsPlace LeadsTo Related)
open SyntaxTree (IsDeclaration)

namespace SyntaxTree

/-- What stands for the function that a catalog has under a name: its declaration, or the
declarator that it is bound by. -/
def IsUnit (tree : SyntaxTree) (name : String) (unit : Cursor) : Prop :=
  ∃ function, tree.LastRegistered name function ∧
    (IsDeclaration function ∧ unit = function ∨
      ¬ IsDeclaration function ∧ tree.Binds unit function name)

/-- Declarators are named nodes. Only named ones are counted when a declaration loses some. -/
def DeclaratorsNamed (tree : SyntaxTree) : Prop :=
  ∀ declarator, IsPlace tree.root declarator → Removal.isDeclarator declarator.node = true →
    declarator.node.named = true

/-- What holds a declarator starts with a keyword, a token with text. -/
def KeywordFirst (tree : SyntaxTree) : Prop :=
  ∀ declaration declarator, IsPlace tree.root declaration → Holds declaration declarator →
    Removal.isDeclarator declarator.node = true →
      ∃ keyword, Holds declaration keyword ∧ keyword.node.children = [] ∧
        keyword.span.start = declaration.span.start ∧ keyword.span.start < keyword.span.stop

variable {tree : SyntaxTree} {name : String} {function : Cursor}

theorem declaratorsNamed_iff : tree.DeclaratorsNamed ↔ ∀ place ∈ tree.nodes,
    Removal.isDeclarator place.node = true → place.node.named = true := by
  simp only [nodes, Cursor.mem_walk_iff, DeclaratorsNamed]

instance (tree : SyntaxTree) : Decidable tree.DeclaratorsNamed :=
  decidable_of_iff _ declaratorsNamed_iff.symm

theorem keywordFirst_iff : tree.KeywordFirst ↔ ∀ place ∈ tree.nodes,
    ∀ declarator ∈ place.children, Removal.isDeclarator declarator.node = true →
      ∃ keyword ∈ place.children, keyword.node.children = [] ∧
        keyword.span.start = place.span.start ∧ keyword.span.start < keyword.span.stop := by
  simp only [nodes, Cursor.mem_walk_iff, Cursor.mem_children_iff]
  constructor
  · intro first place isPlace declarator held kind
    exact first place declarator isPlace held kind
  · intro all declaration declarator isPlace held kind
    exact all declaration isPlace declarator held kind

instance (tree : SyntaxTree) : Decidable tree.KeywordFirst :=
  decidable_of_iff _ keywordFirst_iff.symm

theorem LastRegistered.ne_declarator {declarator : Cursor} (last : tree.LastRegistered name function)
    (kind : Removal.isDeclarator declarator.node = true) : function ≠ declarator := by
  rintro rfl
  obtain ⟨-, -, _, registered⟩ := last.registers
  have functionLike := functionLike_of_catalogName? registered
  have kind' : function.kind = "variable_declarator" := of_decide_eq_true kind
  simp [isFunctionLike, FunctionForm.ofKind?, kind'] at functionLike

theorem LastRegistered.exists_unit (last : tree.LastRegistered name function) : ∃ unit,
    tree.IsUnit name unit ∧ LeadsTo unit function ∧ (IsDeclaration function → unit = function) := by
  rcases last.registers.declaration_or_bound with declaration | ⟨bound, declarator, binds⟩
  · exact ⟨function, ⟨function, last, .inl ⟨declaration, rfl⟩⟩, .refl, fun _ => rfl⟩
  · exact ⟨declarator, ⟨function, last, .inr ⟨bound, binds⟩⟩, .single binds.holds,
      fun declaration => absurd declaration bound⟩

theorem IsUnit.exists_function {unit : Cursor} (isUnit : tree.IsUnit name unit) :
    ∃ function ∈ tree.functions, (tree.catalogName? function).map Prod.fst = some name ∧
      LeadsTo unit function ∧ (IsDeclaration function ∧ unit = function ∨
        ¬ IsDeclaration function ∧ unit.kind = "variable_declarator") := by
  obtain ⟨function, last, whose⟩ := isUnit
  obtain ⟨isPlace, named, kind, registered⟩ := last.registers
  have functionLike := functionLike_of_catalogName? registered
  refine ⟨function, mem_functions_iff.mpr ⟨isPlace, named, functionLike⟩, by simp [registered], ?_⟩
  rcases whose with ⟨declaration, rfl⟩ | ⟨bound, binds⟩
  · exact ⟨.refl, .inl ⟨declaration, rfl⟩⟩
  · exact ⟨.single binds.holds, .inr ⟨bound, binds.isDeclarator⟩⟩

end SyntaxTree

namespace Removal

/-- The declaration goes as a whole, for each of its declarators is asked for. -/
def GoesWhole (tree : SyntaxTree) (names : List String) (declaration : Cursor) : Prop :=
  ∀ declarator, Holds declaration declarator → isDeclarator declarator.node = true →
    ∃ name ∈ names, tree.IsUnit name declarator

/-- What goes along with a unit: what else the export statement of its declaration and the
declaration itself hold where that goes as a whole, and otherwise the commas between the
declarators. -/
inductive Alongside (tree : SyntaxTree) (names : List String) (unit place : Cursor) : Prop where
  | exported {statement declaration : Cursor} (held : Holds statement declaration)
      (exports : statement.kind = "export_statement")
      (whose : declaration = unit ∨ Holds declaration unit ∧ isDeclarator unit.node = true ∧
        GoesWhole tree names declaration)
      (below : LeadsTo statement place) (outside : ¬ LeadsTo declaration place)
  | within {declaration part : Cursor} (held : Holds declaration unit)
      (kind : isDeclarator unit.node = true) (whole : GoesWhole tree names declaration)
      (held' : Holds declaration part) (other : isDeclarator part.node = false)
      (below : LeadsTo part place)
  | comma {declaration part : Cursor} (held : Holds declaration unit)
      (kind : isDeclarator unit.node = true) (held' : Holds declaration part)
      (separates : isComma part = true) (below : LeadsTo part place)

def declarators (declaration : Cursor) : List Cursor :=
  declaration.children.filter fun child => child.node.named && isDeclarator child.node

theorem length_declarators (declaration : Cursor) :
    (declarators declaration).length = declaratorCount declaration.node := by
  rw [declarators, declaratorCount, ← Cursor.map_node_children, List.countP_map,
    List.countP_eq_length_filter]
  rfl

theorem mem_declarators {tree : SyntaxTree} {declaration declarator : Cursor}
    (declaratorsNamed : tree.DeclaratorsNamed) (isPlace : IsPlace tree.root declaration)
    (held : Holds declaration declarator) (kind : isDeclarator declarator.node = true) :
    declarator ∈ declarators declaration := by
  have named := declaratorsNamed declarator (isPlace.of_holds held) kind
  exact List.mem_filter.mpr ⟨Cursor.mem_children_iff.mpr held, by simp [named, kind]⟩

section Keywords

variable {tree : SyntaxTree} {declaration declarator function other declarator' : Cursor}
  (wellFormed : tree.WellFormed) (keywordFirst : tree.KeywordFirst)
  (isPlace : IsPlace tree.root declaration) (held : Holds declaration declarator)
  (kind : isDeclarator declarator.node = true)

include wellFormed keywordFirst isPlace held kind

theorem start_lt_declarator (held' : Holds declarator function)
    (nonempty : function.span.start < function.span.stop) :
    declaration.span.start < declarator.span.start := by
  have nests := wellFormed.nests
  obtain ⟨keyword, heldKeyword, leaf, starts, filled⟩ :=
    keywordFirst declaration declarator isPlace held kind
  have inner := Cursor.span_inside nests (isPlace.of_holds held) (.single held')
  have outer := Cursor.span_inside nests isPlace (.single held)
  rcases Cursor.siblings_apart nests isPlace heldKeyword held with rfl | before | behind
  · exact absurd held' (Cursor.not_holds_of_leaf leaf function)
  · omega
  · omega

/-- Declarations that start together are one. -/
theorem declaration_unique (isPlace' : IsPlace tree.root other) (held' : Holds other declarator')
    (kind' : isDeclarator declarator'.node = true)
    (together : other.span.start = declaration.span.start) : other = declaration := by
  obtain ⟨keyword, heldKeyword, leaf, starts, filled⟩ :=
    keywordFirst declaration declarator isPlace held kind
  obtain ⟨keyword', heldKeyword', leaf', starts', filled'⟩ :=
    keywordFirst other declarator' isPlace' held' kind'
  have same : keyword' = keyword := by
    rcases Cursor.related_of_overlap wellFormed.nests (isPlace.of_holds heldKeyword)
      (isPlace'.of_holds heldKeyword') declaration.span.start ⟨by omega, by omega⟩
      ⟨by omega, by omega⟩ with below | above
    · exact below.eq_of_leaf leaf
    · exact (above.eq_of_leaf leaf').symm
  subst same
  exact Cursor.parent_unique heldKeyword heldKeyword'

end Keywords

section Origins

variable {tree : SyntaxTree} {catalog : Catalog} {policy : DuplicatePolicy} {name : String}
  {target : Target} {declaration declarator : Cursor}
  (wellFormed : tree.WellFormed) (built : Catalog.build policy tree = .ok catalog)
  (wide : tree.root.span.start < tree.root.span.stop)

include wellFormed built wide

/-- A target comes from the function of its name, or from a node below it with the same range. -/
theorem origin (found : targetOf tree catalog name = some target) : ∃ function resolved,
    tree.LastRegistered name function ∧ LeadsTo function resolved ∧
      resolved.span = function.span ∧ function.span.start < function.span.stop ∧
      Hits resolved target := by
  obtain ⟨record, resolved, held, reached, hits⟩ := targetOf_eq_some_iff.mp found
  obtain ⟨function, kind, last, -, rfl⟩ := (Catalog.get?_build_iff built).mp held
  have nests := wellFormed.nests
  have nonempty : function.span.start < function.span.stop := by
    by_contra empty
    have root := SyntaxTree.resolve?_empty nests reached (Nat.le_of_not_lt empty)
    rw [root] at wide
    exact empty wide
  have region : function.span = (Catalog.recordOf tree function name kind).region.span := rfl
  obtain ⟨resolved', reached', leads, same⟩ :=
    SyntaxTree.resolve?_of_span nests last.registers.isPlace region nonempty
  obtain rfl := Option.some.inj (reached.symm.trans reached')
  exact ⟨function, resolved, last, leads, same, nonempty, hits⟩

theorem binds_of_bound (keywordFirst : tree.KeywordFirst)
    (found : targetOf tree catalog name = some (.bound declaration declarator)) :
    IsPlace tree.root declaration ∧ Holds declaration declarator ∧
      isDeclarator declarator.node = true ∧ ∃ function, tree.LastRegistered name function ∧
        ¬ IsDeclaration function ∧ tree.Binds declarator function name := by
  obtain ⟨function, resolved, last, leads, same, nonempty, notDeclaration, held, kind, held'⟩ :=
    origin wellFormed built wide found
  have nests := wellFormed.nests
  have isFunction := last.registers.isPlace
  have isResolved := isFunction.leadsTo leads
  have isDeclarator := isResolved.of_child held
  have isDeclaration := isDeclarator.of_child held'
  refine ⟨isDeclaration, held', kind, function, last, ?_⟩
  have here : resolved = function := by
    by_contra different
    have above := (leads.of_holds held).resolve_left (Ne.symm different)
    have notItself := last.ne_declarator kind
    have above := (above.of_holds held').resolve_left notItself
    -- The declarator starts behind a keyword, the function at it or before.
    have late := start_lt_declarator wellFormed keywordFirst isDeclaration held' kind held
      (same ▸ nonempty)
    have outer := Cursor.span_inside nests isFunction above
    have inner := Cursor.span_inside nests isDeclarator (.single held)
    rw [same] at inner
    omega
  subst here
  refine ⟨notDeclaration, ?_⟩
  rcases last.registers.declaration_or_bound with declaration | ⟨-, binder, binds⟩
  · exact absurd declaration notDeclaration
  · exact Cursor.parent_unique held binds.holds ▸ binds

end Origins

section Units

variable {tree : SyntaxTree} {catalog : Catalog} {policy : DuplicatePolicy} {names : List String}
  {targets : List Target} {declaration declarator : Cursor}
  (wellFormed : tree.WellFormed) (keywordFirst : tree.KeywordFirst)
  (built : Catalog.build policy tree = .ok catalog)
  (wide : tree.root.span.start < tree.root.span.stop)
  (standing : Removal.targets tree catalog (NameSet.ofList names) = .ok targets)

include wellFormed keywordFirst built wide standing

theorem bound_unit (member : .bound declaration declarator ∈ targets) :
    IsPlace tree.root declaration ∧ Holds declaration declarator ∧
      isDeclarator declarator.node = true ∧ ∃ name ∈ names, tree.IsUnit name declarator := by
  obtain ⟨name, requested, found⟩ := (mem_targets_iff standing).mp member
  obtain ⟨isPlace, held, kind, function, last, bound, binds⟩ :=
    binds_of_bound wellFormed built wide keywordFirst found
  exact ⟨isPlace, held, kind, name, NameSet.mem_ofList.mp requested, function, last,
    .inr ⟨bound, binds⟩⟩

theorem dropped_nodup (start : Nat) : ((boundAt start targets).map Prod.snd).Nodup := by
  rw [List.Nodup, List.pairwise_map, boundAt, List.pairwise_filterMap,
    (targets_eq_ok_iff.mp standing).2, List.pairwise_filterMap]
  refine (NameSet.ofList names).sorted.imp ?_
  intro name name' less target found target' found' pair filed pair' filed' same
  cases target with
  | declared _ => cases filed
  | bound declaration declarator =>
      cases target' with
      | declared _ => cases filed'
      | bound declaration' declarator' =>
          simp only [Option.ite_none_right_eq_some, Option.some.injEq] at filed filed'
          obtain ⟨-, rfl⟩ := filed
          obtain ⟨-, rfl⟩ := filed'
          obtain rfl : declarator = declarator' := same
          obtain ⟨-, -, -, function, -, -, binds⟩ :=
            binds_of_bound wellFormed built wide keywordFirst found
          obtain ⟨-, -, -, function', -, -, binds'⟩ :=
            binds_of_bound wellFormed built wide keywordFirst found'
          obtain ⟨-, rfl⟩ := binds.unique binds'
          exact absurd less (String.lt_irrefl name)

variable (declaratorsNamed : tree.DeclaratorsNamed)

include declaratorsNamed

theorem dropped_subset {group : Group} (isGroup : IsGroup targets group) :
    group.dropped ⊆ declarators group.declaration := by
  intro child dropped
  obtain ⟨opened, member⟩ := isGroup.opened
  obtain ⟨isPlace, heldOpened, kindOpened, -⟩ :=
    bound_unit wellFormed keywordFirst built wide standing member
  obtain ⟨declaration, member', together⟩ := isGroup.mem_dropped_iff.mp dropped
  obtain ⟨isPlace', held', kind', -⟩ :=
    bound_unit wellFormed keywordFirst built wide standing member'
  obtain rfl := declaration_unique wellFormed keywordFirst isPlace heldOpened kindOpened isPlace'
    held' kind' together
  exact mem_declarators declaratorsNamed isPlace' held' kind'

theorem dropped_subperm {group : Group} (isGroup : IsGroup targets group) :
    group.dropped.Subperm (declarators group.declaration) := by
  refine List.subperm_of_subset ?_
    (dropped_subset wellFormed keywordFirst built wide standing declaratorsNamed isGroup)
  rw [isGroup.2]
  exact dropped_nodup wellFormed keywordFirst built wide standing _

theorem dropped_of_whole {group : Group} (isGroup : IsGroup targets group)
    (all : group.dropped.length = declaratorCount group.declaration.node)
    (held : Holds group.declaration declarator) (kind : isDeclarator declarator.node = true) :
    declarator ∈ group.dropped := by
  obtain ⟨opened, member⟩ := isGroup.opened
  obtain ⟨isPlace, -⟩ := bound_unit wellFormed keywordFirst built wide standing member
  have count := length_declarators group.declaration
  -- As many distinct declarators are dropped as there are, so these are all of them.
  have subperm := dropped_subperm wellFormed keywordFirst built wide standing declaratorsNamed
    isGroup
  have perm := subperm.perm_of_length_le (by omega)
  exact perm.mem_iff.mpr (mem_declarators declaratorsNamed isPlace held kind)

theorem goesWhole_of_all {group : Group} (isGroup : IsGroup targets group)
    (all : group.dropped.length = declaratorCount group.declaration.node) :
    GoesWhole tree names group.declaration := by
  intro declarator held kind
  have dropped := dropped_of_whole wellFormed keywordFirst built wide standing declaratorsNamed
    isGroup all held kind
  obtain ⟨declaration, member, -⟩ := isGroup.mem_dropped_iff.mp dropped
  exact (bound_unit wellFormed keywordFirst built wide standing member).2.2.2

end Units

section Frame

variable {tree : SyntaxTree} {catalog : Catalog} {policy : DuplicatePolicy} {names : List String}
  {targets : List Target} {place : Cursor}

/-- A place that no requested unit is related to and that would go along with none. -/
def Aside (tree : SyntaxTree) (names : List String) (place : Cursor) : Prop :=
  ∀ name ∈ names, ∀ unit, tree.IsUnit name unit →
    ¬ Related unit place ∧ ¬ Alongside tree names unit place

variable (wellFormed : tree.WellFormed) (isPlace : IsPlace tree.root place)
  (aside : Aside tree names place) {byte : Nat}
  (shares : place.span.start ≤ byte ∧ byte < place.span.stop)

include wellFormed isPlace aside shares

theorem apart_of_aside {name : String} {function below : Cursor} (requested : name ∈ names)
    (last : tree.LastRegistered name function) (leads : LeadsTo function below) :
    ¬ (below.span.start ≤ byte ∧ byte < below.span.stop) := by
  intro inside
  obtain ⟨unit, isUnit, above, -⟩ := last.exists_unit
  have unrelated := (aside name requested unit isUnit).1
  have isBelow := last.registers.isPlace.leadsTo leads
  rcases Cursor.related_of_overlap wellFormed.nests isBelow isPlace byte inside shares with
    down | up
  · exact unrelated (.inl ((above.trans leads).trans down))
  · exact unrelated (Cursor.related_of_leadsTo (above.trans leads) up)

/-- Of what is cut with the declaration of a unit only the declaration can lead to a place aside. -/
theorem leadsTo_of_aside {name : String} {unit declaration : Cursor} (requested : name ∈ names)
    (isUnit : tree.IsUnit name unit) (isDeclaration : IsPlace tree.root declaration)
    (whose : declaration = unit ∨ Holds declaration unit ∧ isDeclarator unit.node = true ∧
      GoesWhole tree names declaration)
    (inside : (withExport declaration).span.start ≤ byte ∧
      byte < (withExport declaration).span.stop) : LeadsTo declaration place := by
  obtain ⟨unrelated, notAlong⟩ := aside name requested unit isUnit
  have leads : LeadsTo declaration unit := by
    rcases whose with rfl | ⟨held, -⟩
    · exact .refl
    · exact .single held
  have isCut := isPlace_withExport isDeclaration
  have related := Cursor.related_of_overlap wellFormed.nests isCut isPlace byte inside shares
  rcases withExport_cases isDeclaration with ⟨statement, held, exports, same⟩ | ⟨-, same⟩
  · rw [same] at related
    rcases related with down | up
    · by_contra outside
      exact notAlong (.exported held exports whose down outside)
    · exact absurd (.inr ((up.tail held).trans leads)) unrelated
  · rw [same] at related
    rcases related with down | up
    · exact down
    · exact absurd (.inr (up.trans leads)) unrelated

variable (built : Catalog.build policy tree = .ok catalog)
  (standing : Removal.targets tree catalog (NameSet.ofList names) = .ok targets)

include built standing

theorem declared_aside {declaration : Cursor} (member : .declared declaration ∈ targets) :
    ¬ ((withExport declaration).span.start ≤ byte ∧ byte < (withExport declaration).span.stop) := by
  intro inside
  have wide := wellFormed.root_nonempty isPlace (by omega)
  obtain ⟨name, requested, found⟩ := (mem_targets_iff standing).mp member
  rw [NameSet.mem_ofList] at requested
  obtain ⟨function, resolved, last, leads, -, -, form, rfl⟩ := origin wellFormed built wide found
  have isResolved := last.registers.isPlace.leadsTo leads
  by_cases own : function = resolved
  · subst own
    obtain ⟨unit, isUnit, -, same⟩ := last.exists_unit
    obtain rfl := same form
    have below := leadsTo_of_aside wellFormed isPlace aside shares requested isUnit isResolved
      (.inl rfl) inside
    exact (aside name requested unit isUnit).1 (.inl below)
  · have leads' := leadsTo_withExport isResolved leads own
    exact apart_of_aside wellFormed isPlace aside shares requested last leads' inside

variable (keywordFirst : tree.KeywordFirst) (declaratorsNamed : tree.DeclaratorsNamed)

include keywordFirst declaratorsNamed

theorem whole_aside {group : Group} (isGroup : IsGroup targets group)
    (all : group.dropped.length = declaratorCount group.declaration.node) :
    ¬ ((withExport group.declaration).span.start ≤ byte ∧
      byte < (withExport group.declaration).span.stop) := by
  intro inside
  have wide := wellFormed.root_nonempty isPlace (by omega)
  obtain ⟨opened, member⟩ := isGroup.opened
  obtain ⟨isDeclaration, held, kind, name, requested, isUnit⟩ :=
    bound_unit wellFormed keywordFirst built wide standing member
  obtain ⟨unrelated, notAlong⟩ := aside name requested opened isUnit
  have whole := goesWhole_of_all wellFormed keywordFirst built wide standing declaratorsNamed
    isGroup all
  have below := leadsTo_of_aside wellFormed isPlace aside shares requested isUnit isDeclaration
    (.inr ⟨held, kind, whole⟩) inside
  rcases below.eq_or_child with rfl | ⟨part, held', below⟩
  · exact unrelated (.inr (.single held))
  · by_cases kind' : isDeclarator part.node = true
    · -- A declarator above the place is dropped, and so it is a unit itself.
      obtain ⟨name', requested', isUnit'⟩ := whole part held' kind'
      exact (aside name' requested' part isUnit').1 (.inl below)
    · exact notAlong (.within held kind whole held' (by simpa using kind') below)

omit shares in
theorem not_covered_of_aside {before after : List Char} {c : Char}
    (split : tree.source = before ++ c :: after) (seen : Text.isBlank c = false)
    (shares : place.span.start ≤ Text.byteLength before ∧
      Text.byteLength before < place.span.stop) :
    ¬ Text.Covered (spans tree.source targets) (Text.byteLength before) := by
  rintro ⟨span, among, inside⟩
  cases mem_spans_iff.mp among with
  | declared member =>
      exact declared_aside wellFormed isPlace aside shares built standing member inside
  | whole isGroup all =>
      exact whole_aside wellFormed isPlace aside shares built standing keywordFirst
        declaratorsNamed isGroup all inside
  | single isGroup some dropped =>
      have wide := wellFormed.root_nonempty isPlace (by omega)
      obtain ⟨declaration, member, -⟩ := isGroup.mem_dropped_iff.mp dropped
      obtain ⟨isDeclaration, held, kind, name, requested, isUnit⟩ :=
        bound_unit wellFormed keywordFirst built wide standing member
      obtain ⟨unrelated, notAlong⟩ := aside name requested _ isUnit
      rcases declaratorSpan_overlap wellFormed isDeclaration held isPlace split seen inside shares
        with above | below | ⟨comma, takes, below⟩
      · exact unrelated (.inr (above.tail held))
      · exact unrelated (.inl below)
      · exact notAlong (.comma held kind takes.holds takes.1 below)

end Frame

/-- The visible characters of a place aside survive side by side, and what is left before and behind
them stood there in the source. -/
theorem aside_survives {tree : SyntaxTree} {catalog : Catalog} {policy : DuplicatePolicy}
    {names : List String} {pruned : Pruned} {place : Cursor} (wellFormed : tree.WellFormed)
    (declaratorsNamed : tree.DeclaratorsNamed) (keywordFirst : tree.KeywordFirst)
    (built : Catalog.build policy tree = .ok catalog)
    (done : removeFunctions tree catalog names = .ok pruned) (isPlace : IsPlace tree.root place)
    (aside : Aside tree names place) :
    ∃ front back before after, tree.source = front ++ Text.slice tree.source place.span ++ back ∧
      Text.byteLength front = place.span.start ∧
      Text.visible pruned.source =
        before ++ Text.visible (Text.slice tree.source place.span) ++ after ∧
      before.Sublist (Text.visible front) ∧ after.Sublist (Text.visible back) := by
  obtain ⟨targets, standing, -⟩ := removeFunctions_eq_ok_iff.mp done
  obtain ⟨front, back, split, starts, stops⟩ := (wellFormed.fits isPlace).slice
  have free : ∀ lead c trail, Text.slice tree.source place.span = lead ++ c :: trail →
      Text.isBlank c = false →
        ¬ Text.Covered (spans tree.source targets) (Text.byteLength (front ++ lead)) := by
    intro lead c trail parted seen
    have split' : tree.source = (front ++ lead) ++ c :: (trail ++ back) := by
      rw [parted] at split
      simpa using split
    refine not_covered_of_aside wellFormed isPlace aside built standing keywordFirst
      declaratorsNamed split' seen ?_
    have pos := c.utf8Size_pos
    rw [parted] at stops
    simp only [Text.byteLength_append, Text.byteLength_cons] at stops ⊢
    omega
  obtain ⟨before, after, same, earlier, later⟩ := Text.visible_remainder_part front _ back free
  refine ⟨front, back, before, after, split, starts, ?_, earlier, later⟩
  rw [visible_source wellFormed standing done, ← same, ← split]

section Witness

variable {name : String} {unit : Cursor}

/-- What leads to the declarator of `a` are the declaration that holds it and the program. -/
theorem exportAndPair_above {other : Cursor}
    (leads : LeadsTo other (Sketch.place exportAndPair [1, 1])) :
    other = Sketch.place exportAndPair [1, 1] ∨ other = Sketch.place exportAndPair [1] ∨
      other = Cursor.ofRoot exportAndPair.root := by
  have held : Holds (Sketch.place exportAndPair [1]) (Sketch.place exportAndPair [1, 1]) := ⟨1, rfl⟩
  have held' : Holds (Cursor.ofRoot exportAndPair.root) (Sketch.place exportAndPair [1]) := ⟨1, rfl⟩
  rcases leads.of_holds held with same | leads
  · exact .inl same
  · rcases leads.of_holds held' with same | leads
    · exact .inr (.inl same)
    · exact .inr (.inr leads.eq_ofRoot)

theorem exportAndPair_unrelated (wellFormed : exportAndPair.WellFormed)
    (requested : name ∈ ["f", "g"]) (isUnit : exportAndPair.IsUnit name unit) :
    ¬ Related unit (Sketch.place exportAndPair [1, 1]) := by
  obtain ⟨function, among, registered, leads, whose⟩ := isUnit.exists_function
  have elsewhere : ∀ function ∈ exportAndPair.functions, ∀ name ∈ ["f", "g"],
      (exportAndPair.catalogName? function).map Prod.fst = some name →
        function.span.start < function.span.stop ∧
          (function.span.stop ≤ 22 ∨ 38 ≤ function.span.start) := by decide +kernel
  have apart := elsewhere function among name requested registered
  -- No function of the two names stands at or below the declarator.
  have notBelow : ¬ LeadsTo (Sketch.place exportAndPair [1, 1]) function := by
    intro below
    have inside : 27 ≤ function.span.start ∧ function.span.stop ≤ 32 :=
      Cursor.span_inside wellFormed.nests (Sketch.isPlace_place exportAndPair [1, 1]) below
    omega
  have notUnit : ∀ other, other = Sketch.place exportAndPair [1] ∨
      other = Cursor.ofRoot exportAndPair.root →
        ¬ IsDeclaration other ∧ other.kind ≠ "variable_declarator" := by
    rintro other (rfl | rfl) <;> decide +kernel
  rintro (down | up)
  · rcases exportAndPair_above down with rfl | outer
    · exact notBelow leads
    · obtain ⟨notDeclaration, notDeclarator⟩ := notUnit unit outer
      rcases whose with ⟨declaration, rfl⟩ | ⟨-, kind⟩
      · exact notDeclaration declaration
      · exact notDeclarator kind
  · exact notBelow (up.trans leads)

/-- What stands beside a declarator and leads to that of `a` is a declarator, too. -/
theorem exportAndPair_beside {declaration part : Cursor} (held : Holds declaration unit)
    (kind : isDeclarator unit.node = true) (held' : Holds declaration part)
    (below : LeadsTo part (Sketch.place exportAndPair [1, 1])) :
    isDeclarator part.node = true := by
  rcases exportAndPair_above below with rfl | rfl | rfl
  · decide +kernel
  · have outer : Holds (Cursor.ofRoot exportAndPair.root) (Sketch.place exportAndPair [1]) :=
      ⟨1, rfl⟩
    obtain rfl := Cursor.parent_unique outer held'
    have none : ∀ child ∈ (Cursor.ofRoot exportAndPair.root).children,
        isDeclarator child.node = false := by decide +kernel
    cases kind.symm.trans (none unit (Cursor.mem_children_iff.mpr held))
  · exact absurd held' (Cursor.not_holds_ofRoot _ _)

theorem exportAndPair_notAlongside :
    ¬ Alongside exportAndPair ["f", "g"] unit (Sketch.place exportAndPair [1, 1]) := by
  intro along
  cases along with
  | exported held exports whose below outside =>
      rcases exportAndPair_above below with rfl | rfl | rfl <;> revert exports <;> decide +kernel
  | within held kind whole held' other below =>
      cases other.symm.trans (exportAndPair_beside held kind held' below)
  | comma held kind held' separates below =>
      have other := isDeclarator_of_isComma separates
      cases other.symm.trans (exportAndPair_beside held kind held' below)

theorem exportAndPair_aside (wellFormed : exportAndPair.WellFormed) :
    Aside exportAndPair ["f", "g"] (Sketch.place exportAndPair [1, 1]) := by
  intro name requested unit isUnit
  exact ⟨exportAndPair_unrelated wellFormed requested isUnit, exportAndPair_notAlongside⟩

end Witness

/-- The declarator beside a dropped one survives. -/
theorem exportAndPair_survives : exportAndPair.WellFormed ∧ exportAndPair.DeclaratorsNamed ∧
    exportAndPair.KeywordFirst ∧
    Aside exportAndPair ["f", "g"] (Sketch.place exportAndPair [1, 1]) ∧ ∃ pruned before after,
      removeFunctions exportAndPair exportAndPairCatalog ["f", "g"] = .ok pruned ∧
      Text.visible pruned.source = before ++ "a=1".toList ++ after := by
  have wellFormed : exportAndPair.WellFormed := by decide +kernel
  have declaratorsNamed : exportAndPair.DeclaratorsNamed := by decide +kernel
  have keywordFirst : exportAndPair.KeywordFirst := by decide +kernel
  have built : Catalog.build .reject exportAndPair = .ok exportAndPairCatalog := rfl
  have aside := exportAndPair_aside wellFormed
  obtain ⟨pruned, done⟩ : ∃ pruned,
      removeFunctions exportAndPair exportAndPairCatalog ["f", "g"] = .ok pruned := ⟨_, rfl⟩
  obtain ⟨front, back, before, after, -, -, seen, -, -⟩ :=
    aside_survives wellFormed declaratorsNamed keywordFirst built done (Sketch.isPlace_place _ _)
      aside
  exact ⟨wellFormed, declaratorsNamed, keywordFirst, aside, pruned, before, after, done, seen⟩

/-- `@d(() => { function g() {} })`, then `export function f() {}` on the next line. -/
def decorated : SyntaxTree :=
  Sketch.program "@d(() => \x7b function g() \x7b\x7d \x7d)\nexport function f() \x7b\x7d"
    [Sketch.rule "export_statement" 0 52
      [Sketch.under "decorator" (Sketch.rule "decorator" 0 29
          [Sketch.token "@" 0, Sketch.rule "call_expression" 1 29
            [Sketch.under "function" (Sketch.identifier 1),
              Sketch.under "arguments" (Sketch.rule "arguments" 2 29
                [Sketch.token "(" 2,
                  Sketch.rule "arrow_function" 3 28
                    [Sketch.under "parameters" (Sketch.brackets "formal_parameters" 3),
                      Sketch.token "=>" 6,
                      Sketch.under "body" (Sketch.block 9 28
                        [Sketch.function "function_declaration" 11 26 []])],
                  Sketch.token ")" 28])]]),
        Sketch.token "export" 30,
        Sketch.under "declaration" (Sketch.function "function_declaration" 37 52 [])]]

def decoratedCatalog : Catalog :=
  (Catalog.build .lastWriterWins decorated).toOption.getD ∅

/-- The declaration of `g` goes along with that of `f`, though neither stands in the other. -/
theorem decorated_not_kept : decorated.WellFormed ∧ decorated.DeclaratorsNamed ∧
    decorated.KeywordFirst ∧
    (∀ statement, IsPlace decorated.root statement → statement.kind = "export_statement" →
      statement.node.children.countP (Node.isUnder "declaration") ≤ 1) ∧
    Catalog.build .lastWriterWins decorated = .ok decoratedCatalog ∧
    ∃ place pruned, IsPlace decorated.root place ∧ IsDeclaration place ∧
      (∀ unit, decorated.IsUnit "f" unit → ¬ Related unit place) ∧
      removeFunctions decorated decoratedCatalog ["f"] = .ok pruned ∧
      Text.visible (Text.slice decorated.source place.span) = "functiong()\x7b\x7d".toList ∧
      Text.visible pruned.source = [] := by
  have wellFormed : decorated.WellFormed := by decide +kernel
  have isPlace := Sketch.isPlace_place decorated [0, 0, 1, 1, 1, 2, 1]
  obtain ⟨pruned, done⟩ : ∃ pruned,
      removeFunctions decorated decoratedCatalog ["f"] = .ok pruned := ⟨_, rfl⟩
  refine ⟨wellFormed, by decide +kernel, by decide +kernel, ?_, rfl,
    Sketch.place decorated [0, 0, 1, 1, 1, 2, 1], pruned, isPlace, by decide +kernel, ?_, done,
    by decide +kernel, ?_⟩
  · have all : ∀ statement ∈ decorated.nodes, statement.kind = "export_statement" →
        statement.node.children.countP (Node.isUnder "declaration") ≤ 1 := by decide +kernel
    intro statement isStatement
    exact all statement (Cursor.mem_walk_iff.mpr isStatement)
  · have only : ∀ function ∈ decorated.functions,
        (decorated.catalogName? function).map Prod.fst = some "f" →
          IsDeclaration function ∧ function.span = ⟨37, 52⟩ := by decide +kernel
    intro unit isUnit related
    obtain ⟨function, among, registered, -, whose⟩ := isUnit.exists_function
    obtain ⟨declaration, span⟩ := only function among registered
    obtain ⟨-, rfl⟩ := whose.resolve_right fun bound => bound.1 declaration
    have isUnit' := (SyntaxTree.mem_functions_iff.mp among).1
    rcases related with down | up
    · have inside : unit.span.start ≤ 11 ∧ 26 ≤ unit.span.stop :=
        Cursor.span_inside wellFormed.nests isUnit' down
      simp [span] at inside
    · have inside : 11 ≤ unit.span.start ∧ unit.span.stop ≤ 26 :=
        Cursor.span_inside wellFormed.nests isPlace up
      simp [span] at inside
  · obtain ⟨targets, standing, -⟩ := removeFunctions_eq_ok_iff.mp done
    rw [visible_source wellFormed standing done, ← Except.ok.inj standing]
    decide +kernel

end Removal

end CallAtlas
