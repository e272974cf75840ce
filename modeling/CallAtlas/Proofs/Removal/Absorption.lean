import CallAtlas.Proofs.Removal.Frame
import CallAtlas.Proofs.Removal.Tokens

/-!
Removals inside of removals. The cut of a function takes in the function, and what
is cut for another one inside of it, be it a declarator or a whole statement, and
with its lines or without, stays between what is visible of the outer one before
and behind it. So a name more changes nothing if the statement of its function
stands inside of a function that is removed (`nested_absorbed`).
-/

namespace CallAtlas

open Cursor (Holds IsPlace LeadsTo)
open SyntaxTree (IsDeclaration)

namespace Text

/-- A span inside of another that has something to see before and behind it. -/
structure Span.Surrounds (text : List Char) (outer inner : Span) : Prop where
  lower : outer.start ≤ inner.start
  upper : inner.stop ≤ outer.stop
  ahead : visible (slice text ⟨outer.start, inner.start⟩) ≠ []
  behind : visible (slice text ⟨inner.stop, outer.stop⟩) ≠ []

variable {text : List Char} {span inner outer : Span}

theorem exists_visible (fits : span.Fits text) (seen : visible (slice text span) ≠ []) :
    ∃ before c after, text = before ++ c :: after ∧ isBlank c = false ∧
      span.start ≤ byteLength before ∧ byteLength before < span.stop := by
  obtain ⟨c, member⟩ := List.exists_mem_of_ne_nil _ seen
  obtain ⟨member, shown⟩ := List.mem_filter.mp member
  obtain ⟨lead, trail, parted⟩ := List.append_of_mem member
  obtain ⟨front, back, split, starts, stops⟩ := fits.slice
  rw [parted] at split stops
  refine ⟨front ++ lead, c, trail ++ back, by simpa using split, by simpa using shown, ?_⟩
  have pos := c.utf8Size_pos
  simp only [byteLength_append, byteLength_cons] at stops ⊢
  omega

theorem Span.Surrounds.exists_ahead (surrounds : outer.Surrounds text inner)
    (around : outer.Fits text) (inside : inner.Fits text) :
    ∃ before c after, text = before ++ c :: after ∧ isBlank c = false ∧
      outer.start ≤ byteLength before ∧ byteLength before < inner.start := by
  have gap : (⟨outer.start, inner.start⟩ : Span).Fits text :=
    ⟨surrounds.lower, around.start, inside.start⟩
  exact exists_visible gap surrounds.ahead

theorem Span.Surrounds.exists_behind (surrounds : outer.Surrounds text inner)
    (around : outer.Fits text) (inside : inner.Fits text) :
    ∃ before c after, text = before ++ c :: after ∧ isBlank c = false ∧
      inner.stop ≤ byteLength before ∧ byteLength before < outer.stop := by
  have gap : (⟨inner.stop, outer.stop⟩ : Span).Fits text :=
    ⟨surrounds.upper, inside.stop, around.stop⟩
  exact exists_visible gap surrounds.behind

/-- The lines that go with a span stay between what is visible around it. -/
theorem widen_surrounded (fits : span.Fits text) (inside : inner.Fits text)
    (around : outer.Fits text) (surrounds : outer.Surrounds text inner)
    (showsIn : span.ShowsIn text inner) :
    outer.start ≤ (span.widen text).start ∧ (span.widen text).stop ≤ outer.stop := by
  have bounds := widen_bounds fits
  have ordered := fits.ordered
  have within := showsIn.lower
  have reach := showsIn.upper
  obtain ⟨before, c, after, split, seen, lower, upper⟩ :=
    surrounds.exists_ahead around inside
  obtain ⟨before', c', after', split', seen', lower', upper'⟩ :=
    surrounds.exists_behind around inside
  have first := widen_visible fits split seen
  have last := widen_visible fits split' seen'
  have beyond := showsIn.shows before' c' after' split' seen'
  constructor
  · by_contra early
    have := first.mp ⟨by omega, by omega⟩
    omega
  · by_contra late
    have := last.mp ⟨by omega, by omega⟩
    omega

end Text

namespace SyntaxTree

/-- The statement of the function that a catalog has under a name: its declaration, or the variable
declaration that it is bound in, with the export. -/
inductive IsStatement (tree : SyntaxTree) (name : String) : Cursor → Prop where
  | declared {function : Cursor} (last : tree.LastRegistered name function)
      (form : IsDeclaration function) : IsStatement tree name (Removal.withExport function)
  | bound {function declaration declarator : Cursor} (last : tree.LastRegistered name function)
      (form : ¬ IsDeclaration function) (binds : tree.Binds declarator function name)
      (held : Holds declaration declarator) : IsStatement tree name (Removal.withExport declaration)

variable {tree : SyntaxTree} {name : String} {function statement : Cursor}

theorem IsStatement.isPlace (whose : tree.IsStatement name statement) :
    IsPlace tree.root statement := by
  cases whose with
  | declared last form => exact Removal.isPlace_withExport last.registers.isPlace
  | bound last form binds held =>
      exact Removal.isPlace_withExport ((last.registers.isPlace.of_child binds.holds).of_child held)

theorem IsStatement.around (whose : tree.IsStatement name statement) (wellFormed : tree.WellFormed)
    (last : tree.LastRegistered name function) :
    statement.span.start ≤ (Removal.withExport function).span.start ∧
      (Removal.withExport function).span.stop ≤ statement.span.stop := by
  have isFunction := last.registers.isPlace
  cases whose with
  | declared last' form =>
      obtain rfl := last.unique last'
      exact ⟨Nat.le_refl _, Nat.le_refl _⟩
  | @bound _ declaration declarator last' form binds held =>
      obtain rfl := last.unique last'
      -- The parent of the function is a declarator, and no export statement.
      have alone : Removal.withExport function = function := by
        rcases Removal.withExport_cases isFunction with ⟨parent, held', exports, -⟩ | ⟨-, same⟩
        · obtain rfl := Cursor.parent_unique held' binds.holds
          rw [binds.isDeclarator] at exports
          simp at exports
        · exact same
      have isDeclaration := (isFunction.of_child binds.holds).of_child held
      have inner := Cursor.span_inside wellFormed.nests isDeclaration
        (.tail (.single held) binds.holds)
      have outer := Removal.inside_withExport wellFormed isDeclaration
      rw [alone]
      omega

end SyntaxTree

namespace Removal

def Target.home : Target → Cursor
  | declared declaration => declaration
  | bound declaration _ => declaration

/-- The variable declaration that a name is to be removed from, if there is one, is told from all
others by where it starts. Declarators are filed under that offset, and two declarations with one
start are taken for one. -/
def StartsAlone (tree : SyntaxTree) (catalog : Catalog) (name : String) : Prop :=
  ∀ declaration declarator, targetOf tree catalog name = some (.bound declaration declarator) →
    ∀ other declarator', IsPlace tree.root other → Holds other declarator' →
      isDeclarator declarator'.node = true → other.span.start = declaration.span.start →
        other = declaration

theorem startsAlone_of_keywordFirst {tree : SyntaxTree} (wellFormed : tree.WellFormed)
    (keywordFirst : tree.KeywordFirst) (catalog : Catalog) (name : String) :
    StartsAlone tree catalog name := by
  intro declaration declarator found other declarator' isOther held' kind' together
  obtain ⟨record, resolved, -, reached, -, held, kind, held''⟩ := targetOf_eq_some_iff.mp found
  have isPlace := ((SyntaxTree.resolve?_eq_some reached).2.2.of_child held).of_child held''
  exact declaration_unique wellFormed keywordFirst isPlace held'' kind isOther held' kind' together

/-- The place and its export stand inside of another place. -/
def StaysIn (statement place : Cursor) : Prop :=
  statement.span.start ≤ (withExport place).span.start ∧
    (withExport place).span.stop ≤ statement.span.stop

structure Alike (statement : Cursor) (targets targets' : List Target) : Prop where
  declared : ∀ declaration, .declared declaration ∈ targets →
    .declared declaration ∈ targets' ∨ StaysIn statement declaration
  filed : ∀ start, boundAt start targets = boundAt start targets' ∨
    ∀ declaration declarator, .bound declaration declarator ∈ targets →
      declaration.span.start = start → StaysIn statement declaration

section Targets

variable {tree : SyntaxTree} {catalog : Catalog} {policy : DuplicatePolicy} {name : String}
  {requested requested' : NameSet} {targets targets' : List Target} {target : Target}
  {statement function : Cursor} {span : Text.Span} {byte : Nat}

theorem boundAt_congr {start : Nat}
    (standing : Removal.targets tree catalog requested = .ok targets)
    (standing' : Removal.targets tree catalog requested' = .ok targets')
    (others : ∀ other, other ≠ name → (other ∈ requested ↔ other ∈ requested'))
    (elsewhere : ∀ target, targetOf tree catalog name = some target → boundAt start [target] = []) :
    boundAt start targets = boundAt start targets' := by
  have without : ∀ set : NameSet,
      boundAt start ((set.without [name]).toList.filterMap (targetOf tree catalog)) =
        boundAt start (set.toList.filterMap (targetOf tree catalog)) := by
    intro set
    rw [NameSet.without, NameSet.filter]
    simp only [boundAt, List.filterMap_filterMap, List.filterMap_filter]
    congr 1
    funext other
    split
    · rfl
    · next here =>
        obtain rfl : other = name := by simpa using here
        cases found : targetOf tree catalog other with
        | none => rfl
        | some target =>
            have none := elsewhere target found
            symm
            simpa [boundAt] using none
  have same : requested.without [name] = requested'.without [name] := by
    ext other
    simp only [NameSet.mem_without, List.mem_singleton]
    exact and_congr_left fun different => others other different
  rw [(targets_eq_ok_iff.mp standing).2, (targets_eq_ok_iff.mp standing').2, ← without, same,
    without]

/-- Requests that differ in a name have targets that differ in the statement of its function. -/
theorem alike_of_requested (alone : StartsAlone tree catalog name)
    (stays : ∀ target, targetOf tree catalog name = some target → StaysIn statement target.home)
    (standing : Removal.targets tree catalog requested = .ok targets)
    (standing' : Removal.targets tree catalog requested' = .ok targets')
    (others : ∀ other, other ≠ name → (other ∈ requested ↔ other ∈ requested')) :
    Alike statement targets targets' := by
  constructor
  · intro declaration member
    obtain ⟨other, among, found⟩ := (mem_targets_iff standing).mp member
    by_cases same : other = name
    · subst same
      exact .inr (stays _ found)
    · exact .inl ((mem_targets_iff standing').mpr ⟨other, (others other same).mp among, found⟩)
  · intro start
    by_cases elsewhere : ∀ target, targetOf tree catalog name = some target →
        boundAt start [target] = []
    · exact .inl (boundAt_congr standing standing' others elsewhere)
    · right
      simp only [not_forall] at elsewhere
      obtain ⟨target, found, here⟩ := elsewhere
      obtain ⟨⟨home, declarator'⟩, filed⟩ := List.exists_mem_of_ne_nil _ here
      obtain ⟨only, starts⟩ := mem_boundAt_iff.mp filed
      obtain rfl := List.mem_singleton.mp only
      intro declaration declarator member starts'
      obtain ⟨isPlace, held⟩ := (stand_of_targets standing).bound member
      have kind := (stand_of_targets standing).isDeclarator member
      obtain rfl := alone home declarator' found declaration declarator isPlace held kind (by omega)
      exact stays _ found

theorem Alike.cuts (alike : Alike statement targets targets') (wellFormed : tree.WellFormed)
    (stand : Stand tree targets) (cuts : Cuts tree.source targets span) :
    Cuts tree.source targets' span ∨ span.ShowsIn tree.source statement.span := by
  have shown : ∀ place, IsPlace tree.root place → StaysIn statement place →
      (withExport place).span.ShowsIn tree.source statement.span := by
    intro place isPlace stays
    have ordered := (wellFormed.fits (isPlace_withExport isPlace)).ordered
    refine ⟨stays.1, Nat.le_trans ordered stays.2, ?_⟩
    intro before c after split seen inside
    exact Nat.lt_of_lt_of_le inside stays.2
  have regroup : ∀ group, IsGroup targets group → IsGroup targets' group ∨
      ∀ declaration declarator, .bound declaration declarator ∈ targets →
        declaration.span.start = group.declaration.span.start → StaysIn statement declaration := by
    intro group isGroup
    refine (alike.filed group.declaration.span.start).imp_left fun same => ?_
    rw [IsGroup, ← same]
    exact isGroup
  cases cuts with
  | declared member =>
      obtain ⟨function, isPlace, -, rfl⟩ := stand _ member
      exact (alike.declared _ member).imp .declared (shown _ isPlace)
  | @whole group isGroup all =>
      refine (regroup group isGroup).imp (.whole · all) fun stays => ?_
      obtain ⟨opened, member⟩ := isGroup.opened
      exact shown _ (stand.bound member).1 (stays _ opened member rfl)
  | @single group declarator isGroup some dropped =>
      refine (regroup group isGroup).imp (.single · some dropped) fun stays => ?_
      obtain ⟨declaration, member, together⟩ := isGroup.mem_dropped_iff.mp dropped
      obtain ⟨isPlace, held⟩ := stand.bound member
      have inside := stays declaration declarator member together
      have outer := inside_withExport wellFormed isPlace
      exact (declaratorSpan_showsIn wellFormed isPlace held).mono
        (Nat.le_trans inside.1 outer.1) (Nat.le_trans outer.2 inside.2)

variable (wellFormed : tree.WellFormed) (built : Catalog.build policy tree = .ok catalog)
  (wide : tree.root.span.start < tree.root.span.stop)

include wellFormed built wide

theorem home_staysIn (whose : tree.IsStatement name statement)
    (found : targetOf tree catalog name = some target) : StaysIn statement target.home := by
  obtain ⟨function, resolved, last, leads, -, -, hits⟩ := origin wellFormed built wide found
  have isFunction := last.registers.isPlace
  have isResolved := isFunction.leadsTo leads
  have around := whose.around wellFormed last
  have outer := inside_withExport wellFormed isFunction
  have below : ∀ place, IsPlace tree.root place → LeadsTo function place → function ≠ place →
      StaysIn statement place := by
    intro place isPlace leads' different
    have inner := Cursor.span_inside wellFormed.nests isFunction
      (leadsTo_withExport isPlace leads' different)
    unfold StaysIn
    omega
  cases target with
  | declared declaration =>
      obtain ⟨-, rfl⟩ := hits
      by_cases own : function = resolved
      · rw [← own]
        exact around
      · exact below resolved isResolved leads own
  | bound declaration declarator =>
      obtain ⟨form, held, kind, held'⟩ := hits
      have isDeclarator := isResolved.of_child held
      by_cases own : function = resolved
      · subst own
        cases whose with
        | declared last' form' =>
            obtain rfl := last.unique last'
            exact absurd form' form
        | bound last' form' binds held'' =>
            obtain rfl := last.unique last'
            obtain rfl := Cursor.parent_unique held binds.holds
            obtain rfl := Cursor.parent_unique held' held''
            exact ⟨Nat.le_refl _, Nat.le_refl _⟩
      · have above := (leads.of_holds held).resolve_left own
        have above := (above.of_holds held').resolve_left (last.ne_declarator kind)
        by_cases same : function = declaration
        · subst same
          exact around
        · exact below declaration (isDeclarator.of_child held') above same

theorem exists_cut_around (alone : StartsAlone tree catalog name)
    (standing : Removal.targets tree catalog requested = .ok targets) (among : name ∈ requested)
    (last : tree.LastRegistered name function) :
    ∃ cut, Cuts tree.source targets cut ∧ cut.start ≤ function.span.start ∧
      function.span.stop ≤ cut.stop := by
  have nests := wellFormed.nests
  have stand := stand_of_targets standing
  obtain ⟨kind, registered⟩ := last.registers.registered
  have record := (Catalog.get?_build_iff built).mpr ⟨function, kind, last, registered, rfl⟩
  obtain ⟨target, reached⟩ := (targets_eq_ok_iff.mp standing).1 name among _ record
  have found : targetOf tree catalog name = some target := by
    simp [targetOf, record, reached, Except.toOption]
  have member := (mem_targets_iff standing).mpr ⟨name, among, found⟩
  obtain ⟨function', resolved, last', leads, same, -, hits⟩ := origin wellFormed built wide found
  obtain rfl := last.unique last'
  have isResolved := last.registers.isPlace.leadsTo leads
  cases target with
  | declared declaration =>
      obtain ⟨-, rfl⟩ := hits
      exact ⟨_, .declared member, same ▸ inside_withExport wellFormed isResolved⟩
  | bound declaration declarator =>
      obtain ⟨-, held, kind, held'⟩ := hits
      have isDeclarator := isResolved.of_child held
      have isDeclaration := isDeclarator.of_child held'
      have inner := Cursor.span_inside nests isDeclarator (.single held)
      obtain ⟨group, isGroup, together, dropped⟩ := exists_isGroup member
      obtain ⟨opened, member'⟩ := isGroup.opened
      obtain ⟨isPlace, heldOpened⟩ := stand.bound member'
      obtain rfl := alone _ _ found _ _ isPlace heldOpened (stand.isDeclarator member') together
      rw [same] at inner
      by_cases all : group.dropped.length = declaratorCount group.declaration.node
      · have outer := inside_withExport wellFormed isPlace
        have middle := Cursor.span_inside nests isPlace (.single held')
        exact ⟨_, .whole isGroup all, by omega, by omega⟩
      · have outer := inside_declaratorSpan wellFormed isDeclaration held' (.inl rfl)
        exact ⟨_, .single isGroup all dropped, by omega, by omega⟩

end Targets

section Absorption

variable {tree : SyntaxTree} {targets targets' : List Target} {statement function : Cursor}
  {byte : Nat}

theorem removed_nonempty {catalog : Catalog} {policy : DuplicatePolicy} {names : List String}
    {name : String} {pruned : Pruned} (built : Catalog.build policy tree = .ok catalog)
    (done : removeFunctions tree catalog names = .ok pruned) (among : name ∈ names)
    (last : tree.LastRegistered name function) : pruned.removed.isEmpty = false := by
  obtain ⟨targets, -, removed, -⟩ := removeFunctions_eq_ok_iff.mp done
  obtain ⟨kind, registered⟩ := last.registers.registered
  have record := (Catalog.get?_build_iff built).mpr ⟨function, kind, last, registered, rfl⟩
  have held : catalog.contains name = true := by simp [NameMap.contains, record]
  rw [removed]
  apply List.isEmpty_eq_false_iff_exists_mem.mpr
  exact ⟨name, List.mem_filter.mpr ⟨NameSet.mem_ofList.mpr among, held⟩⟩

/-- What the lines of the cuts hold is held for the other targets, too, if one of the cuts there
takes in all that is not shared. -/
theorem Alike.covered (alike : Alike statement targets targets') (wellFormed : tree.WellFormed)
    (stand : Stand tree targets) (stand' : Stand tree targets')
    (isStatement : IsPlace tree.root statement) (isFunction : IsPlace tree.root function)
    (surrounds : function.span.Surrounds tree.source statement.span)
    (around : ∃ cut, Cuts tree.source targets' cut ∧ cut.start ≤ function.span.start ∧
      function.span.stop ≤ cut.stop)
    (covered : Text.Covered (cutLines tree.source targets) byte) :
    Text.Covered (cutLines tree.source targets') byte := by
  obtain ⟨_, member, inside⟩ := covered
  obtain ⟨span, among, rfl⟩ := List.mem_map.mp member
  have cuts := mem_spans_iff.mp among
  rcases alike.cuts wellFormed stand cuts with cuts' | showsIn
  · exact ⟨_, List.mem_map_of_mem (mem_spans_iff.mpr cuts'), inside⟩
  · obtain ⟨cut, cuts', lower, upper⟩ := around
    have within := Text.widen_surrounded (cuts.fits wellFormed stand) (wellFormed.fits isStatement)
      (wellFormed.fits isFunction) surrounds showsIn
    have bounds := Text.widen_bounds (cuts'.fits wellFormed stand')
    exact ⟨_, List.mem_map_of_mem (mem_spans_iff.mpr cuts'), by omega, by omega⟩

end Absorption

/-- Asking for a function whose statement stands inside of a removed one changes nothing. -/
theorem nested_absorbed {tree : SyntaxTree} {catalog : Catalog} {policy : DuplicatePolicy}
    {names : List String} {outer inner : String} {function statement : Cursor}
    {pruned pruned' : Pruned} (wellFormed : tree.WellFormed)
    (built : Catalog.build policy tree = .ok catalog) (alone : StartsAlone tree catalog outer)
    (alone' : StartsAlone tree catalog inner) (among : outer ∈ names)
    (last : tree.LastRegistered outer function) (whose : tree.IsStatement inner statement)
    (surrounds : function.span.Surrounds tree.source statement.span)
    (done : removeFunctions tree catalog names = .ok pruned)
    (done' : removeFunctions tree catalog (inner :: names) = .ok pruned') :
    pruned'.source = pruned.source := by
  obtain ⟨targets, standing, -, -, source⟩ := removeFunctions_eq_ok_iff.mp done
  obtain ⟨targets', standing', -, -, source'⟩ := removeFunctions_eq_ok_iff.mp done'
  have stand := stand_of_targets standing
  have stand' := stand_of_targets standing'
  have isFunction := last.registers.isPlace
  have wide : tree.root.span.start < tree.root.span.stop := by
    have fits := wellFormed.fits whose.isPlace
    obtain ⟨before, _, _, _, _, lower, upper⟩ :=
      surrounds.exists_ahead (wellFormed.fits isFunction) fits
    have ordered := fits.ordered
    have upper' := surrounds.upper
    exact wellFormed.root_nonempty isFunction (by omega)
  have stays : ∀ target, targetOf tree catalog inner = some target →
      StaysIn statement target.home :=
    fun target found => home_staysIn wellFormed built wide whose found
  have requested : outer ∈ NameSet.ofList names := NameSet.mem_ofList.mpr among
  have requested' : outer ∈ NameSet.ofList (inner :: names) := by simp [among]
  have others : ∀ other, other ≠ inner →
      (other ∈ NameSet.ofList names ↔ other ∈ NameSet.ofList (inner :: names)) := by
    intro other different
    simp [different]
  have alike := alike_of_requested alone' stays standing standing' others
  have alike' := alike_of_requested alone' stays standing' standing fun other different =>
    (others other different).symm
  have cut := exists_cut_around wellFormed built wide alone standing requested last
  have cut' := exists_cut_around wellFormed built wide alone standing' requested' last
  have same : cutSpans tree.source (spans tree.source targets') =
      cutSpans tree.source (spans tree.source targets) := by
    rw [cutSpans_eq_remainder wellFormed stand', cutSpans_eq_remainder wellFormed stand]
    apply Text.outside_congr
    intro byte _ _
    constructor
    · exact alike'.covered wellFormed stand' stand whose.isPlace isFunction surrounds cut
    · exact alike.covered wellFormed stand stand' whose.isPlace isFunction surrounds cut'
  -- In both runs the outer function is removed, so that blank runs are collapsed.
  rw [source, source', removed_nonempty built done among last,
    removed_nonempty built done' (List.mem_cons_of_mem inner among) last, same]

theorem exists_pruned (tree : SyntaxTree) (catalog : Catalog) (names : List String)
    (succeeds : (removeFunctions tree catalog names).toBool = true) :
    ∃ pruned, removeFunctions tree catalog names = .ok pruned := by
  cases done : removeFunctions tree catalog names with
  | error fault =>
      rw [done] at succeeds
      cases succeeds
  | ok pruned => exact ⟨pruned, rfl⟩

/-- A function with `let f = () => 0, g = () => 1;` on a line inside of it, and another function. -/
def pairInside : SyntaxTree :=
  Sketch.program
    "function a() \x7b\n let f = () => 0, g = () => 1;\n\x7d\nfunction b() \x7b\x7d\n"
    [Sketch.function "function_declaration" 0 47
      [Sketch.bindings 16 45
        [Sketch.binding 20 31 (Sketch.arrow 24), Sketch.token "," 31,
          Sketch.binding 33 44 (Sketch.arrow 37)]],
      Sketch.function "function_declaration" 48 63 []]

def pairInsideCatalog : Catalog :=
  (Catalog.build .reject pairInside).toOption.getD ∅

/-- The cut of `f` becomes that of the whole line, inside of the cut of `a`. -/
theorem pairInside_absorbed : pairInside.WellFormed ∧
    Catalog.build .reject pairInside = .ok pairInsideCatalog ∧
    StartsAlone pairInside pairInsideCatalog "a" ∧ StartsAlone pairInside pairInsideCatalog "g" ∧
    (∃ function statement, pairInside.LastRegistered "a" function ∧
      pairInside.IsStatement "g" statement ∧
      function.span.Surrounds pairInside.source statement.span) ∧
    ∃ pruned pruned', removeFunctions pairInside pairInsideCatalog ["f", "a"] = .ok pruned ∧
      removeFunctions pairInside pairInsideCatalog ["g", "f", "a"] = .ok pruned' ∧
      pruned'.source = pruned.source ∧
      Text.visible pruned.source = "functionb()\x7b\x7d".toList := by
  have wellFormed : pairInside.WellFormed := by decide +kernel
  have keywordFirst : pairInside.KeywordFirst := by decide +kernel
  have alone := startsAlone_of_keywordFirst wellFormed keywordFirst pairInsideCatalog
  have built : Catalog.build .reject pairInside = .ok pairInsideCatalog := rfl
  have last : pairInside.LastRegistered "a" (Sketch.place pairInside [0]) :=
    SyntaxTree.lastRegistered_of_split []
      [Sketch.place pairInside [0, 3, 1, 1, 2], Sketch.place pairInside [0, 3, 1, 3, 2],
        Sketch.place pairInside [1]] rfl rfl (by decide +kernel)
  have last' : pairInside.LastRegistered "g" (Sketch.place pairInside [0, 3, 1, 3, 2]) :=
    SyntaxTree.lastRegistered_of_split
      [Sketch.place pairInside [0], Sketch.place pairInside [0, 3, 1, 1, 2]]
      [Sketch.place pairInside [1]] rfl rfl (by decide +kernel)
  have binds : pairInside.Binds (Sketch.place pairInside [0, 3, 1, 3])
      (Sketch.place pairInside [0, 3, 1, 3, 2]) "g" :=
    ⟨⟨2, rfl⟩, rfl, ⟨2, rfl, rfl⟩, rfl⟩
  have whose : pairInside.IsStatement "g" (withExport (Sketch.place pairInside [0, 3, 1])) :=
    .bound last' (by decide +kernel) binds ⟨3, rfl⟩
  have surrounds : (Sketch.place pairInside [0]).span.Surrounds pairInside.source
      (withExport (Sketch.place pairInside [0, 3, 1])).span :=
    ⟨by decide, by decide, by decide +kernel, by decide +kernel⟩
  obtain ⟨pruned, done⟩ := exists_pruned pairInside pairInsideCatalog ["f", "a"] (by decide +kernel)
  obtain ⟨pruned', done'⟩ :=
    exists_pruned pairInside pairInsideCatalog ["g", "f", "a"] (by decide +kernel)
  refine ⟨wellFormed, built, alone "a", alone "g", ⟨_, _, last, whose, surrounds⟩, pruned, pruned',
    done, done', nested_absorbed wellFormed built (alone "a") (alone "g") (by simp) last whose
      surrounds done done', ?_⟩
  obtain ⟨targets, standing, -⟩ := removeFunctions_eq_ok_iff.mp done
  rw [visible_source wellFormed standing done, ← Except.ok.inj standing]
  decide +kernel

end Removal

end CallAtlas
