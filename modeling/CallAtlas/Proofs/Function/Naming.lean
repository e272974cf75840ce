import CallAtlas.Proofs.Function.Records
import CallAtlas.Proofs.Tree.Sketch

/-!
The two names of a function: the one that a catalog registers it under and the
one that its calls are attributed to. Calls follow a single rule, `GoesBy`; the
catalog follows the same rule and passes over the forms left out. So the names
differ exactly for a function of such a form that a variable is bound to
(`naming_exact`), and there it is the catalog that has no name.
-/

namespace CallAtlas

open Cursor (IsPlace)

namespace SyntaxTree

/-- How a function comes by a name: a declaration by its own, any other function by the plain
identifier of the variable declarator that it is the value of. -/
inductive GoesBy (tree : SyntaxTree) (function : Cursor) : String → Prop
  | declared {own : Node} (declaration : IsDeclaration function)
      (held : function.node.childUnder? "name" = some own) : GoesBy tree function (tree.text own)
  | bound {declarator : Cursor} {name : String} (expression : ¬ IsDeclaration function)
      (binds : tree.Binds declarator function name) : GoesBy tree function name

instance (function : Cursor) : Decidable (LeftOut function) :=
  inferInstanceAs (Decidable (_ ∨ (_ ∨ _) ∧ _))

variable {tree : SyntaxTree} {function : Cursor} {name : String}

theorem Binds.boundName? {declarator : Cursor} (binds : tree.Binds declarator function name) :
    tree.boundName? function = some name := by
  obtain ⟨-, isDeclarator, ⟨index, value, way⟩, binding⟩ := binds
  have enters : entersValue ⟨declarator.node, index⟩ = true := by
    rw [Cursor.kind] at isDeclarator
    simp [entersValue, isDeclarator, value]
  rw [SyntaxTree.boundName?, way]
  exact (if_pos enters).trans binding

theorem boundName?_eq_some_iff (isPlace : IsPlace tree.root function) :
    tree.boundName? function = some name ↔ ∃ declarator, tree.Binds declarator function name := by
  constructor
  · exact boundName?_eq_some isPlace
  · rintro ⟨declarator, binds⟩
    exact binds.boundName?

theorem callerName?_eq_some_iff (isPlace : IsPlace tree.root function) :
    tree.callerName? function = some name ↔ tree.GoesBy function name := by
  rw [callerName?_eq]
  split
  · next declaration =>
      rw [ownName?, Option.map_eq_some_iff]
      constructor
      · rintro ⟨own, held, rfl⟩
        exact .declared declaration held
      · intro goesBy
        cases goesBy with
        | declared _ held => exact ⟨_, held, rfl⟩
        | bound expression _ => exact absurd declaration expression
  · next expression =>
      rw [boundName?_eq_some_iff isPlace]
      constructor
      · rintro ⟨declarator, binds⟩
        exact .bound expression binds
      · intro goesBy
        cases goesBy with
        | declared declaration _ => exact absurd declaration expression
        | bound _ binds => exact ⟨_, binds⟩

theorem catalogName?_fst (functionLike : isFunctionLike function.kind = true) :
    (tree.catalogName? function).map Prod.fst =
      if LeftOut function then none else tree.callerName? function := by
  split
  · next leftOut => rw [catalogName?_of_leftOut leftOut, Option.map_none]
  · next kept =>
      ext name
      have registered := @exists_catalogName?_iff tree function name
      simp only [functionLike, kept, not_false_eq_true, true_and] at registered
      rw [← registered]
      simp

/-- The calls have a name that the catalog lacks where a variable is bound to a form left out. -/
theorem unregistered_iff (isPlace : IsPlace tree.root function)
    (functionLike : isFunctionLike function.kind = true) :
    tree.callerName? function = some name ∧ tree.catalogName? function = none ↔
      LeftOut function ∧ ∃ declarator, tree.Binds declarator function name := by
  constructor
  · rintro ⟨attributed, unregistered⟩
    -- Any other form would be registered, under the very name that its calls have.
    have leftOut : LeftOut function := by
      by_contra kept
      obtain ⟨kind, registered⟩ := catalogName?_of_callerName? functionLike kept attributed
      rw [unregistered] at registered
      cases registered
    rw [callerName?_of_leftOut leftOut] at attributed
    exact ⟨leftOut, boundName?_eq_some isPlace attributed⟩
  · rintro ⟨leftOut, declarator, binds⟩
    exact ⟨(callerName?_of_leftOut leftOut).trans binds.boundName?, catalogName?_of_leftOut leftOut⟩

theorem named_alike_iff (isPlace : IsPlace tree.root function)
    (functionLike : isFunctionLike function.kind = true) :
    (tree.catalogName? function).map Prod.fst = tree.callerName? function ↔
      ¬ (LeftOut function ∧ ∃ declarator name, tree.Binds declarator function name) := by
  rw [catalogName?_fst functionLike]
  split
  · next leftOut =>
      rw [callerName?_of_leftOut leftOut, eq_comm, Option.eq_none_iff_forall_ne_some]
      constructor
      · rintro unbound ⟨-, declarator, name, binds⟩
        exact unbound name binds.boundName?
      · intro unbound name bound
        obtain ⟨declarator, binds⟩ := boundName?_eq_some isPlace bound
        exact unbound ⟨leftOut, declarator, name, binds⟩
  · next kept => simp [kept]

end SyntaxTree

namespace Catalog

open SyntaxTree (LeftOut)

theorem candidates_names (tree : SyntaxTree) :
    (candidates tree).map (·.name) =
      (tree.functions.filter fun function => ¬ LeftOut function).filterMap tree.callerName? := by
  rw [candidates, List.map_filterMap, List.filterMap_filter]
  apply List.filterMap_congr
  intro function among
  have functionLike := (SyntaxTree.mem_functions_iff.mp among).2.2
  calc (record? tree function).map (·.name)
      = (tree.catalogName? function).map Prod.fst := by
        rw [record?, Option.map_map]
        rfl
    _ = if LeftOut function then none else tree.callerName? function :=
        SyntaxTree.catalogName?_fst functionLike
    _ = if decide (¬ LeftOut function) then tree.callerName? function else none := by
        by_cases leftOut : LeftOut function <;> simp [leftOut]

end Catalog

namespace SyntaxTree

/-- Calls go by the rule for names. A name in the catalog is the one for the calls, and a name for
the calls is missing in the catalog exactly if a variable is bound to a form left out; all other
functions are named alike, so the catalog lists the callers' names, those forms apart. -/
theorem naming_exact (tree : SyntaxTree) :
    (∀ function ∈ tree.functions,
      (∀ name, tree.callerName? function = some name ↔ tree.GoesBy function name) ∧
      (∀ name kind, tree.catalogName? function = some (name, kind) →
        tree.callerName? function = some name) ∧
      (∀ name, tree.callerName? function = some name ∧ tree.catalogName? function = none ↔
        LeftOut function ∧ ∃ declarator, tree.Binds declarator function name) ∧
      ((tree.catalogName? function).map Prod.fst = tree.callerName? function ↔
        ¬ (LeftOut function ∧ ∃ declarator name, tree.Binds declarator function name))) ∧
    (Catalog.candidates tree).map (·.name) =
      (tree.functions.filter fun function => ¬ LeftOut function).filterMap tree.callerName? := by
  refine ⟨?_, Catalog.candidates_names tree⟩
  intro function among
  obtain ⟨isPlace, -, functionLike⟩ := mem_functions_iff.mp among
  exact ⟨fun name => callerName?_eq_some_iff isPlace,
    fun name kind => callerName?_of_catalogName?,
    fun name => unregistered_iff isPlace functionLike,
    named_alike_iff isPlace functionLike⟩

def aliased : SyntaxTree :=
  Sketch.program "const f = function g() \x7b\x7d;\nconst h = () => 0;"
    [Sketch.constant 0 26 (Sketch.function "function_expression" 10 25 []),
      Sketch.constant 27 45 (Sketch.arrow 37)]

theorem aliased_named :
    let expression := Sketch.place aliased [0, 1, 2]
    let arrow := Sketch.place aliased [1, 1, 2]
    aliased.WellFormed ∧ expression ∈ aliased.functions ∧ arrow ∈ aliased.functions ∧
      aliased.callerName? expression = some "f" ∧ aliased.catalogName? expression = none ∧
      LeftOut expression ∧ (∃ declarator, aliased.Binds declarator expression "f") ∧
      aliased.catalogName? arrow = some ("h", .arrow) ∧ aliased.callerName? arrow = some "h" ∧
      aliased.GoesBy arrow "h" ∧ (Catalog.candidates aliased).map (·.name) = ["h"] := by
  intro expression arrow
  have among : expression ∈ aliased.functions :=
    mem_functions_iff.mpr ⟨Sketch.isPlace_place aliased [0, 1, 2], by decide, by decide⟩
  have among' : arrow ∈ aliased.functions :=
    mem_functions_iff.mpr ⟨Sketch.isPlace_place aliased [1, 1, 2], by decide, by decide⟩
  obtain ⟨each, listed⟩ := naming_exact aliased
  obtain ⟨-, -, unregistered, -⟩ := each expression among
  obtain ⟨goesBy, kept, -, -⟩ := each arrow among'
  have attributed : aliased.callerName? expression = some "f" := by decide +kernel
  have missing : aliased.catalogName? expression = none := by decide +kernel
  have registered : aliased.catalogName? arrow = some ("h", .arrow) := by decide +kernel
  obtain ⟨leftOut, bound⟩ := (unregistered "f").mp ⟨attributed, missing⟩
  have attributed' := kept "h" .arrow registered
  refine ⟨by decide +kernel, among, among', attributed, missing, leftOut, bound, registered,
    attributed', (goesBy "h").mp attributed', ?_⟩
  rw [listed]
  decide +kernel

end SyntaxTree

end CallAtlas
