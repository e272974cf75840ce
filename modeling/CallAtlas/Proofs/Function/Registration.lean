import CallAtlas.Function.Catalog
import CallAtlas.Proofs.Tree.Places

/-!
Which functions a catalog registers, and under which names. The name of a
registered function is the one that its calls are attributed to. The converse
fails for two forms only, methods and function expressions with a name of their
own: they can be bound to a variable without being registered under its name.
-/

namespace CallAtlas

namespace SyntaxTree

/-- A form that catalogs leave out though a variable can be bound to it. -/
def LeftOut (function : Cursor) : Prop :=
  formOf? function = some .method ∨
    (formOf? function = some .expression ∨ formOf? function = some .generatorExpression) ∧
      (function.node.childUnder? "name").isSome = true

/-- A node of the tree that a catalog registers under a name. -/
structure Registers (tree : SyntaxTree) (function : Cursor) (name : String) : Prop where
  isPlace : Cursor.IsPlace tree.root function
  named : function.node.named = true
  registered : ∃ kind, tree.catalogName? function = some (name, kind)

section Naming

variable {tree : SyntaxTree} {function : Cursor} {name : String} {kind : FunctionKind}

theorem functionLike_of_catalogName? (registered : tree.catalogName? function = some (name, kind)) :
    isFunctionLike function.kind = true := by
  rw [isFunctionLike, ← formOf?]
  cases form : formOf? function with
  | none => simp [catalogName?, form] at registered
  | some _ => rfl

theorem callerName?_of_catalogName? (registered : tree.catalogName? function = some (name, kind)) :
    tree.callerName? function = some name := by
  cases form : formOf? function with
  | none => simp [catalogName?, form] at registered
  | some form' =>
      cases form' <;> simp [catalogName?, form] at registered <;>
        simp [callerName?, form, registered]

theorem catalogName?_of_leftOut (leftOut : LeftOut function) :
    tree.catalogName? function = none := by
  rcases leftOut with method | ⟨expression | generator, ownName⟩
  · simp [catalogName?, method]
  · simp [catalogName?, expression, ownName]
  · simp [catalogName?, generator, ownName]

theorem callerName?_of_leftOut (leftOut : LeftOut function) :
    tree.callerName? function = tree.boundName? function := by
  rcases leftOut with method | ⟨expression | generator, -⟩
  · simp [callerName?, method]
  · simp [callerName?, expression]
  · simp [callerName?, generator]

theorem catalogName?_of_callerName? (functionLike : isFunctionLike function.kind = true)
    (kept : ¬ LeftOut function) (attributed : tree.callerName? function = some name) :
    ∃ kind, tree.catalogName? function = some (name, kind) := by
  rw [isFunctionLike, ← formOf?] at functionLike
  cases form : formOf? function with
  | none => simp [form] at functionLike
  | some form' =>
      simp only [LeftOut, form] at kept
      cases form' <;> simp only [callerName?, form] at attributed <;>
        simp only [catalogName?, form] <;> simp_all

theorem exists_catalogName?_iff : (∃ kind, tree.catalogName? function = some (name, kind)) ↔
    isFunctionLike function.kind = true ∧ ¬ LeftOut function ∧
      tree.callerName? function = some name := by
  constructor
  · rintro ⟨kind, registered⟩
    refine ⟨functionLike_of_catalogName? registered, ?_, callerName?_of_catalogName? registered⟩
    intro leftOut
    rw [catalogName?_of_leftOut leftOut] at registered
    cases registered
  · rintro ⟨functionLike, kept, attributed⟩
    exact catalogName?_of_callerName? functionLike kept attributed

end Naming

theorem mem_functions_iff {tree : SyntaxTree} {function : Cursor} :
    function ∈ tree.functions ↔ Cursor.IsPlace tree.root function ∧ function.node.named = true ∧
      isFunctionLike function.kind = true := by
  rw [functions, List.mem_filter, nodes, Cursor.mem_walk_iff, Bool.and_eq_true]

end SyntaxTree

namespace Catalog

theorem record?_eq_some_iff {tree : SyntaxTree} {function : Cursor} {record : FunctionRecord} :
    record? tree function = some record ↔ ∃ name kind,
      tree.catalogName? function = some (name, kind) ∧
        recordOf tree function name kind = record := by
  simp [record?]

theorem mem_candidates_names_iff {tree : SyntaxTree} {name : String} :
    name ∈ (candidates tree).map (·.name) ↔ ∃ function, tree.Registers function name := by
  constructor
  · intro member
    obtain ⟨record, listed, rfl⟩ := List.mem_map.mp member
    obtain ⟨function, among, found⟩ := List.mem_filterMap.mp listed
    obtain ⟨isPlace, named, -⟩ := SyntaxTree.mem_functions_iff.mp among
    obtain ⟨name, kind, registered, rfl⟩ := record?_eq_some_iff.mp found
    exact ⟨function, isPlace, named, kind, registered⟩
  · rintro ⟨function, isPlace, named, kind, registered⟩
    have functionLike := SyntaxTree.functionLike_of_catalogName? registered
    have among := SyntaxTree.mem_functions_iff.mpr ⟨isPlace, named, functionLike⟩
    have found := record?_eq_some_iff.mpr ⟨name, kind, registered, rfl⟩
    exact List.mem_map.mpr ⟨recordOf tree function name kind,
      List.mem_filterMap.mpr ⟨function, among, found⟩, rfl⟩

theorem register_eq_ok {policy : DuplicatePolicy} {catalog next : Catalog} {record : FunctionRecord}
    (registered : register policy catalog record = .ok next) :
    next = catalog.insert record.name record := by
  unfold register at registered
  split at registered
  · cases registered
  · exact (Except.ok.inj registered).symm

theorem contains_of_foldlM {policy : DuplicatePolicy} (records : List FunctionRecord)
    {start catalog : Catalog} (run : records.foldlM (register policy) start = .ok catalog)
    (name : String) :
    catalog.contains name = true ↔ name ∈ records.map (·.name) ∨ start.contains name = true := by
  -- On the records still to come: `start` is the catalog of those registered before them.
  induction records generalizing start with
  | nil =>
      obtain rfl := Except.ok.inj run
      simp
  | cons record rest ih =>
      rw [List.foldlM_cons] at run
      cases step : register policy start record with
      | error refused =>
          rw [step] at run
          cases run
      | ok next =>
          rw [step] at run
          rw [ih run, register_eq_ok step]
          simp [or_assoc, or_left_comm]

/-- A catalog holds the names that functions of its tree are registered under. -/
theorem contains_build_iff {policy : DuplicatePolicy} {tree : SyntaxTree} {catalog : Catalog}
    (built : build policy tree = .ok catalog) (name : String) :
    catalog.contains name = true ↔ ∃ function, tree.Registers function name := by
  rw [contains_of_foldlM _ built, mem_candidates_names_iff]
  simp [NameMap.contains]

end Catalog

end CallAtlas
