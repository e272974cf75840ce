import CallAtlas.Proofs.Function.Registration
import CallAtlas.Proofs.Tree.Layout

/-!
Which record a catalog holds under a name: that of the last function in document
order that is registered under it, whatever the policy. A registered function is
a declaration or the one value of a variable declarator, whose identifier is then
its name; so no declarator has functions of two names.
-/

namespace CallAtlas

open Cursor (Holds IsPlace)

namespace SyntaxTree

/-- A function that is registered under a name and behind which no other one is. -/
def LastRegistered (tree : SyntaxTree) (name : String) (function : Cursor) : Prop :=
  ∃ earlier later, tree.functions = earlier ++ function :: later ∧
    (∃ kind, tree.catalogName? function = some (name, kind)) ∧
    ∀ other ∈ later, ∀ kind, tree.catalogName? other ≠ some (name, kind)

def IsDeclaration (place : Cursor) : Prop :=
  (formOf? place).any FunctionForm.isDeclaration = true

instance (place : Cursor) : Decidable (IsDeclaration place) :=
  inferInstanceAs (Decidable (_ = true))

variable {tree : SyntaxTree} {name : String} {function : Cursor}

theorem LastRegistered.registers (last : tree.LastRegistered name function) :
    tree.Registers function name := by
  obtain ⟨earlier, later, split, registered, -⟩ := last
  have among : function ∈ tree.functions := by simp [split]
  obtain ⟨isPlace, named, -⟩ := mem_functions_iff.mp among
  exact ⟨isPlace, named, registered⟩

theorem lastRegistered_of_split (earlier later : List Cursor)
    (split : tree.functions = earlier ++ function :: later)
    (own : (tree.catalogName? function).map Prod.fst = some name)
    (final : ∀ other ∈ later, (tree.catalogName? other).map Prod.fst ≠ some name) :
    tree.LastRegistered name function := by
  obtain ⟨⟨_, kind⟩, registered, rfl⟩ := Option.map_eq_some_iff.mp own
  refine ⟨earlier, later, split, ⟨kind, registered⟩, ?_⟩
  intro other among kind' registered'
  apply final other among
  rw [registered']
  rfl

theorem LastRegistered.unique {other : Cursor} (last : tree.LastRegistered name function)
    (last' : tree.LastRegistered name other) : function = other := by
  obtain ⟨earlier, later, split, ⟨kind, registered⟩, final⟩ := last
  obtain ⟨earlier', later', split', ⟨kind', registered'⟩, final'⟩ := last'
  rw [split] at split'
  rcases List.append_eq_append_iff.mp split' with ⟨between, -, tail⟩ | ⟨between, -, tail⟩
  · cases between with
    | nil => exact (List.cons.inj tail).1
    | cons first rest =>
        obtain ⟨-, rfl⟩ := List.cons.inj tail
        exact absurd registered' (final other (by simp) kind')
  · cases between with
    | nil => exact (List.cons.inj tail).1.symm
    | cons first rest =>
        obtain ⟨-, rfl⟩ := List.cons.inj tail
        exact absurd registered (final' function (by simp) kind)

/-- Functions that a catalog has records of take up some bytes, and no node below one takes up
the same. -/
def FunctionsInnermost (tree : SyntaxTree) : Prop :=
  ∀ name function, tree.LastRegistered name function →
    function.span.start < function.span.stop ∧
      ∀ below, Cursor.Encloses function below → below.span ≠ function.span

/-- Where ranges are nested it is enough to look at the children of the functions. -/
theorem functionsInnermost_of_children (wellFormed : tree.WellFormed)
    (apart : ∀ function ∈ tree.functions, function.span.start < function.span.stop ∧
      ∀ child ∈ function.node.children, child.span ≠ function.span) : tree.FunctionsInnermost := by
  rintro name function ⟨earlier, later, split, -⟩
  have among : function ∈ tree.functions := by simp [split]
  have isPlace := (mem_functions_iff.mp among).1
  obtain ⟨nonempty, different⟩ := apart function among
  refine ⟨nonempty, fun below => Cursor.span_ne_of_children wellFormed.nests isPlace ?_⟩
  intro child held
  obtain ⟨index, found, -⟩ := Cursor.holds_iff.mp held
  exact different child.node (List.mem_of_getElem? found)

/-- The declarator that a function is the value of, with the name that it gives. -/
structure Binds (tree : SyntaxTree) (declarator function : Cursor) (name : String) : Prop where
  holds : Holds declarator function
  isDeclarator : declarator.kind = "variable_declarator"
  value : ∃ index, declarator.node.children.findIdx? (Node.isUnder "value") = some index ∧
    function.above = ⟨declarator.node, index⟩ :: declarator.above
  binding : tree.plainBinding? declarator.node = some name

theorem boundName?_eq_some (isPlace : IsPlace tree.root function)
    (bound : tree.boundName? function = some name) :
    ∃ declarator, tree.Binds declarator function name := by
  unfold boundName? at bound
  split at bound
  · cases bound
  · next step rest way =>
      split at bound
      · next enters =>
          simp only [entersValue, Bool.and_eq_true, decide_eq_true_eq] at enters
          have held : Holds ⟨step.parent, rest⟩ function :=
            (Cursor.parent?_eq_some_iff isPlace).mp (by rw [Cursor.parent?, way])
          exact ⟨⟨step.parent, rest⟩, held, enters.1, ⟨step.index, enters.2, way⟩, bound⟩
      · cases bound

/-- The calls in a declaration count for its own name, those in any other function for the name
that it is bound to. -/
theorem callerName?_eq : tree.callerName? function =
    if IsDeclaration function then tree.ownName? function.node else tree.boundName? function := by
  cases form : formOf? function with
  | none => simp [callerName?, IsDeclaration, form]
  | some form' =>
      cases form' <;> simp [callerName?, IsDeclaration, FunctionForm.isDeclaration, form]

theorem Registers.declaration_or_bound (registers : tree.Registers function name) :
    IsDeclaration function ∨
      ¬ IsDeclaration function ∧ ∃ declarator, tree.Binds declarator function name := by
  obtain ⟨isPlace, -, kind, registered⟩ := registers
  by_cases declaration : IsDeclaration function
  · exact .inl declaration
  · refine .inr ⟨declaration, boundName?_eq_some isPlace ?_⟩
    have attributed := callerName?_of_catalogName? registered
    rwa [callerName?_eq, if_neg declaration] at attributed

theorem Binds.unique {declarator other : Cursor} {name' : String}
    (binds : tree.Binds declarator function name) (binds' : tree.Binds declarator other name') :
    function = other ∧ name = name' := by
  obtain ⟨held, -, ⟨index, value, way⟩, binding⟩ := binds
  obtain ⟨held', -, ⟨index', value', way'⟩, binding'⟩ := binds'
  rw [value] at value'
  rw [binding] at binding'
  obtain rfl := Option.some.inj value'
  obtain ⟨index, found, way''⟩ := Cursor.holds_iff.mp held
  obtain ⟨index', found', way'''⟩ := Cursor.holds_iff.mp held'
  refine ⟨?_, Option.some.inj binding'⟩
  cases function
  cases other
  simp_all

end SyntaxTree

namespace Catalog

open SyntaxTree (LastRegistered)

theorem get?_of_foldlM {policy : DuplicatePolicy} (records : List FunctionRecord)
    {start catalog : Catalog} (run : records.foldlM (register policy) start = .ok catalog)
    (name : String) :
    catalog.get? name =
      (records.reverse.find? fun record => record.name = name).or (start.get? name) := by
  -- On the records still to come: `start` is the catalog of those registered before them.
  induction records generalizing start with
  | nil =>
      obtain rfl := Except.ok.inj run
      rfl
  | cons record rest ih =>
      rw [List.foldlM_cons] at run
      cases step : register policy start record with
      | error refused =>
          rw [step] at run
          cases run
      | ok next =>
          rw [step] at run
          rw [ih run, register_eq_ok step, NameMap.get?_insert, List.reverse_cons,
            List.find?_append, Option.or_assoc]
          congr 1
          by_cases same : record.name = name
          · simp [same]
          · simp [same, Ne.symm same]

variable {policy : DuplicatePolicy} {tree : SyntaxTree} {catalog : Catalog}

/-- A catalog holds the record of the last function registered under a name. -/
theorem get?_build_iff (built : build policy tree = .ok catalog) {name : String}
    {record : FunctionRecord} :
    catalog.get? name = some record ↔ ∃ function kind, tree.LastRegistered name function ∧
      tree.catalogName? function = some (name, kind) ∧
        recordOf tree function name kind = record := by
  have registers : ∀ function,
      (record? tree function).any (fun record => record.name = name) = true ↔
      ∃ kind, tree.catalogName? function = some (name, kind) := by
    intro function
    rw [record?]
    cases tree.catalogName? function with
    | none => simp
    | some pair => simp [recordOf, Prod.ext_iff]
  rw [get?_of_foldlM _ built, NameMap.get?_empty, Option.or_none, candidates,
    ← List.filterMap_reverse, List.find?_filterMap, Option.bind_eq_some_iff]
  refine exists_congr fun function => ?_
  rw [List.find?_eq_some_iff_append, registers]
  constructor
  · rintro ⟨⟨⟨kind, registered⟩, later, earlier, split, unregistered⟩, found⟩
    obtain ⟨name', kind', registered', same⟩ := record?_eq_some_iff.mp found
    rw [registered] at registered'
    obtain ⟨rfl, rfl⟩ := Prod.mk.inj (Option.some.inj registered')
    refine ⟨kind, ⟨earlier.reverse, later.reverse, ?_, ⟨kind, registered⟩, ?_⟩, registered, same⟩
    · have := congrArg List.reverse split
      simpa using this
    · intro other among kind' registered'
      have absent := unregistered other (List.mem_reverse.mp among)
      rw [Bool.not_eq_true', ← Bool.not_eq_true, registers] at absent
      exact absent ⟨kind', registered'⟩
  · rintro ⟨kind, ⟨earlier, later, split, -, unregistered⟩, registered, same⟩
    refine ⟨⟨⟨kind, registered⟩, later.reverse, earlier.reverse, by simp [split], ?_⟩,
      record?_eq_some_iff.mpr ⟨name, kind, registered, same⟩⟩
    intro other among
    rw [Bool.not_eq_true', ← Bool.not_eq_true, registers]
    rintro ⟨kind', registered'⟩
    exact unregistered other (List.mem_reverse.mp among) kind' registered'

theorem record_of_lastRegistered (built : build policy tree = .ok catalog)
    {name : String} {record : FunctionRecord} {function : Cursor}
    (last : tree.LastRegistered name function) (found : catalog.get? name = some record) :
    ∃ kind, record = recordOf tree function name kind := by
  obtain ⟨kind, registered⟩ := last.registers.registered
  have found' := (get?_build_iff built).mpr ⟨function, kind, last, registered, rfl⟩
  exact ⟨kind, Option.some.inj (found.symm.trans found')⟩

theorem name_of_get? (built : build policy tree = .ok catalog) {name : String}
    {record : FunctionRecord} (found : catalog.get? name = some record) : record.name = name := by
  obtain ⟨function, kind, -, -, rfl⟩ := (get?_build_iff built).mp found
  rfl

end Catalog

end CallAtlas
