import CallAtlas.Graph.Analysis
import CallAtlas.Proofs.Function.Records
import Mathlib.Data.List.Pairwise

/-!
Names that are given twice. If later functions replace earlier ones, every tree has
a catalog. If they are refused, a tree has one exactly if no two functions are
registered under one name, and it is the same catalog; otherwise the refusal tells
the first function in document order whose name had been given before, and the one
function that had it.
-/

namespace CallAtlas

-- A fold ends at the first item that its step refuses.
theorem foldlM_eq_error_iff {ε α β : Type} {step : β → α → Except ε β} {items : List α}
    {start : β} {cause : ε} :
    items.foldlM step start = .error cause ↔ ∃ before item later middle,
      items = before ++ item :: later ∧ before.foldlM step start = .ok middle ∧
        step middle item = .error cause := by
  induction items generalizing start with
  | nil => simp [pure, Except.pure]
  | cons first rest ih =>
      rw [List.foldlM_cons]
      constructor
      · intro failed
        cases taken : step start first with
        | error refused =>
            rw [taken] at failed
            exact ⟨[], first, rest, start, rfl, rfl, taken.trans failed⟩
        | ok next =>
            rw [taken] at failed
            obtain ⟨before, item, later, middle, rfl, passed, refused⟩ := ih.mp failed
            refine ⟨first :: before, item, later, middle, rfl, ?_, refused⟩
            rw [List.foldlM_cons, taken]
            exact passed
      · rintro ⟨before, item, later, middle, split, passed, refused⟩
        cases before with
        | nil =>
            obtain ⟨rfl, rfl⟩ := List.cons.inj split
            obtain rfl := Except.ok.inj passed
            rw [refused]
            rfl
        | cons head before =>
            obtain ⟨rfl, rfl⟩ := List.cons.inj split
            rw [List.foldlM_cons] at passed
            cases taken : step start first with
            | error cause' =>
                rw [taken] at passed
                cases passed
            | ok next =>
                rw [taken] at passed
                exact ih.mpr ⟨before, item, later, middle, rfl, passed, refused⟩

namespace SyntaxTree

variable {tree : SyntaxTree} {name : String} {function : Cursor}

def registeredName? (tree : SyntaxTree) (function : Cursor) : Option String :=
  (tree.catalogName? function).map (·.1)

theorem registeredName?_eq_some_iff : tree.registeredName? function = some name ↔
    ∃ kind, tree.catalogName? function = some (name, kind) := by
  simp [registeredName?]

theorem registers_iff (among : function ∈ tree.functions) :
    tree.Registers function name ↔ tree.registeredName? function = some name := by
  obtain ⟨isPlace, named, -⟩ := mem_functions_iff.mp among
  rw [registeredName?_eq_some_iff]
  exact ⟨Registers.registered, fun registered => ⟨isPlace, named, registered⟩⟩

theorem Registers.mem_functions (registers : tree.Registers function name) :
    function ∈ tree.functions := by
  obtain ⟨isPlace, named, kind, registered⟩ := registers
  exact mem_functions_iff.mpr ⟨isPlace, named, functionLike_of_catalogName? registered⟩

theorem functions_nodup (tree : SyntaxTree) : tree.functions.Nodup :=
  (Cursor.walk_nodup tree.root).filter _

theorem functions_eq_preorder (tree : SyntaxTree) :
    tree.functions = (Cursor.preorder tree.root).filter fun place =>
      place.node.named && isFunctionLike place.kind := by
  rw [functions, nodes, Cursor.walk_eq_preorder]

/-- No two functions of a list are registered under one name. -/
def NamedApart (tree : SyntaxTree) (functions : List Cursor) : Prop :=
  ∀ first ∈ functions, ∀ second ∈ functions, ∀ name, tree.Registers first name →
    tree.Registers second name → first = second

/-- The first function in document order whose name had been given before, behind the one that
had it. -/
def FirstRepeat (tree : SyntaxTree) (name : String) (first second : Cursor) : Prop :=
  ∃ earlier later, tree.functions = earlier ++ second :: later ∧ first ∈ earlier ∧
    tree.Registers first name ∧ tree.Registers second name ∧ tree.NamedApart earlier

theorem namedApart_iff {list : List Cursor} (sub : list.Sublist tree.functions) :
    tree.NamedApart list ↔ (list.filterMap tree.registeredName?).Nodup := by
  have different : list.Nodup := tree.functions_nodup.sublist sub
  have named : ∀ {function name}, function ∈ list →
      (tree.Registers function name ↔ tree.registeredName? function = some name) :=
    fun member => registers_iff (sub.subset member)
  rw [List.Nodup, List.pairwise_filterMap]
  constructor
  · intro apart
    refine different.pairwise_of_forall_ne fun first member second member' unlike => ?_
    rintro name found name' found' rfl
    exact unlike (apart first member second member' name ((named member).mpr found)
      ((named member').mpr found'))
  · intro apart first member second member' name registers registers'
    by_contra unlike
    have symmetric : Std.Symm fun first second : Cursor =>
        ∀ name, tree.registeredName? first = some name →
          ∀ name', tree.registeredName? second = some name' → name ≠ name' :=
      ⟨fun first second unlike name found name' found' => (unlike name' found' name found).symm⟩
    exact apart.forall member member' unlike name ((named member).mp registers) name
      ((named member').mp registers') rfl

theorem FirstRepeat.not_mem {first second : Cursor} (repeats : tree.FirstRepeat name first second)
    {front rest : List Cursor} (split : tree.functions = front ++ rest)
    (apart : tree.NamedApart front) : second ∉ front := by
  obtain ⟨earlier, later, split', seen, registers, again, -⟩ := repeats
  intro member
  obtain ⟨before, behind, rfl⟩ := List.append_of_mem member
  have distinct := tree.functions_nodup
  rw [split', List.nodup_middle, List.nodup_cons, List.mem_append, not_or] at distinct
  -- A function has one place in the list, so what is before it is the same in both splits.
  rw [split, List.append_assoc, List.cons_append] at split'
  obtain ⟨rfl, -⟩ := (List.append_cons_inj_of_notMem distinct.1.1 distinct.1.2).mp split'.symm
  obtain rfl := apart first (by simp [seen]) second (by simp) name registers again
  exact distinct.1.1 seen

theorem FirstRepeat.unique {first second first' second' : Cursor} {name' : String}
    (repeats : tree.FirstRepeat name first second)
    (repeats' : tree.FirstRepeat name' first' second') :
    name = name' ∧ first = first' ∧ second = second' := by
  obtain ⟨earlier, later, split, seen, registers, again, apart⟩ := id repeats
  obtain ⟨earlier', later', split', seen', registers', again', apart'⟩ := id repeats'
  have same : earlier = earlier' := by
    obtain ⟨middle, before, behind⟩ | ⟨middle, before, behind⟩ :=
      List.append_eq_append_iff.mp (split.symm.trans split')
    · cases middle with
      | nil => simp [before]
      | cons head middle =>
          obtain ⟨rfl, -⟩ := List.cons.inj behind
          exact absurd (by simp [before]) (repeats.not_mem split' apart')
    · cases middle with
      | nil => simp [before]
      | cons head middle =>
          obtain ⟨rfl, -⟩ := List.cons.inj behind
          exact absurd (by simp [before]) (repeats'.not_mem split apart)
  subst same
  obtain ⟨rfl, -⟩ := List.cons.inj (List.append_cancel_left (split.symm.trans split'))
  have among := again.mem_functions
  rw [registers_iff among] at again again'
  obtain rfl := Option.some.inj (again.symm.trans again')
  exact ⟨rfl, apart first seen first' seen' name registers registers', rfl⟩

end SyntaxTree

namespace Catalog

open SyntaxTree (FirstRepeat LastRegistered NamedApart namedApart_iff registeredName? registers_iff)

section Records

variable {policy : DuplicatePolicy} {records : List FunctionRecord} {record : FunctionRecord}
  {start catalog : Catalog}

theorem register_eq_error_iff {duplicate : DuplicateName} :
    register policy catalog record = .error duplicate ↔ policy = .reject ∧
      ∃ previous, catalog.get? record.name = some previous ∧
        duplicate = ⟨record.name, previous.definingLine, record.definingLine⟩ := by
  unfold register
  cases policy with
  | lastWriterWins => simp
  | reject =>
      cases found : catalog.get? record.name with
      | none => simp
      | some previous => simp [eq_comm]

theorem foldlM_lastWriterWins (records : List FunctionRecord) (start : Catalog) :
    ∃ catalog, records.foldlM (register .lastWriterWins) start = .ok catalog := by
  cases run : records.foldlM (register .lastWriterWins) start with
  | ok catalog => exact ⟨catalog, rfl⟩
  | error duplicate =>
      obtain ⟨-, record, -, middle, -, -, refused⟩ := foldlM_eq_error_iff.mp run
      obtain ⟨policy, -⟩ := register_eq_error_iff.mp refused
      cases policy

theorem foldlM_reject_iff :
    (∃ catalog, records.foldlM (register .reject) start = .ok catalog) ↔
      (records.map (·.name)).Nodup ∧ ∀ record ∈ records, start.contains record.name = false := by
  -- On the records still to come: their names are to be new among themselves and in `start`.
  induction records generalizing start with
  | nil => exact ⟨fun _ => by simp, fun _ => ⟨start, rfl⟩⟩
  | cons record rest ih =>
      rw [List.foldlM_cons, List.map_cons, List.nodup_cons, List.forall_mem_cons]
      cases step : register .reject start record with
      | error duplicate =>
          obtain ⟨-, previous, found, -⟩ := register_eq_error_iff.mp step
          have taken : start.contains record.name = true := by
            rw [NameMap.contains, found]
            rfl
          constructor
          · rintro ⟨catalog, run⟩
            cases run
          · rintro ⟨-, free, -⟩
            rw [taken] at free
            cases free
      | ok next =>
          have free : start.contains record.name = false := by
            cases found : start.get? record.name with
            | none => rw [NameMap.contains, found]; rfl
            | some previous =>
                have refused := register_eq_error_iff.mpr ⟨rfl, previous, found, rfl⟩
                rw [step] at refused
                cases refused
          change (∃ catalog, rest.foldlM (register .reject) next = .ok catalog) ↔ _
          rw [ih, register_eq_ok step]
          simp only [NameMap.contains_insert, Bool.or_eq_false_iff, decide_eq_false_iff_not, free,
            true_and]
          constructor
          · rintro ⟨distinct, unlike⟩
            refine ⟨⟨?_, distinct⟩, fun other member => (unlike other member).2⟩
            intro repeated
            obtain ⟨other, member, same⟩ := List.mem_map.mp repeated
            exact (unlike other member).1 same
          · rintro ⟨⟨fresh, distinct⟩, absent⟩
            refine ⟨distinct, fun other member => ⟨?_, absent other member⟩⟩
            intro same
            exact fresh (same ▸ List.mem_map_of_mem member)

end Records

section Building

variable {tree : SyntaxTree} {catalog other : Catalog} {policy policy' : DuplicatePolicy}

/-- The policy decides whether a tree has a catalog, and not which one. -/
theorem build_unique (built : build policy tree = .ok catalog)
    (built' : build policy' tree = .ok other) : catalog = other := by
  apply NameMap.ext
  intro name
  rw [get?_of_foldlM _ built, get?_of_foldlM _ built']

theorem names_of_records (tree : SyntaxTree) (functions : List Cursor) :
    (functions.filterMap (record? tree)).map (·.name) =
      functions.filterMap tree.registeredName? := by
  rw [List.map_filterMap]
  refine List.filterMap_congr fun function _ => ?_
  rw [record?, SyntaxTree.registeredName?, Option.map_map]
  rfl

theorem build_reject_iff (tree : SyntaxTree) :
    (∃ catalog, build .reject tree = .ok catalog) ↔ tree.NamedApart tree.functions := by
  rw [namedApart_iff (List.Sublist.refl _), ← names_of_records]
  refine foldlM_reject_iff.trans (and_iff_left ?_)
  intro record _
  rfl

theorem definingLine_of_record? {function : Cursor} {record : FunctionRecord}
    (made : record? tree function = some record) :
    record.definingLine = (tree.region function.node).firstLine := by
  obtain ⟨name, kind, -, rfl⟩ := record?_eq_some_iff.mp made
  rfl

theorem name_of_record? {function : Cursor} {record : FunctionRecord}
    (made : record? tree function = some record) :
    tree.registeredName? function = some record.name := by
  obtain ⟨name, kind, registered, rfl⟩ := record?_eq_some_iff.mp made
  exact SyntaxTree.registeredName?_eq_some_iff.mpr ⟨kind, registered⟩

theorem firstRepeat_of_refused {duplicate : DuplicateName}
    (refused : build .reject tree = .error duplicate) :
    ∃ first second, tree.FirstRepeat duplicate.name first second ∧
      duplicate.firstLine = (tree.region first.node).firstLine ∧
      duplicate.secondLine = (tree.region second.node).firstLine := by
  obtain ⟨before, record, after, middle, split, passed, refused⟩ := foldlM_eq_error_iff.mp refused
  obtain ⟨-, previous, found, rfl⟩ := register_eq_error_iff.mp refused
  -- The record refused and the one before it, as functions of the tree.
  obtain ⟨earlier, rest, functions, rfl, last⟩ := List.filterMap_eq_append_iff.mp split
  obtain ⟨skipped, second, later, rfl, idle, made, -⟩ := List.filterMap_eq_cons_iff.mp last
  rw [get?_of_foldlM _ passed, NameMap.get?_empty, Option.or_none] at found
  have listed := List.mem_reverse.mp (List.mem_of_find?_eq_some found)
  have same : previous.name = record.name := by simpa using List.find?_some found
  obtain ⟨first, seen, made'⟩ := List.mem_filterMap.mp listed
  have parts : tree.functions = (earlier ++ skipped) ++ second :: later := by simp [functions]
  have registers : tree.Registers first record.name :=
    (registers_iff (by simp [parts, seen])).mpr (same ▸ name_of_record? made')
  have again : tree.Registers second record.name :=
    (registers_iff (by simp [parts])).mpr (name_of_record? made)
  refine ⟨first, second, ⟨earlier ++ skipped, later, parts, by simp [seen], registers, again, ?_⟩,
    definingLine_of_record? made', definingLine_of_record? made⟩
  -- What was passed before holds no repetition; the functions skipped have no names.
  have nameless : skipped.filterMap (record? tree) = [] := List.filterMap_eq_nil_iff.mpr idle
  rw [namedApart_iff (by rw [parts]; exact List.sublist_append_left _ _), ← names_of_records,
    List.filterMap_append, nameless, List.append_nil]
  exact (foldlM_reject_iff.mp ⟨middle, passed⟩).1

theorem build_reject_eq_error_iff {duplicate : DuplicateName} :
    build .reject tree = .error duplicate ↔
      ∃ first second, tree.FirstRepeat duplicate.name first second ∧
        duplicate.firstLine = (tree.region first.node).firstLine ∧
        duplicate.secondLine = (tree.region second.node).firstLine := by
  refine ⟨firstRepeat_of_refused, ?_⟩
  rintro ⟨first, second, repeats, firstLine, secondLine⟩
  cases run : build .reject tree with
  | ok catalog =>
      have apart := (build_reject_iff tree).mp ⟨catalog, run⟩
      obtain ⟨earlier, later, split, -⟩ := id repeats
      exact absurd (by simp [split]) (repeats.not_mem (List.append_nil _).symm apart)
  | error refused =>
      obtain ⟨first', second', repeats', firstLine', secondLine'⟩ := firstRepeat_of_refused run
      obtain ⟨names, rfl, rfl⟩ := repeats.unique repeats'
      cases duplicate
      cases refused
      simp_all

end Building

/-- What the functions of a tree say about its catalog, under either policy. -/
structure Settled (tree : SyntaxTree) (catalog : Catalog) : Prop where
  order : tree.functions = (Cursor.preorder tree.root).filter fun place =>
    place.node.named && isFunctionLike place.kind
  built : build .lastWriterWins tree = .ok catalog
  names : ∀ name, catalog.contains name = true ↔ ∃ function, tree.Registers function name
  records : ∀ name record, catalog.get? name = some record ↔ ∃ function kind,
    tree.LastRegistered name function ∧ tree.catalogName? function = some (name, kind) ∧
      record = recordOf tree function name kind
  keys : ∀ name record, catalog.get? name = some record → record.name = name
  accepted : (∃ strict, build .reject tree = .ok strict) ↔ tree.NamedApart tree.functions
  same : ∀ strict, build .reject tree = .ok strict → strict = catalog
  analyses : tree.NamedApart tree.functions → ∀ settings : AnalysisSettings,
    Analysis.ofTree { settings with duplicates := .reject } tree =
      Analysis.ofTree { settings with duplicates := .lastWriterWins } tree
  refused : ∀ duplicate, build .reject tree = .error duplicate ↔
    ∃ first second, tree.FirstRepeat duplicate.name first second ∧
      duplicate.firstLine = (tree.region first.node).firstLine ∧
      duplicate.secondLine = (tree.region second.node).firstLine

theorem build_settled (tree : SyntaxTree) : ∃ catalog, Settled tree catalog := by
  obtain ⟨catalog, built⟩ : ∃ catalog, build .lastWriterWins tree = .ok catalog :=
    foldlM_lastWriterWins (candidates tree) ∅
  refine ⟨catalog, ?_⟩
  constructor
  case order => exact tree.functions_eq_preorder
  case built => exact built
  case names => exact contains_build_iff built
  case records =>
    intro name record
    rw [get?_build_iff built]
    simp only [eq_comm]
  case keys => exact fun name record => name_of_get? built
  case accepted => exact build_reject_iff tree
  case same => exact fun strict accepted => build_unique accepted built
  case analyses =>
    intro apart settings
    obtain ⟨strict, accepted⟩ := (build_reject_iff tree).mpr apart
    unfold Analysis.ofTree
    dsimp only
    rw [accepted, built, build_unique accepted built]
  case refused => exact fun duplicate => build_reject_eq_error_iff

end Catalog

end CallAtlas
