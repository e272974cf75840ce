import CallAtlas.FileSystem.SourceFiles
import CallAtlas.Proofs.FileTree.Proper
import CallAtlas.Proofs.Path.Order

/-!
Walks below a directory. A walk comes to every object that is not an excluded
directory and not below one, nor below a directory that cannot be listed, and to each
once and under the path to it (`mem_walkIn_iff`). It tells of the regular files among
them and of the directories that cannot be listed. If it tells of several of the
latter, each of them is what some schedule reports (`exists_settle_error_iff`).
-/

namespace CallAtlas

namespace Path

theorem descend_injective (directory : Path) {names names' : List String}
    (areNames : ∀ name ∈ names, IsName name) (areNames' : ∀ name ∈ names', IsName name)
    (same : (directory.descend names).key = (directory.descend names').key) : names = names' := by
  rw [key_eq_iff, components_descend directory areNames, components_descend directory areNames']
    at same
  exact List.map_injective_iff.mpr (fun _ _ => Component.name.inj) (List.append_cancel_left same)

end Path

/-- A directory of some name is in a tree, anywhere strictly below its top. -/
inductive FileTree.HoldsDirectory (name : String) : FileTree → Prop where
  | entry {entries below : List (String × FileTree)} {attributes attributes' : Attributes}
      (listed : (name, .directory below attributes') ∈ entries) :
      HoldsDirectory name (.directory entries attributes)
  | deeper {entries : List (String × FileTree)} {attributes : Attributes} {other : String}
      {object : FileTree} (listed : (other, object) ∈ entries)
      (held : HoldsDirectory name object) : HoldsDirectory name (.directory entries attributes)

namespace SourceFiles

open FileTree (Location)

section Settling

variable {schedule : Schedule} {found : List (Except WalkFault Path)} {fault : WalkFault}
  {all : List Path}

theorem mem_faults_iff : fault ∈ found.filterMap fault? ↔ .error fault ∈ found := by
  rw [List.mem_filterMap]
  constructor
  · rintro ⟨item, listed, told⟩
    cases item with
    | error own => exact Option.some.inj told ▸ listed
    | ok path => cases told
  · intro listed
    exact ⟨.error fault, listed, rfl⟩

theorem faults_eq_nil_iff :
    found.filterMap fault? = [] ↔ ∀ fault, Except.error fault ∉ found := by
  simp only [List.eq_nil_iff_forall_not_mem, mem_faults_iff]

theorem eq_map_of_faultless (faultless : ∀ fault, Except.error fault ∉ found) :
    found = (found.filterMap Except.toOption).map .ok := by
  induction found with
  | nil => rfl
  | cons item rest ih =>
      have later := ih fun fault listed => faultless fault (List.mem_cons_of_mem _ listed)
      cases item with
      | error fault => exact absurd List.mem_cons_self (faultless fault)
      | ok path => exact congrArg (Except.ok path :: ·) later

theorem settle_eq_ok_iff : settle schedule found = .ok all ↔ found = all.map .ok := by
  constructor
  · intro done
    rw [settle] at done
    split at done
    · next none =>
        obtain rfl := Except.ok.inj done
        exact eq_map_of_faultless (faults_eq_nil_iff.mp none)
    · cases done
  · rintro rfl
    have none : (all.map .ok).filterMap fault? = [] := by
      rw [faults_eq_nil_iff]
      simp
    rw [settle, none]
    simp [List.filterMap_map, Function.comp_def, Except.toOption]

theorem mem_of_settle_error (failed : settle schedule found = .error fault) :
    .error fault ∈ found := by
  rw [settle] at failed
  split at failed
  · cases failed
  · next first others told =>
      obtain rfl := Except.error.inj failed
      rw [← mem_faults_iff, told]
      exact schedule.among first others

/-- The schedule that tells of a fault wherever it is met. -/
def favouring (fault : WalkFault) : Schedule where
  told first others := if fault ∈ first :: others then fault else first
  among first others := by
    split
    · assumption
    · exact List.mem_cons_self

/-- Any of the faults of a walk may be told, and nothing else. -/
theorem exists_settle_error_iff :
    (∃ schedule, settle schedule found = .error fault) ↔ .error fault ∈ found := by
  constructor
  · rintro ⟨schedule, failed⟩
    exact mem_of_settle_error failed
  · intro listed
    refine ⟨favouring fault, ?_⟩
    rw [← mem_faults_iff] at listed
    rw [settle]
    split
    · next none =>
        rw [none] at listed
        cases listed
    · next first others told =>
        rw [told] at listed
        exact congrArg Except.error (if_pos listed)

end Settling

/-- What a walk tells of an object that it comes to. -/
inductive Tells (files : FileSystem) (path : Path) : FileTree → Except WalkFault Path → Prop where
  | file {content : ByteArray} {attributes : Attributes} :
      Tells files path (.file content attributes) (.ok path)
  | fault {entries : List (String × FileTree)} {attributes : Attributes} {cause : FileError}
      (unlisted : files.list path = .error cause) :
      Tells files path (.directory entries attributes) (.error ⟨path, cause⟩)

/-- The names of the directories on the way to an object, and its own if it is a directory. -/
def passed (names : Location) (object : FileTree) : List String :=
  if object.isDirectory then names else names.dropLast

def Passes (files : FileSystem) (top : Path) (names : Location) : Prop :=
  ∀ front rest, names = front ++ rest → rest ≠ [] →
    ∃ entries, files.list (top.descend front) = .ok entries

def Meets (files : FileSystem) (excluded : List String) (top : Path) (tree : FileTree)
    (names : Location) (item : Except WalkFault Path) : Prop :=
  ∃ object, tree.at? names = some object ∧ Tells files (top.descend names) object item ∧
    (∀ name ∈ passed names object, name ∉ excluded) ∧ Passes files top names

section Walks

variable {files : FileSystem} {excluded excluded' : List String} {top path : Path} {name : String}
  {names : Location} {object : FileTree} {entries : List (String × FileTree)}
  {attributes : Attributes} {item : Except WalkFault Path} {cause : FileError}

theorem walkIn_eq_flatMap (files : FileSystem) (excluded : List String) (path : Path)
    (entries : List (String × FileTree)) : walkIn files excluded path entries =
      entries.flatMap fun entry => walkAt files excluded (path.join entry.1) entry.1 entry.2 := by
  induction entries with
  | nil => rfl
  | cons entry rest ih => rw [walkIn, ih, List.flatMap_cons]

section Alike

theorem walkIn_congr_of_entries
    (below : ∀ part, (FileTree.directory entries attributes).HoldsDirectory part →
      (part ∈ excluded ↔ part ∈ excluded'))
    (each : ∀ entry ∈ entries,
      (entry.2.isDirectory = true → (entry.1 ∈ excluded ↔ entry.1 ∈ excluded')) →
      (∀ part, entry.2.HoldsDirectory part → (part ∈ excluded ↔ part ∈ excluded')) →
      walkAt files excluded (path.join entry.1) entry.1 entry.2 =
        walkAt files excluded' (path.join entry.1) entry.1 entry.2) :
    walkIn files excluded path entries = walkIn files excluded' path entries := by
  rw [walkIn_eq_flatMap, walkIn_eq_flatMap]
  apply List.flatMap_congr
  intro entry listed
  apply each entry listed
  · intro isDirectory
    obtain ⟨name, object⟩ := entry
    cases object with
    | directory inner attributes' => exact below name (.entry listed)
    | file content attributes => cases isDirectory
    | device kind => cases isDirectory
    | link target => cases isDirectory
  · intro part held
    exact below part (.deeper listed held)

/-- Whether a name is excluded matters only if a directory has it. -/
theorem walkAt_congr (own : object.isDirectory = true → (name ∈ excluded ↔ name ∈ excluded'))
    (below : ∀ part, object.HoldsDirectory part → (part ∈ excluded ↔ part ∈ excluded')) :
    walkAt files excluded path name object = walkAt files excluded' path name object := by
  induction object using FileTree.induction generalizing path name with
  | plain object plain =>
      cases object with
      | directory entries attributes => cases plain
      | file content attributes => rfl
      | device kind => rfl
      | link target => rfl
  | directory entries attributes ih =>
      have within : walkIn files excluded path entries = walkIn files excluded' path entries :=
        walkIn_congr_of_entries below fun entry listed => ih entry listed
      have here : excluded.contains name = excluded'.contains name := by
        rw [Bool.eq_iff_iff, List.contains_iff_mem, List.contains_iff_mem]
        exact own rfl
      rw [walkAt, walkAt, here, within]

theorem walkIn_congr (below : ∀ part, (FileTree.directory entries attributes).HoldsDirectory part →
      (part ∈ excluded ↔ part ∈ excluded')) :
    walkIn files excluded path entries = walkIn files excluded' path entries :=
  walkIn_congr_of_entries below fun _ _ => walkAt_congr

end Alike

theorem passed_cons (more : names ≠ []) :
    passed (name :: names) object = name :: passed names object := by
  rw [passed, passed]
  split
  · rfl
  · exact List.dropLast_cons_of_ne_nil more

theorem passes_nil : Passes files top [] := by
  intro front rest whole more
  exact absurd (List.nil_eq_append_iff.mp whole).2 more

theorem passes_cons_iff : Passes files top (name :: names) ↔
    (∃ entries, files.list top = .ok entries) ∧ Passes files (top.join name) names := by
  constructor
  · intro passes
    refine ⟨passes [] (name :: names) rfl (List.cons_ne_nil _ _), ?_⟩
    rintro front rest rfl more
    exact passes (name :: front) rest rfl more
  · rintro ⟨listed, passes⟩ front rest whole more
    cases front with
    | nil => exact listed
    | cons first front =>
        obtain ⟨rfl, split⟩ := List.cons.inj whole
        exact passes front rest split more

theorem mem_walkIn_of_entries (proper : (FileTree.directory entries attributes).Proper)
    (listable : ∃ listing, files.list top = .ok listing)
    (each : ∀ entry ∈ entries, item ∈ walkAt files excluded (top.join entry.1) entry.1 entry.2 ↔
      ∃ names found, entry.2.at? names = some found ∧
        Tells files ((top.join entry.1).descend names) found item ∧
        (∀ part ∈ passed (entry.1 :: names) found, part ∉ excluded) ∧
        Passes files (top.join entry.1) names) :
    item ∈ walkIn files excluded top entries ↔ ∃ names, names ≠ [] ∧
      Meets files excluded top (.directory entries attributes) names item := by
  rw [walkIn_eq_flatMap, List.mem_flatMap]
  constructor
  · rintro ⟨⟨name, object⟩, listed, walked⟩
    obtain ⟨names, found, there, tells, free, passes⟩ := (each _ listed).mp walked
    exact ⟨name :: names, List.cons_ne_nil _ _, found,
      proper.at?_cons_iff.mpr ⟨object, listed, there⟩, tells, free,
      passes_cons_iff.mpr ⟨listable, passes⟩⟩
  · rintro ⟨names, some, found, there, tells, free, passes⟩
    obtain ⟨name, rest, rfl⟩ := List.exists_cons_of_ne_nil some
    obtain ⟨object, listed, below⟩ := proper.at?_cons_iff.mp there
    refine ⟨(name, object), listed, (each _ listed).mpr ?_⟩
    exact ⟨rest, found, below, tells, free, (passes_cons_iff.mp passes).2⟩

theorem mem_walkAt_plain (plain : object.isDirectory = false) :
    item ∈ walkAt files excluded top name object ↔ Tells files top object item := by
  cases object with
  | directory entries attributes => cases plain
  | file content attributes =>
      rw [walkAt, List.mem_singleton]
      constructor
      · rintro rfl
        exact .file
      · rintro ⟨⟩
        rfl
  | device kind =>
      rw [walkAt]
      exact ⟨fun listed => absurd listed List.not_mem_nil, fun tells => nomatch tells⟩
  | link target =>
      rw [walkAt]
      exact ⟨fun listed => absurd listed List.not_mem_nil, fun tells => nomatch tells⟩

/-- Below a directory that cannot be listed nothing is passed. -/
theorem Passes.eq_nil (passes : Passes files top names) (unlisted : files.list top = .error cause) :
    names = [] := by
  cases names with
  | nil => rfl
  | cons name rest =>
      obtain ⟨⟨listing, listed⟩, -⟩ := passes_cons_iff.mp passes
      cases unlisted.symm.trans listed

theorem Tells.of_directory (tells : Tells files path (.directory entries attributes) item) :
    ∃ cause, files.list path = .error cause ∧ item = .error ⟨path, cause⟩ := by
  cases tells with
  | fault unlisted => exact ⟨_, unlisted, rfl⟩

theorem head_mem_passed (there : (FileTree.directory entries attributes).at? names = some object) :
    name ∈ passed (name :: names) object := by
  cases names with
  | nil =>
      obtain rfl := Option.some.inj there
      simp [passed, FileTree.isDirectory]
  | cons next rest => simp [passed_cons]

theorem exists_meets_iff_of_list {listing : List (String × FileTree)} (admitted : name ∉ excluded)
    (listed : files.list top = .ok listing) :
    (∃ names, names ≠ [] ∧ Meets files excluded top (.directory entries attributes) names item) ↔
      ∃ names found, (FileTree.directory entries attributes).at? names = some found ∧
        Tells files (top.descend names) found item ∧
        (∀ part ∈ passed (name :: names) found, part ∉ excluded) ∧ Passes files top names := by
  constructor
  · rintro ⟨names, some, found, there, tells, free, passes⟩
    refine ⟨names, found, there, tells, ?_, passes⟩
    rw [passed_cons some]
    exact List.forall_mem_cons.mpr ⟨admitted, free⟩
  · rintro ⟨names, found, there, tells, free, passes⟩
    have some : names ≠ [] := by
      rintro rfl
      obtain rfl := Option.some.inj there
      obtain ⟨cause, unlisted, -⟩ := tells.of_directory
      cases listed.symm.trans unlisted
    rw [passed_cons some, List.forall_mem_cons] at free
    exact ⟨names, some, found, there, tells, free.2, passes⟩

theorem mem_walkAt_iff (proper : object.Proper) :
    item ∈ walkAt files excluded top name object ↔ ∃ names found,
      object.at? names = some found ∧ Tells files (top.descend names) found item ∧
      (∀ part ∈ passed (name :: names) found, part ∉ excluded) ∧ Passes files top names := by
  induction object using FileTree.induction generalizing top name with
  | plain object plain =>
      rw [mem_walkAt_plain plain]
      constructor
      · intro tells
        exact ⟨[], object, rfl, tells, by simp [passed, plain], passes_nil⟩
      · rintro ⟨names, found, there, tells, -⟩
        obtain ⟨rfl, rfl⟩ := FileTree.at?_of_not_directory plain there
        exact tells
  | directory entries attributes ih =>
      rw [walkAt]
      by_cases out : excluded.contains name = true
      · rw [if_pos out]
        simp only [List.not_mem_nil, false_iff]
        rintro ⟨names, found, there, -, free, -⟩
        exact free name (head_mem_passed there) (List.contains_iff_mem.mp out)
      have admitted : name ∉ excluded := fun member => out (List.contains_iff_mem.mpr member)
      rw [if_neg out]
      cases listed : files.list top with
      | error cause =>
          rw [List.mem_singleton]
          constructor
          · rintro rfl
            exact ⟨[], _, rfl, .fault listed, by simp [passed, FileTree.isDirectory, admitted],
              passes_nil⟩
          · rintro ⟨names, found, there, tells, -, passes⟩
            obtain rfl := passes.eq_nil listed
            obtain rfl := Option.some.inj there
            obtain ⟨cause', unlisted, rfl⟩ := tells.of_directory
            rw [Except.error.inj (listed.symm.trans unlisted)]
            rfl
      | ok listing =>
          rw [← exists_meets_iff_of_list admitted listed]
          exact mem_walkIn_of_entries proper ⟨listing, listed⟩ fun entry member =>
            ih entry member (proper.of_mem member)

theorem mem_walkIn_iff (proper : (FileTree.directory entries attributes).Proper)
    (listable : ∃ listing, files.list top = .ok listing) :
    item ∈ walkIn files excluded top entries ↔ ∃ names, names ≠ [] ∧
      Meets files excluded top (.directory entries attributes) names item :=
  mem_walkIn_of_entries proper listable fun _ listed => mem_walkAt_iff (proper.of_mem listed)

/-- Where a walk is when it tells something. -/
def placeOf : Except WalkFault Path → Path
  | .ok path => path
  | .error fault => fault.place

theorem Tells.placeOf (tells : Tells files path object item) : placeOf item = path := by
  cases tells <;> rfl

theorem walkIn_distinct_of_entries (proper : (FileTree.directory entries attributes).Proper)
    (each : ∀ entry ∈ entries, (walkAt files excluded (top.join entry.1) entry.1 entry.2).Pairwise
      fun first second => (placeOf first).key ≠ (placeOf second).key) :
    (walkIn files excluded top entries).Pairwise
      fun first second => (placeOf first).key ≠ (placeOf second).key := by
  rw [walkIn_eq_flatMap, List.pairwise_flatMap]
  refine ⟨each, (List.pairwise_map.mp proper.distinct).imp_of_mem ?_⟩
  rintro ⟨name, object⟩ ⟨name', object'⟩ listed listed' differ item walked item' walked' same
  obtain ⟨names, found, there, tells, -⟩ := (mem_walkAt_iff (proper.of_mem listed)).mp walked
  obtain ⟨names', found', there', tells', -⟩ := (mem_walkAt_iff (proper.of_mem listed')).mp walked'
  rw [tells.placeOf, tells'.placeOf] at same
  -- Both paths go on from the directory, and by different names.
  have areNames := proper.isName (proper.at?_cons_iff.mpr ⟨object, listed, there⟩)
  have areNames' := proper.isName (proper.at?_cons_iff.mpr ⟨object', listed', there'⟩)
  exact differ (List.cons.inj (Path.descend_injective top areNames areNames' same)).1

theorem walkAt_distinct (proper : object.Proper) :
    (walkAt files excluded top name object).Pairwise
      fun first second => (placeOf first).key ≠ (placeOf second).key := by
  induction object using FileTree.induction generalizing top name with
  | plain object plain =>
      cases object with
      | directory entries attributes => cases plain
      | file content attributes => exact List.pairwise_singleton _ _
      | device kind => exact .nil
      | link target => exact .nil
  | directory entries attributes ih =>
      rw [walkAt]
      split
      · exact .nil
      · split
        · exact List.pairwise_singleton _ _
        · exact walkIn_distinct_of_entries proper fun entry listed =>
            ih entry listed (proper.of_mem listed)

theorem walkIn_distinct (proper : (FileTree.directory entries attributes).Proper) :
    (walkIn files excluded top entries).Pairwise
      fun first second => (placeOf first).key ≠ (placeOf second).key :=
  walkIn_distinct_of_entries proper fun _ listed => walkAt_distinct (proper.of_mem listed)

/-- Above a directory that cannot be listed, or there, is one that the walk comes to. -/
theorem exists_meets {tree : FileTree} (proper : tree.Proper)
    (there : tree.at? names = some (.directory entries attributes))
    (free : ∀ name ∈ names, name ∉ excluded)
    (unlisted : files.list (top.descend names) = .error cause) :
    ∃ front fault, Meets files excluded top tree front (.error fault) := by
  induction names generalizing tree top with
  | nil =>
      obtain rfl := Option.some.inj there
      exact ⟨[], _, _, rfl, .fault unlisted, by simp [passed], passes_nil⟩
  | cons name rest ih =>
      cases tree with
      | file content attributes => cases there
      | device kind => cases there
      | link target => cases there
      | directory inner attributes' =>
          cases listed : files.list top with
          | error cause' =>
              exact ⟨[], _, _, rfl, .fault listed, by simp [passed], passes_nil⟩
          | ok listing =>
              obtain ⟨admitted, free⟩ := List.forall_mem_cons.mp free
              obtain ⟨object, member, below⟩ := proper.at?_cons_iff.mp there
              obtain ⟨front, fault, found, at', tells, avoided, passes⟩ :=
                @ih (top.join name) object (proper.of_mem member) below free unlisted
              refine ⟨name :: front, fault, found, proper.at?_cons_iff.mpr ⟨object, member, at'⟩,
                tells, ?_, passes_cons_iff.mpr ⟨⟨listing, listed⟩, passes⟩⟩
              have whole : passed (name :: front) found = name :: passed front found := by
                cases tells
                rfl
              rw [whole]
              exact List.forall_mem_cons.mpr ⟨admitted, avoided⟩

end Walks

end SourceFiles

end CallAtlas
