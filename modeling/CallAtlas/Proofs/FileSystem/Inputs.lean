import CallAtlas.Proofs.FileSystem.Gathering

/-!
The files of some inputs. Whatever the inputs overlap in, and however they are
spelled, the files come out once each and in strictly increasing order; so the order
of the inputs and how often one is given only decide between spellings of the same
path (`collect_exact`).
-/

namespace CallAtlas.SourceFiles

/-- An input that is a file, or a directory below which the walk meets no fault. -/
def Listable (files : FileSystem) (extra : List String) (input : Path) : Prop :=
  files.isFileAt input = true ∨ files.isDirectoryAt input = true ∧
    ∀ fault, Except.error fault ∉ walk files input (excludedDirectories ++ extra)

/-- What an input stands for: itself if it is a file, the source files below it if it is a
directory. -/
def Supplies (files : FileSystem) (extra : List String) (input path : Path) : Prop :=
  files.isFileAt input = true ∧ path = input ∨
    files.isDirectoryAt input = true ∧
      ∃ found, (∀ schedule, gather schedule files input extra = .ok found) ∧ path ∈ found

structure Collected (files : FileSystem) (extra : List String) (inputs paths : List Path) :
    Prop where
  increasing : paths.Pairwise Path.Before
  supplied : ∀ path ∈ paths, ∃ input ∈ inputs, Supplies files extra input path
  complete : ∀ input ∈ inputs, ∀ path, Supplies files extra input path →
    ∃ kept ∈ paths, kept.same path = true

section Inputs

variable {schedule : Schedule} {files : FileSystem} {extra : List String} {input path : Path}
  {inputs others paths paths' found : List Path}

theorem no_directory (isFile : files.isFileAt input = true) :
    files.isDirectoryAt input = false := by
  rw [FileSystem.isDirectoryAt]
  rw [FileSystem.isFileAt] at isFile
  revert isFile
  cases (files.stat input).toOption with
  | none => simp
  | some object => cases object <;> simp [FileTree.isRegularFile, FileTree.isDirectory]

theorem no_file (isDirectory : files.isDirectoryAt input = true) :
    files.isFileAt input = false := by
  cases isFile : files.isFileAt input with
  | false => rfl
  | true =>
      rw [no_directory isFile] at isDirectory
      cases isDirectory

theorem ofInput_of_file (isFile : files.isFileAt input = true) :
    ofInput schedule files extra input = .ok [input] := by
  rw [ofInput, no_directory isFile, if_neg Bool.false_ne_true, if_pos isFile]

theorem ofInput_of_directory (isDirectory : files.isDirectoryAt input = true) :
    ofInput schedule files extra input = gather schedule files input extra := by
  rw [ofInput, if_pos isDirectory]

theorem gather_schedule (schedule' : Schedule)
    (done : gather schedule files input extra = .ok found) :
    gather schedule' files input extra = .ok found :=
  gather_eq_ok_iff.mpr (gather_eq_ok_iff.mp done)

theorem exists_ofInput_iff :
    (∃ found, ofInput schedule files extra input = .ok found) ↔ Listable files extra input := by
  by_cases isDirectory : files.isDirectoryAt input = true
  · rw [ofInput_of_directory isDirectory, exists_gather_iff]
    simp [Listable, isDirectory, no_file isDirectory]
  · by_cases isFile : files.isFileAt input = true
    · simp [Listable, ofInput_of_file isFile, isFile]
    · simp [Listable, ofInput, isDirectory, isFile]

theorem ofInput_schedule (schedule' : Schedule)
    (done : ofInput schedule files extra input = .ok found) :
    ofInput schedule' files extra input = .ok found := by
  rcases exists_ofInput_iff.mp ⟨found, done⟩ with isFile | ⟨isDirectory, -⟩
  · rw [ofInput_of_file isFile] at done ⊢
    exact done
  · rw [ofInput_of_directory isDirectory] at done ⊢
    exact gather_schedule schedule' done

theorem mem_ofInput_iff (done : ofInput schedule files extra input = .ok found) :
    path ∈ found ↔ Supplies files extra input path := by
  rcases exists_ofInput_iff.mp ⟨found, done⟩ with isFile | ⟨isDirectory, -⟩
  · rw [ofInput_of_file isFile] at done
    obtain rfl := Except.ok.inj done
    simp [Supplies, isFile, no_directory isFile]
  · rw [ofInput_of_directory isDirectory] at done
    constructor
    · intro member
      exact .inr ⟨isDirectory, found, fun schedule => gather_schedule schedule done, member⟩
    · rintro (⟨isFile, -⟩ | ⟨-, found', always, member⟩)
      · rw [no_file isDirectory] at isFile
        cases isFile
      · obtain rfl := Except.ok.inj (done.symm.trans (always schedule))
        exact member

theorem collect_eq_ok_iff : collect schedule files extra inputs = .ok paths ↔
    (∀ input ∈ inputs, Listable files extra input) ∧ paths = Path.dedup (Path.sort
      (inputs.filterMap fun input => (ofInput schedule files extra input).toOption).flatten) := by
  rw [collect]
  constructor
  · intro done
    obtain ⟨found, run, done⟩ := exists_of_bind done
    obtain ⟨each, rfl⟩ := (mapM_eq_ok_iff _ _ _).mp run
    exact ⟨fun input listed => exists_ofInput_iff.mp (each input listed),
      (Except.ok.inj done).symm⟩
  · rintro ⟨each, rfl⟩
    have run := (mapM_eq_ok_iff (ofInput schedule files extra) inputs _).mpr
      ⟨fun input listed => exists_ofInput_iff.mpr (each input listed), rfl⟩
    rw [run]
    rfl

theorem collect_schedule (schedule' : Schedule)
    (done : collect schedule files extra inputs = .ok paths) :
    collect schedule' files extra inputs = .ok paths := by
  obtain ⟨listable, rfl⟩ := collect_eq_ok_iff.mp done
  refine collect_eq_ok_iff.mpr ⟨listable, ?_⟩
  have each : inputs.filterMap (fun input => (ofInput schedule files extra input).toOption) =
      inputs.filterMap fun input => (ofInput schedule' files extra input).toOption := by
    refine List.filterMap_congr fun input listed => ?_
    obtain ⟨found, done⟩ := (@exists_ofInput_iff schedule _ _ _).mpr (listable input listed)
    rw [done, ofInput_schedule schedule' done]
  rw [each]

theorem collect_of_sorted (given : List Path)
    (listable : ∀ input ∈ inputs, Listable files extra input)
    (supply : (inputs.filterMap fun input =>
      (ofInput schedule files extra input).toOption).flatten = given)
    (sorted : given.Pairwise fun first second => first.le second = true) :
    collect schedule files extra inputs = .ok (Path.dedup given) := by
  refine collect_eq_ok_iff.mpr ⟨listable, ?_⟩
  rw [supply, Path.sort, List.mergeSort_of_pairwise sorted]

theorem Supplies.listable (supplies : Supplies files extra input path) :
    Listable files extra input := by
  rcases supplies with ⟨isFile, -⟩ | ⟨isDirectory, found, gathered, -⟩
  · exact .inl isFile
  · exact .inr ⟨isDirectory, exists_gather_iff.mp ⟨found, gathered .inOrder⟩⟩

theorem mem_supply_iff (schedule : Schedule) :
    path ∈ (inputs.filterMap fun input =>
        (ofInput schedule files extra input).toOption).flatten ↔
      ∃ input ∈ inputs, Supplies files extra input path := by
  simp only [List.mem_flatten, List.mem_filterMap, toOption_eq_some_iff]
  constructor
  · rintro ⟨found, ⟨input, listed, done⟩, member⟩
    exact ⟨input, listed, (mem_ofInput_iff done).mp member⟩
  · rintro ⟨input, listed, supplies⟩
    obtain ⟨found, done⟩ := exists_ofInput_iff.mpr supplies.listable
    exact ⟨found, ⟨input, listed, done⟩, (mem_ofInput_iff done).mpr supplies⟩

theorem collected_of_ok (done : collect schedule files extra inputs = .ok paths) :
    Collected files extra inputs paths := by
  obtain ⟨-, rfl⟩ := collect_eq_ok_iff.mp done
  constructor
  case increasing => exact Path.before_dedup (Path.sorted_sort _)
  case supplied =>
    intro path kept
    exact (mem_supply_iff _).mp (Path.mem_sort.mp (Path.mem_of_mem_dedup kept))
  case complete =>
    intro input listed path supplies
    have given := Path.mem_sort.mpr ((mem_supply_iff schedule).mpr ⟨input, listed, supplies⟩)
    obtain ⟨kept, member, keys⟩ := Path.exists_kept given
    exact ⟨kept, member, Path.same_iff.mpr keys⟩

theorem Collected.covered (collected : Collected files extra inputs paths)
    (collected' : Collected files extra others paths')
    (among : ∀ input ∈ inputs, input ∈ others) :
    ∀ path ∈ paths, ∃ kept ∈ paths', kept.key = path.key := by
  intro path member
  obtain ⟨input, listed, supplies⟩ := collected.supplied path member
  obtain ⟨kept, member', same⟩ := collected'.complete input (among input listed) path supplies
  exact ⟨kept, member', Path.same_iff.mp same⟩

theorem Collected.alike (collected : Collected files extra inputs paths)
    (collected' : Collected files extra others paths')
    (same : ∀ input, input ∈ others ↔ input ∈ inputs) :
    List.Forall₂ (fun first second => first.same second = true) paths paths' := by
  apply Path.forall₂_same_of_before collected.increasing collected'.increasing
  · exact collected.covered collected' fun input => (same input).mpr
  · exact collected'.covered collected fun input => (same input).mp

/-- Inputs that can all be listed give their files, each once and in order, and the same paths
whatever their order and number; with an input that is no directory and no file there is no list. -/
theorem collect_exact (files : FileSystem) (extra : List String) (inputs : List Path) :
    ((∀ input ∈ inputs, Listable files extra input) →
      ∃ paths, (∀ schedule, collect schedule files extra inputs = .ok paths) ∧
        Collected files extra inputs paths ∧
        ∀ others, (∀ input, input ∈ others ↔ input ∈ inputs) →
          ∃ paths', (∀ schedule, collect schedule files extra others = .ok paths') ∧
            List.Forall₂ (fun first second => first.same second = true) paths paths') ∧
    ((∃ input ∈ inputs, files.isDirectoryAt input = false ∧ files.isFileAt input = false) →
      ∀ schedule, ∃ failure, collect schedule files extra inputs = .error failure) := by
  constructor
  · intro listable
    have done : collect .inOrder files extra inputs = .ok _ :=
      collect_eq_ok_iff.mpr ⟨listable, rfl⟩
    have collected := collected_of_ok done
    refine ⟨_, fun schedule => collect_schedule schedule done, collected, ?_⟩
    intro others same
    have done' : collect .inOrder files extra others = .ok _ :=
      collect_eq_ok_iff.mpr ⟨fun input listed => listable input ((same input).mp listed), rfl⟩
    exact ⟨_, fun schedule => collect_schedule schedule done',
      collected.alike (collected_of_ok done') same⟩
  · rintro ⟨input, listed, noDirectory, noFile⟩ schedule
    cases done : collect schedule files extra inputs with
    | error failure => exact ⟨failure, rfl⟩
    | ok paths =>
        have listable := (collect_eq_ok_iff.mp done).1 input listed
        simp [Listable, noDirectory, noFile] at listable

end Inputs

section Shelf

def shelf : FileSystem where
  root := .plainDirectory
    [("pkg", .plainDirectory [("a.js", .plainFile .empty), ("notes", .plainFile .empty)])]
  workingDirectory := []

theorem shelf_listable : ∀ input ∈ [⟨"pkg"⟩, ⟨"pkg//a.js"⟩, ⟨"pkg/notes"⟩],
    Listable shelf [] input := by
  have directory : Listable shelf [] ⟨"pkg"⟩ := .inr ⟨rfl, faults_eq_nil_iff.mp rfl⟩
  have source : Listable shelf [] ⟨"pkg//a.js"⟩ := .inl rfl
  have notes : Listable shelf [] ⟨"pkg/notes"⟩ := .inl rfl
  simp [directory, source, notes]

/-- The source file is found in its directory and given in another spelling; which one is kept is up
to the order of the inputs. -/
theorem shelf_collected :
    collect .inOrder shelf [] [⟨"pkg"⟩, ⟨"pkg//a.js"⟩, ⟨"pkg/notes"⟩] =
      .ok [⟨"pkg/a.js"⟩, ⟨"pkg/notes"⟩] ∧
    collect .inOrder shelf [] [⟨"pkg//a.js"⟩, ⟨"pkg//a.js"⟩, ⟨"pkg"⟩, ⟨"pkg/notes"⟩] =
      .ok [⟨"pkg//a.js"⟩, ⟨"pkg/notes"⟩] ∧
    List.Forall₂ (fun first second : Path => first.same second = true)
      [⟨"pkg/a.js"⟩, ⟨"pkg/notes"⟩] [⟨"pkg//a.js"⟩, ⟨"pkg/notes"⟩] ∧
    ∀ schedule, ∃ failure, collect schedule shelf [] [⟨"pkg"⟩, ⟨"other"⟩] = .error failure := by
  have alike : ∀ input : Path, input ∈ [⟨"pkg//a.js"⟩, ⟨"pkg//a.js"⟩, ⟨"pkg"⟩, ⟨"pkg/notes"⟩] ↔
      input ∈ [⟨"pkg"⟩, ⟨"pkg//a.js"⟩, ⟨"pkg/notes"⟩] := by
    intro input
    simp only [List.mem_cons]
    tauto
  have done : collect .inOrder shelf [] [⟨"pkg"⟩, ⟨"pkg//a.js"⟩, ⟨"pkg/notes"⟩] =
      .ok [⟨"pkg/a.js"⟩, ⟨"pkg/notes"⟩] :=
    collect_of_sorted [⟨"pkg/a.js"⟩, ⟨"pkg//a.js"⟩, ⟨"pkg/notes"⟩] shelf_listable
      (by decide +kernel) (by decide +kernel)
  have done' : collect .inOrder shelf [] [⟨"pkg//a.js"⟩, ⟨"pkg//a.js"⟩, ⟨"pkg"⟩, ⟨"pkg/notes"⟩] =
      .ok [⟨"pkg//a.js"⟩, ⟨"pkg/notes"⟩] :=
    collect_of_sorted [⟨"pkg//a.js"⟩, ⟨"pkg//a.js"⟩, ⟨"pkg/a.js"⟩, ⟨"pkg/notes"⟩]
      (fun input listed => shelf_listable input ((alike input).mp listed))
      (by decide +kernel) (by decide +kernel)
  obtain ⟨paths, found, -, stable⟩ := (collect_exact shelf [] _).1 shelf_listable
  obtain ⟨paths', found', same⟩ := stable _ alike
  obtain rfl := Except.ok.inj ((found .inOrder).symm.trans done)
  obtain rfl := Except.ok.inj ((found' .inOrder).symm.trans done')
  refine ⟨done, done', same, ?_⟩
  exact (collect_exact shelf [] _).2 ⟨⟨"other"⟩, by simp, rfl, rfl⟩

end Shelf

end CallAtlas.SourceFiles
