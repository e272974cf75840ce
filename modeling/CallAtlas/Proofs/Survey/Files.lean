import CallAtlas.Proofs.FileSystem.Inputs
import CallAtlas.Survey.Basic

/-!
The files of a survey. A survey with names of its own to leave out goes through the
inputs by itself, and one without hands them over as a whole. Both ways give the same
if no directory below an input has such a name; and where some have, the first gives
what the second gives less the files behind them. A name leaves out directories below
an input and never the input itself. Which error a survey fails with is up to the
schedule only among the directories of one input that cannot be listed (`files_exact`).
-/

namespace CallAtlas

namespace FileSystem

variable {files : FileSystem} {path : Path} {top : FileTree}

theorem stat_of_isDirectoryAt (isDirectory : files.isDirectoryAt path = true) :
    ∃ entries attributes, files.stat path = .ok (.directory entries attributes) := by
  rw [isDirectoryAt, Option.any_eq_true] at isDirectory
  obtain ⟨top, found, isDirectory⟩ := isDirectory
  rw [toOption_eq_some_iff] at found
  cases top with
  | directory entries attributes => exact ⟨entries, attributes, found⟩
  | file content attributes => cases isDirectory
  | device kind => cases isDirectory
  | link target => cases isDirectory

theorem isDirectoryAt_of_stat (found : files.stat path = .ok top) :
    files.isDirectoryAt path = top.isDirectory := by
  rw [isDirectoryAt, found]
  rfl

theorem proper_of_stat (proper : files.root.Proper) (found : files.stat path = .ok top) :
    top.Proper := by
  obtain ⟨location, reached⟩ := find_of_stat found
  exact proper.of_at? (at?_of_find reached)

end FileSystem

namespace SourceFiles

section Agreement

variable {schedule : Schedule} {files : FileSystem} {extra extra' excluded excluded' : List String}
  {root input : Path} {inputs : List Path} {entries : List (String × FileTree)}
  {attributes : Attributes}

theorem walkBelow_congr (found : files.stat root = .ok (.directory entries attributes))
    (alike : ∀ name, (FileTree.directory entries attributes).HoldsDirectory name →
      (name ∈ excluded ↔ name ∈ excluded')) :
    walkBelow files excluded root = walkBelow files excluded' root := by
  cases listed : files.list root with
  | error cause => rw [walkBelow, walkBelow, listed]
  | ok held =>
      rw [walkBelow_of_list found listed, walkBelow_of_list found listed]
      exact walkIn_congr alike

theorem gather_congr (found : files.stat root = .ok (.directory entries attributes))
    (free : ∀ name ∈ extra, ¬ (FileTree.directory entries attributes).HoldsDirectory name) :
    gather schedule files root extra = gather schedule files root [] := by
  have alike : ∀ name, (FileTree.directory entries attributes).HoldsDirectory name →
      (name ∈ excludedDirectories ++ extra ↔ name ∈ excludedDirectories ++ []) := by
    intro name held
    have absent : name ∉ extra := fun listed => free name listed held
    simp [absent]
  rw [gather, gather, walk_of_directory found rfl, walk_of_directory found rfl,
    walkBelow_congr found alike]

theorem ofInput_congr
    (free : ∀ top, files.stat input = .ok top → ∀ name ∈ extra, ¬ top.HoldsDirectory name) :
    ofInput schedule files extra input = ofInput schedule files [] input := by
  by_cases isDirectory : files.isDirectoryAt input = true
  · obtain ⟨entries, attributes, found⟩ := FileSystem.stat_of_isDirectoryAt isDirectory
    rw [ofInput_of_directory isDirectory, ofInput_of_directory isDirectory,
      gather_congr found (free _ found)]
  · simp only [ofInput, isDirectory]
    rfl

theorem collect_singleton (noDirectory : files.isDirectoryAt input ≠ true) :
    collect schedule files [] [input] = ofInput schedule files extra input := by
  by_cases isFile : files.isFileAt input = true
  · have listable : ∀ given ∈ [input], Listable files [] given := by
      simp [Listable, isFile]
    rw [ofInput_of_file isFile]
    exact collect_of_sorted [input] listable (by simp [ofInput_of_file isFile, Except.toOption])
      (List.pairwise_singleton _ _)
  · have missing : ∀ extra, ofInput schedule files extra input = .error (.missing input) := by
      intro extra
      rw [ofInput, if_neg noDirectory, if_neg isFile]
    rw [collect, List.mapM_cons, missing, missing]
    rfl

theorem collect_congr
    (alike : ∀ input ∈ inputs,
      ofInput schedule files extra input = ofInput schedule files extra' input) :
    collect schedule files extra inputs = collect schedule files extra' inputs := by
  rw [collect, collect, mapM_congr alike]

end Agreement

section Pruning

variable {schedule : Schedule} {files : FileSystem} {extra excluded excluded' : List String}
  {input path : Path} {inputs all : List Path} {top : FileTree} {entries : List (String × FileTree)}
  {attributes : Attributes}

theorem Walkable.mono (walkable : Walkable files input excluded top)
    (among : ∀ name ∈ excluded, name ∈ excluded') : Walkable files input excluded' top := by
  intro names there free
  exact walkable names there fun name part listed => free name part (among name listed)

theorem gather_eq_filter (proper : files.root.Proper)
    (isDirectory : files.isDirectoryAt input = true)
    (done : gather schedule files input [] = .ok all) :
    gather schedule files input extra = .ok (all.filter (avoids extra input)) := by
  obtain ⟨entries, attributes, found⟩ := FileSystem.stat_of_isDirectoryAt isDirectory
  have proper' := FileSystem.proper_of_stat proper found
  have walkable := (walkable_iff_gather found proper').mpr ⟨all, done⟩
  have walkable' : Walkable files input (excludedDirectories ++ extra)
      (.directory entries attributes) :=
    walkable.mono fun name listed => List.mem_append_left extra (by simpa using listed)
  obtain ⟨sources, done'⟩ : ∃ sources, gather schedule files input extra = .ok sources :=
    (walkable_iff_gather found proper').mp walkable'
  have whole := gathered_of_gather found proper' done
  have pruned := gathered_of_gather found proper' done'
  rw [done']
  refine congrArg Except.ok (Path.eq_of_before pruned.increasing (whole.increasing.filter _) ?_)
  intro path
  rw [List.mem_filter, whole.members, pruned.members]
  constructor
  · rintro ⟨directories, name, rfl, file, source, free⟩
    have areNames := areNames_of_hasFile proper' file
    refine ⟨⟨directories, name, rfl, file, source, ?_⟩, (avoids_descend areNames).mpr ?_⟩
    · intro directory part
      exact ⟨(free directory part).1, List.not_mem_nil⟩
    · intro directory part
      exact (free directory part).2
  · rintro ⟨⟨directories, name, rfl, file, source, free⟩, avoiding⟩
    have areNames := areNames_of_hasFile proper' file
    refine ⟨directories, name, rfl, file, source, ?_⟩
    intro directory part
    exact ⟨(free directory part).1, (avoids_descend areNames).mp avoiding directory part⟩

/-- What an input stands for: itself if it is a file, and if it is a directory those of the files
gathered below it that are behind no directory of some names. -/
def admitted (files : FileSystem) (extra : List String) (input : Path) : List Path :=
  if files.isFileAt input then [input]
  else ((gather .inOrder files input []).toOption.getD []).filter (avoids extra input)

theorem ofInput_eq_admitted (proper : files.root.Proper) (listable : Listable files [] input) :
    ofInput schedule files extra input = .ok (admitted files extra input) := by
  rcases listable with isFile | ⟨isDirectory, walked⟩
  · rw [ofInput_of_file isFile, admitted, if_pos isFile]
  · obtain ⟨all, done⟩ := (@exists_gather_iff .inOrder _ _ _).mpr walked
    rw [ofInput_of_directory isDirectory, admitted, done, no_file isDirectory,
      if_neg Bool.false_ne_true]
    exact gather_schedule schedule (gather_eq_filter proper isDirectory done)

theorem Listable.excluding (proper : files.root.Proper) (listable : Listable files [] input) :
    Listable files extra input :=
  (@exists_ofInput_iff .inOrder _ _ _).mp ⟨_, ofInput_eq_admitted proper listable⟩

theorem collect_eq_admitted (proper : files.root.Proper)
    (listable : ∀ input ∈ inputs, Listable files [] input) :
    collect schedule files extra inputs =
      .ok (Path.dedup (Path.sort (inputs.flatMap (admitted files extra)))) := by
  refine collect_eq_ok_iff.mpr
    ⟨fun input listed => (listable input listed).excluding proper, ?_⟩
  have each : inputs.filterMap (fun input => (ofInput schedule files extra input).toOption) =
      inputs.filterMap fun input => some (admitted files extra input) := by
    refine List.filterMap_congr fun input listed => ?_
    rw [ofInput_eq_admitted proper (listable input listed)]
    rfl
  rw [each, List.filterMap_eq_map', List.flatMap_def]

/-- A path that an input stands for, told by the tree below it: a source file on whose way no
directory is one of those that are always left out, or has one of some names. -/
def Admits (files : FileSystem) (extra : List String) (input path : Path) : Prop :=
  files.isFileAt input = true ∧ path = input ∨
    ∃ top directories name, files.stat input = .ok top ∧ top.isDirectory = true ∧
      path = input.descend (directories ++ [name]) ∧
      top.hasFile (directories ++ [name]) = true ∧ IsSourceName name ∧
      ∀ directory ∈ directories, directory ∉ excludedDirectories ∧ directory ∉ extra

theorem supplies_iff (proper : files.root.Proper) (listable : Listable files extra input) :
    Supplies files extra input path ↔ Admits files extra input path := by
  refine or_congr_right ?_
  rcases listable with isFile | ⟨isDirectory, walked⟩
  · constructor
    · rintro ⟨isDirectory, -⟩
      rw [no_directory isFile] at isDirectory
      cases isDirectory
    · rintro ⟨top, directories, name, found, isDirectory, -⟩
      rw [← FileSystem.isDirectoryAt_of_stat found, no_directory isFile] at isDirectory
      cases isDirectory
  · obtain ⟨entries, attributes, found⟩ := FileSystem.stat_of_isDirectoryAt isDirectory
    have proper' := FileSystem.proper_of_stat proper found
    obtain ⟨sources, done⟩ := (@exists_gather_iff .inOrder _ _ _).mpr walked
    have gathered := gathered_of_gather found proper' done
    constructor
    · rintro ⟨-, sources, done', member⟩
      obtain rfl := Except.ok.inj (done.symm.trans (done' .inOrder))
      obtain ⟨directories, name, spelled, file, source, free⟩ := (gathered.members path).mp member
      exact ⟨_, directories, name, found, rfl, spelled, file, source, free⟩
    · rintro ⟨top, directories, name, found', -, spelled, file, source, free⟩
      obtain rfl := Except.ok.inj (found.symm.trans found')
      exact ⟨isDirectory, _, fun schedule => gather_schedule schedule done,
        (gathered.members path).mpr ⟨directories, name, spelled, file, source, free⟩⟩

end Pruning

/-- An input that cannot be listed, and an error that this may give: each directory that the walk
comes to and cannot list may be the one that is told. -/
inductive Refuses (files : FileSystem) (extra : List String) (input : Path) : ScanError → Prop where
  | missing (noDirectory : files.isDirectoryAt input = false)
      (noFile : files.isFileAt input = false) : Refuses files extra input (.missing input)
  | unwalkable {top : FileTree} {names : FileTree.Location} {cause : FileError}
      (found : files.stat input = .ok top) (there : top.hasDirectory names = true)
      (free : ∀ name ∈ names, name ∉ excludedDirectories ∧ name ∉ extra)
      (passes : Passes files input names)
      (unlisted : files.list (input.descend names) = .error cause) :
      Refuses files extra input (.unwalkable input (input.descend names) cause)

/-- What some inputs may fail with: an error of the first of them that cannot be listed. -/
def FailsWith (files : FileSystem) (extra : List String) (inputs : List Path) (error : ScanError) :
    Prop :=
  ∃ earlier input later, inputs = earlier ++ input :: later ∧
    (∀ other ∈ earlier, Listable files extra other) ∧ Refuses files extra input error

section Failing

variable {files : FileSystem} {extra : List String} {input : Path} {inputs : List Path}
  {error : ScanError} {entries : List (String × FileTree)} {attributes : Attributes}

theorem exists_gather_error_iff :
    (∃ schedule, gather schedule files input extra = .error error) ↔
      ∃ fault : WalkFault, error = .unwalkable input fault.place fault.cause ∧
        .error fault ∈ walk files input (excludedDirectories ++ extra) := by
  constructor
  · rintro ⟨schedule, failed⟩
    rw [gather] at failed
    split at failed
    · cases failed
    · next fault settled =>
        exact ⟨fault, (Except.error.inj failed).symm, mem_of_settle_error settled⟩
  · rintro ⟨fault, rfl, met⟩
    obtain ⟨schedule, settled⟩ := exists_settle_error_iff.mpr met
    exact ⟨schedule, by rw [gather, settled]⟩

theorem exists_gather_error_of_directory
    (found : files.stat input = .ok (.directory entries attributes))
    (proper : (FileTree.directory entries attributes).Proper) :
    (∃ schedule, gather schedule files input extra = .error error) ↔
      Refuses files extra input error := by
  rw [exists_gather_error_iff, walk_of_directory found rfl]
  constructor
  · rintro ⟨fault, rfl, met⟩
    obtain ⟨names, object, there, tells, free, passes⟩ := (mem_walkBelow_iff found proper).mp met
    cases tells with
    | fault unlisted =>
        refine .unwalkable found (FileTree.hasDirectory_iff.mpr ⟨_, there, rfl⟩) ?_ passes unlisted
        intro name member
        simpa using free name member
  · intro refuses
    cases refuses with
    | missing noDirectory noFile =>
        rw [FileSystem.isDirectoryAt_of_stat found] at noDirectory
        cases noDirectory
    | @unwalkable top names cause found' there free passes unlisted =>
        obtain rfl := Except.ok.inj (found.symm.trans found')
        obtain ⟨object, there, isDirectory⟩ := FileTree.hasDirectory_iff.mp there
        cases object with
        | directory inner attributes' =>
            refine ⟨_, rfl, (mem_walkBelow_iff found proper).mpr ⟨names, _, there, .fault unlisted,
              ?_, passes⟩⟩
            intro name member
            simpa using free name member
        | file content attributes => cases isDirectory
        | device kind => cases isDirectory
        | link target => cases isDirectory

theorem refuses_iff_of_not_directory (noDirectory : files.isDirectoryAt input = false) :
    Refuses files extra input error ↔ files.isFileAt input = false ∧ error = .missing input := by
  constructor
  · rintro (⟨-, noFile⟩ | ⟨found, there, -, -, -⟩)
    · exact ⟨noFile, rfl⟩
    · rw [FileSystem.isDirectoryAt_of_stat found] at noDirectory
      obtain ⟨object, there, inside⟩ := FileTree.hasDirectory_iff.mp there
      obtain ⟨-, rfl⟩ := FileTree.at?_of_not_directory noDirectory there
      cases noDirectory.symm.trans inside
  · rintro ⟨noFile, rfl⟩
    exact .missing noDirectory noFile

theorem exists_ofInput_error_iff (proper : files.root.Proper) :
    (∃ schedule, ofInput schedule files extra input = .error error) ↔
      Refuses files extra input error := by
  by_cases isDirectory : files.isDirectoryAt input = true
  · obtain ⟨entries, attributes, found⟩ := FileSystem.stat_of_isDirectoryAt isDirectory
    simp only [ofInput_of_directory isDirectory]
    exact exists_gather_error_of_directory found (FileSystem.proper_of_stat proper found)
  rw [refuses_iff_of_not_directory (Bool.eq_false_iff.mpr isDirectory)]
  by_cases isFile : files.isFileAt input = true
  · simp [ofInput_of_file isFile, isFile]
  · have missing : ∀ schedule, ofInput schedule files extra input = .error (.missing input) := by
      intro schedule
      rw [ofInput, if_neg isDirectory, if_neg isFile]
    constructor
    · rintro ⟨schedule, failed⟩
      exact ⟨Bool.eq_false_iff.mpr isFile,
        Except.error.inj (failed.symm.trans (missing schedule))⟩
    · rintro ⟨-, rfl⟩
      exact ⟨.inOrder, missing .inOrder⟩

/-- Collecting stops at the first input that cannot be listed, with any of the errors it may give. -/
theorem exists_collect_error_iff (proper : files.root.Proper) :
    (∃ schedule, collect schedule files extra inputs = .error error) ↔
      FailsWith files extra inputs error := by
  have listing : ∀ schedule, collect schedule files extra inputs = .error error ↔
      inputs.mapM (ofInput schedule files extra) = .error error := by
    intro schedule
    rw [collect]
    cases inputs.mapM (ofInput schedule files extra) <;> simp [bind, Except.bind, pure, Except.pure]
  simp only [listing, mapM_eq_error_iff, exists_ofInput_iff]
  constructor
  · rintro ⟨schedule, earlier, input, later, split, before, failed⟩
    exact ⟨earlier, input, later, split, before,
      (exists_ofInput_error_iff proper).mp ⟨schedule, failed⟩⟩
  · rintro ⟨earlier, input, later, split, before, refuses⟩
    obtain ⟨schedule, failed⟩ := (exists_ofInput_error_iff proper).mpr refuses
    exact ⟨schedule, earlier, input, later, split, before, failed⟩

end Failing

end SourceFiles

namespace Survey

open SourceFiles

variable {survey : Survey} {schedule : Schedule} {system : FileSystem} {paths : List Path}

/-- Going through the inputs one by one is collecting them with the survey's names left out. -/
theorem files_eq_collect (survey : Survey) (schedule : Schedule) (system : FileSystem) :
    survey.files schedule system = collect schedule system survey.excluded survey.inputs := by
  rw [files]
  by_cases none : survey.excluded = []
  · rw [none]
    rfl
  · have alike : survey.inputs.mapM (fun input =>
          if system.isDirectoryAt input then gather schedule system input survey.excluded
          else collect schedule system [] [input]) =
        survey.inputs.mapM (ofInput schedule system survey.excluded) := by
      apply mapM_congr
      intro input _
      by_cases isDirectory : system.isDirectoryAt input = true
      · rw [if_pos isDirectory, ofInput_of_directory isDirectory]
      · rw [if_neg isDirectory, collect_singleton isDirectory]
    rw [if_neg (by simpa using none), alike]
    rfl

/-- The files of a survey: each path once and in order, all that the inputs stand for, and with the
inputs' own walks complete, the list of what they stand for, sorted and without repetitions. -/
structure Selected (survey : Survey) (system : FileSystem) (paths : List Path) : Prop where
  increasing : paths.Pairwise Path.Before
  supplied : ∀ path ∈ paths, ∃ input ∈ survey.inputs, Admits system survey.excluded input path
  complete : ∀ input ∈ survey.inputs, ∀ path, Admits system survey.excluded input path →
    ∃ kept ∈ paths, kept.same path = true
  listed : (∀ input ∈ survey.inputs, Listable system [] input) →
    paths = Path.dedup (Path.sort (survey.inputs.flatMap (admitted system survey.excluded)))

theorem selected_of_ok (proper : system.root.Proper)
    (listable : ∀ input ∈ survey.inputs, Listable system survey.excluded input)
    (done : collect schedule system survey.excluded survey.inputs = .ok paths) :
    survey.Selected system paths := by
  have collected := collected_of_ok done
  constructor
  case increasing => exact collected.increasing
  case supplied =>
    intro path kept
    obtain ⟨input, given, supplies⟩ := collected.supplied path kept
    exact ⟨input, given, (supplies_iff proper (listable input given)).mp supplies⟩
  case complete =>
    intro input given path admits
    exact collected.complete input given path
      ((supplies_iff proper (listable input given)).mpr admits)
  case listed =>
    intro plain
    rw [collect_eq_admitted proper plain] at done
    exact (Except.ok.inj done).symm

/-- A survey whose names are those of no directory below its inputs has, by whatever schedule, the
files or the error that it has without them. In a proper file system it may fail with the errors of
the first input that cannot be listed, and with no others; if all can be listed, which they can if
they can without the names, it has the files that its inputs stand for with the directories of these
names left out. -/
theorem files_exact (survey : Survey) (system : FileSystem) :
    ((∀ input ∈ survey.inputs, ∀ top, system.stat input = .ok top →
        ∀ name ∈ survey.excluded, ¬ top.HoldsDirectory name) →
      ∀ schedule,
        survey.files schedule system = collect schedule system [] survey.inputs) ∧
    (system.root.Proper →
      (∀ error, (∃ schedule, survey.files schedule system = .error error) ↔
        FailsWith system survey.excluded survey.inputs error) ∧
      (∀ error, (∃ schedule, collect schedule system [] survey.inputs = .error error) ↔
        FailsWith system [] survey.inputs error) ∧
      (∀ input, Listable system [] input → Listable system survey.excluded input) ∧
      ((∀ input ∈ survey.inputs, Listable system survey.excluded input) →
        ∃ paths, (∀ schedule, survey.files schedule system = .ok paths) ∧
          survey.Selected system paths)) := by
  simp only [files_eq_collect]
  constructor
  · intro free schedule
    exact collect_congr fun input given => ofInput_congr (free input given)
  · intro proper
    refine ⟨fun error => exists_collect_error_iff proper,
      fun error => exists_collect_error_iff proper, fun input plain => plain.excluding proper, ?_⟩
    intro listable
    have done : collect .inOrder system survey.excluded survey.inputs = .ok _ :=
      collect_eq_ok_iff.mpr ⟨listable, rfl⟩
    exact ⟨_, fun schedule => collect_schedule schedule done, selected_of_ok proper listable done⟩

section Bundled

def bundled : FileSystem where
  root := .plainDirectory
    [("src", .plainDirectory
      [("app.js", script), ("vendor", .plainDirectory [("lib.js", script)])])]
  workingDirectory := []

theorem proper_bundled : bundled.root.Proper := by
  have file : script.Proper := FileTree.proper_plain rfl
  have vendor : (FileTree.plainDirectory [("lib.js", script)]).Proper :=
    FileTree.proper_directory (by decide) (by decide) (by simpa using file)
  have sources : (FileTree.plainDirectory
      [("app.js", script), ("vendor", .plainDirectory [("lib.js", script)])]).Proper :=
    FileTree.proper_directory (by decide) (by decide) (by simpa using ⟨file, vendor⟩)
  exact FileTree.proper_directory (by decide) (by decide) (by simpa using sources)

def withoutVendor (inputs : List Path) : Survey where
  inputs
  excluded := ["vendor"]

theorem listable_bundled : ∀ input ∈ [⟨"src"⟩, ⟨"src/vendor"⟩],
    Listable bundled ["vendor"] input := by
  have sources : Listable bundled ["vendor"] ⟨"src"⟩ := .inr ⟨rfl, faults_eq_nil_iff.mp rfl⟩
  have vendor : Listable bundled ["vendor"] ⟨"src/vendor"⟩ :=
    .inr ⟨rfl, faults_eq_nil_iff.mp rfl⟩
  simp [sources, vendor]

theorem vendor_free : ∀ input ∈ [(⟨"src/vendor"⟩ : Path)], ∀ top, bundled.stat input = .ok top →
    ∀ name ∈ ["vendor"], ¬ top.HoldsDirectory name := by
  have stands : bundled.stat ⟨"src/vendor"⟩ = .ok (.plainDirectory [("lib.js", script)]) := rfl
  simp only [List.mem_singleton]
  rintro input rfl top found name rfl held
  obtain rfl := Except.ok.inj (stands.symm.trans found)
  cases held with
  | entry listed => simp [script, FileTree.plainFile] at listed
  | deeper listed held =>
      obtain ⟨rfl, rfl⟩ := Prod.mk.inj (List.mem_singleton.mp listed)
      cases held

def barred : FileSystem where
  root := .plainDirectory
    [("src", .plainDirectory [("a", .directory [] { mode := 0 }), ("b", .directory [] { mode := 0 })])]
  workingDirectory := []

theorem proper_barred : barred.root.Proper := by
  have closed : (FileTree.directory [] { mode := 0 }).Proper :=
    FileTree.proper_directory (by decide) (by decide) (by simp)
  have sources : (FileTree.plainDirectory
      [("a", .directory [] { mode := 0 }), ("b", .directory [] { mode := 0 })]).Proper :=
    FileTree.proper_directory (by decide) (by decide) (by simpa using closed)
  exact FileTree.proper_directory (by decide) (by decide) (by simpa using sources)

theorem barred_refuses : ∀ name ∈ ["a", "b"], FailsWith barred ["vendor"] [⟨"src"⟩]
    (.unwalkable ⟨"src"⟩ (Path.descend ⟨"src"⟩ [name]) .permissionDenied) := by
  intro name member
  have listed : ∃ entries, barred.list ⟨"src"⟩ = .ok entries := ⟨_, rfl⟩
  have passes : Passes barred ⟨"src"⟩ [name] := passes_cons_iff.mpr ⟨listed, passes_nil⟩
  refine ⟨[], ⟨"src"⟩, [], rfl, by simp, ?_⟩
  have found : barred.stat ⟨"src"⟩ = .ok (.plainDirectory
      [("a", .directory [] { mode := 0 }), ("b", .directory [] { mode := 0 })]) := rfl
  simp only [List.mem_cons, List.not_mem_nil, or_false] at member
  rcases member with rfl | rfl
  · exact .unwalkable found (by decide +kernel) (by decide) passes (by rfl)
  · exact .unwalkable found (by decide +kernel) (by decide) passes (by rfl)

/-- A directory that is left out below one input is there as an input of its own. Of two directories
that cannot be listed either may be told. -/
theorem bundled_selected :
    (∀ schedule, (withoutVendor [⟨"src/vendor"⟩]).files schedule bundled =
      collect schedule bundled [] [⟨"src/vendor"⟩]) ∧
    (∀ schedule, (withoutVendor [⟨"src"⟩, ⟨"src/vendor"⟩]).files schedule bundled =
      .ok [⟨"src/app.js"⟩, ⟨"src/vendor/lib.js"⟩]) ∧
    (withoutVendor [⟨"src"⟩, ⟨"src/vendor"⟩]).Selected bundled
      [⟨"src/app.js"⟩, ⟨"src/vendor/lib.js"⟩] ∧
    ∀ name ∈ ["a", "b"], ∃ schedule, (withoutVendor [⟨"src"⟩]).files schedule barred =
      .error (.unwalkable ⟨"src"⟩ (Path.descend ⟨"src"⟩ [name]) .permissionDenied) := by
  have done : (withoutVendor [⟨"src"⟩, ⟨"src/vendor"⟩]).files .inOrder bundled =
      .ok [⟨"src/app.js"⟩, ⟨"src/vendor/lib.js"⟩] := by
    rw [files_eq_collect]
    exact collect_of_sorted [⟨"src/app.js"⟩, ⟨"src/vendor/lib.js"⟩] listable_bundled
      (by decide +kernel) (by decide +kernel)
  obtain ⟨-, -, -, lists⟩ := (files_exact (withoutVendor _) bundled).2 proper_bundled
  obtain ⟨paths, found, selected⟩ := lists listable_bundled
  obtain rfl := Except.ok.inj ((found .inOrder).symm.trans done)
  obtain ⟨fails, -⟩ := (files_exact (withoutVendor [⟨"src"⟩]) barred).2 proper_barred
  exact ⟨(files_exact (withoutVendor _) bundled).1 vendor_free, found, selected,
    fun name member => (fails _).mpr (barred_refuses name member)⟩

end Bundled

end Survey

end CallAtlas
