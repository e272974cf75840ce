import CallAtlas.Proofs.FileSystem.Resolution
import CallAtlas.Proofs.FileSystem.Walking
import CallAtlas.Proofs.Text.Parts

/-!
The source files that are gathered below a directory are told by the locations in its
tree. Leaving out a directory with all that is below it comes to the same as walking
everything and asking of each file for the directories on the way to it; neither the
name of the root nor that of the file counts (`gather_exact`).
-/

namespace CallAtlas

namespace Path

variable {name before behind : String}

theorem splitName?_eq_some_iff : splitName? name = some (before, behind) ↔
    name.toList = before.toList ++ '.' :: behind.toList ∧ before ≠ "" ∧ '.' ∉ behind.toList := by
  constructor
  · exact splitName?_eq_some
  · rintro ⟨whole, filled, free⟩
    cases parts : splitName? name with
    | none => exact absurd (String.toList_eq_nil_iff.mp (splitName?_eq_none parts whole)) filled
    | some pair =>
        obtain ⟨before', behind'⟩ := pair
        obtain ⟨whole', -, free'⟩ := splitName?_eq_some parts
        obtain ⟨befores, behinds⟩ := Text.lastPart_unique free' free (whole'.symm.trans whole)
        rw [String.toList_injective befores, String.toList_injective behinds]

end Path

namespace FileSystem

open FileTree (Location)

section Links

variable {root : FileTree} {files : FileSystem} {path : Path} {object : FileTree}

/-- What a path leads to if a link at its end is followed and if it is not: where the first is an
object, the second is the same or a link. -/
def StopsAtLink (followed unfollowed : Except FileError Found) : Prop :=
  ∀ location object, followed = .ok (.present location object) →
    unfollowed = followed ∨ ∃ place target, unfollowed = .ok (.present place (.link target))

theorem StopsAtLink.refl (result : Except FileError Found) : StopsAtLink result result :=
  fun _ _ _ => .inl rfl

theorem arrive_stopsAtLink {location : Location} {rest : List String}
    {enter enter' : String → Except FileError Found} {onward onward' : Except FileError Found}
    (enters : ∀ target, StopsAtLink (enter target) (enter' target))
    (goesOn : StopsAtLink onward onward') (entry : Option FileTree) :
    StopsAtLink (arrive true location rest enter onward entry)
      (arrive false location rest enter' onward' entry) := by
  cases entry with
  | none => exact .refl _
  | some object =>
      cases object with
      | link target =>
          by_cases last : rest.isEmpty = true
          · simp only [arrive, last]
            exact fun _ _ _ => .inr ⟨location, target, rfl⟩
          · simp only [arrive, last]
            exact enters target
      | directory entries attributes => exact goesOn
      | file content attributes => exact .refl _
      | device kind => exact .refl _

theorem follow_stopsAtLink
    {enter enter' : List String → String → List String → Except FileError Found}
    (enters : ∀ above target rest,
      StopsAtLink (enter above target rest) (enter' above target rest))
    (above pieces : List String) :
    StopsAtLink (follow root true enter above pieces) (follow root false enter' above pieces) := by
  -- The induction is on the parts of the path, which are followed alike up to the last.
  induction pieces generalizing above with
  | nil => exact .refl _
  | cons piece rest ih =>
      rw [follow_cons, follow_cons]
      by_cases blank : piece = ""
      · rw [if_pos blank, if_pos blank]
        exact ih above
      rw [if_neg blank, if_neg blank]
      cases entryNamed root above.reverse piece with
      | error cause => exact .refl _
      | ok entry =>
          by_cases dot : piece = "."
          · simp only [if_pos dot]
            exact ih above
          by_cases up : piece = ".."
          · simp only [if_neg dot, if_pos up]
            exact ih above.tail
          simp only [if_neg dot, if_neg up]
          exact arrive_stopsAtLink (enters above · rest) (ih (piece :: above)) entry

theorem followLinks_stopsAtLink (links : Nat) (above : List String) (target : String)
    (rest : List String) : StopsAtLink (followLinks root true links above target rest)
      (followLinks root false links above target rest) := by
  induction links generalizing above target rest with
  | zero => exact .refl _
  | succ links ih =>
      rw [followLinks, followLinks]
      exact follow_stopsAtLink ih _ _

theorem followFrom_stopsAtLink (files : FileSystem) (path : Path) (pieces : List String) :
    StopsAtLink (files.followFrom path true pieces) (files.followFrom path false pieces) := by
  rw [followFrom, followFrom]
  exact follow_stopsAtLink (followLinks_stopsAtLink maxLinks) _ _

theorem find_stopsAtLink (files : FileSystem) (path : Path) :
    StopsAtLink (files.find path true) (files.find path false) := by
  rw [find, find]
  cases checkPath path with
  | error cause =>
      intro location object reached
      cases reached
  | ok => exact followFrom_stopsAtLink files path path.pieces

theorem find_of_stat (found : files.stat path = .ok object) :
    ∃ location, files.find path true = .ok (.present location object) := by
  obtain ⟨place, reached, shown⟩ := exists_of_bind found
  cases place with
  | present location held =>
      obtain rfl := Except.ok.inj shown
      exact ⟨location, reached⟩
  | absent location slash => cases shown

theorem linkStat_of_stat (found : files.stat path = .ok object) :
    files.linkStat path = .ok object ∨ ∃ target, files.linkStat path = .ok (.link target) := by
  obtain ⟨location, reached⟩ := find_of_stat found
  rcases find_stopsAtLink files path location object reached with same | ⟨place, target, stopped⟩
  · left
    rw [linkStat, same, reached]
    rfl
  · right
    refine ⟨target, ?_⟩
    rw [linkStat, stopped]
    rfl

theorem list_eq (found : files.stat path = .ok object) : files.list path =
    if object.isDirectory then
      if object.grants .read then .ok object.entries else .error .permissionDenied
    else .error .notADirectory := by
  rw [list, found]
  by_cases isDirectory : object.isDirectory = true <;>
    by_cases readable : object.grants .read = true <;>
      simp [require, isDirectory, readable, bind, Except.bind, pure, Except.pure, throw, throwThe,
        MonadExceptOf.throw]

theorem entries_of_list {entries : List (String × FileTree)} (found : files.stat path = .ok object)
    (listed : files.list path = .ok entries) : entries = object.entries := by
  rw [list_eq found] at listed
  split at listed
  · split at listed
    · exact (Except.ok.inj listed).symm
    · cases listed
  · cases listed

end Links

end FileSystem

namespace SourceFiles

open FileTree (Location)

/-- A name with one of the source extensions behind a stem. -/
def IsSourceName (name : String) : Prop :=
  ∃ stem extension, name = stem ++ "." ++ extension ∧ stem ≠ "" ∧ extension ∈ extensions

section Extensions

variable {name : String} {directories : List String}

theorem extension_free : ∀ extension ∈ extensions, '.' ∉ extension.toList := by
  decide

theorem isSourceFile_descend (root : Path)
    (areNames : ∀ part ∈ directories ++ [name], Path.IsName part) :
    isSourceFile (root.descend (directories ++ [name])) = true ↔ IsSourceName name := by
  have last : (root.descend (directories ++ [name])).fileName? = some name := by
    rw [Path.fileName?, Path.components_descend root areNames]
    simp
  rw [isSourceFile, Path.extension?, last, Option.bind_some, IsSourceName]
  simp only [Option.any_eq_true, Option.map_eq_some_iff, Prod.exists, Path.splitName?_eq_some_iff,
    List.contains_iff_mem]
  constructor
  · rintro ⟨extension, ⟨stem, _, ⟨whole, filled, -⟩, rfl⟩, known⟩
    refine ⟨stem, _, String.toList_injective ?_, filled, known⟩
    simp [whole]
  · rintro ⟨stem, extension, rfl, filled, known⟩
    have free := extension_free extension known
    exact ⟨extension, ⟨stem, extension, ⟨by simp, filled, free⟩, rfl⟩, known⟩

end Extensions

/-- Every directory at or below a root can be listed by its path, unless a directory on the way to
it or it itself is excluded. -/
def Walkable (files : FileSystem) (root : Path) (excluded : List String) (top : FileTree) : Prop :=
  ∀ names, top.hasDirectory names = true → (∀ name ∈ names, name ∉ excluded) →
    ∃ entries, files.list (root.descend names) = .ok entries

/-- None of the names is that of a directory between a root and a path below it. -/
def avoids (excluded : List String) (root path : Path) : Bool :=
  (path.components.drop root.components.length).dropLast.all fun step =>
    !excluded.contains step.text

/-- The source files below a root: which they are and in which order, and that they are the same
when everything is walked and the directories on the way are looked at only then. -/
structure Gathered (files : FileSystem) (root : Path) (extra : List String) (top : FileTree)
    (sources : List Path) : Prop where
  increasing : sources.Pairwise Path.Before
  members : ∀ path, path ∈ sources ↔ ∃ directories name,
    path = root.descend (directories ++ [name]) ∧ top.hasFile (directories ++ [name]) = true ∧
    IsSourceName name ∧
    ∀ directory ∈ directories, directory ∉ excludedDirectories ∧ directory ∉ extra
  filtered : ∀ all : List Path, walk files root [] = all.map .ok →
    sources = Path.sort (all.filter fun path =>
      isSourceFile path && avoids (excludedDirectories ++ extra) root path)

section Walks

variable {schedule : Schedule} {files : FileSystem} {root path : Path}
  {excluded extra : List String} {top : FileTree} {entries : List (String × FileTree)}
  {attributes : Attributes} {all : List Path} {item : Except WalkFault Path}

-- A root that is a link is entered like the directory it leads to.
theorem walk_of_directory (found : files.stat root = .ok top)
    (isDirectory : top.isDirectory = true) :
    walk files root excluded = walkBelow files excluded root := by
  rw [walk]
  rcases FileSystem.linkStat_of_stat found with direct | ⟨target, link⟩
  · rw [direct]
    cases top with
    | directory entries attributes => rfl
    | file content attributes => cases isDirectory
    | device kind => cases isDirectory
    | link target => cases isDirectory
  · rw [link, found]
    exact if_pos isDirectory

theorem walkBelow_of_list {held : List (String × FileTree)}
    (found : files.stat root = .ok (.directory entries attributes))
    (listed : files.list root = .ok held) :
    walkBelow files excluded root = walkIn files excluded root entries := by
  obtain rfl : held = entries := FileSystem.entries_of_list found listed
  rw [walkBelow, listed]

theorem mem_walkBelow_iff (found : files.stat root = .ok (.directory entries attributes))
    (proper : (FileTree.directory entries attributes).Proper) :
    item ∈ walkBelow files excluded root ↔
      ∃ names, Meets files excluded root (.directory entries attributes) names item := by
  cases listed : files.list root with
  | error cause =>
      rw [walkBelow, listed, List.mem_singleton]
      constructor
      · rintro rfl
        exact ⟨[], _, rfl, .fault listed, by simp [passed], passes_nil⟩
      · rintro ⟨names, object, there, tells, -, passes⟩
        cases names with
        | nil =>
            obtain rfl := Option.some.inj there
            cases tells with
            | fault unlisted =>
                obtain rfl := Except.error.inj (listed.symm.trans unlisted)
                rfl
        | cons name rest =>
            obtain ⟨⟨listing, done⟩, -⟩ := passes_cons_iff.mp passes
            cases listed.symm.trans done
  | ok listing =>
      rw [walkBelow_of_list found listed, mem_walkIn_iff proper ⟨listing, listed⟩]
      constructor
      · rintro ⟨names, -, meets⟩
        exact ⟨names, meets⟩
      · rintro ⟨names, object, there, tells, free, passes⟩
        refine ⟨names, ?_, object, there, tells, free, passes⟩
        rintro rfl
        obtain rfl := Option.some.inj there
        cases tells with
        | fault unlisted => cases listed.symm.trans unlisted

theorem walkable_iff (found : files.stat root = .ok (.directory entries attributes))
    (proper : (FileTree.directory entries attributes).Proper) :
    Walkable files root excluded (.directory entries attributes) ↔
      ∀ fault, Except.error fault ∉ walkBelow files excluded root := by
  simp only [mem_walkBelow_iff found proper]
  constructor
  · rintro walkable fault ⟨names, object, there, tells, free, -⟩
    cases tells with
    | fault unlisted =>
        have isThere := FileTree.hasDirectory_iff.mpr ⟨_, there, rfl⟩
        obtain ⟨listing, listed⟩ := walkable names isThere free
        cases listed.symm.trans unlisted
  · intro faultless names isThere free
    obtain ⟨object, there, isDirectory⟩ := FileTree.hasDirectory_iff.mp isThere
    cases listed : files.list (root.descend names) with
    | ok listing => exact ⟨listing, rfl⟩
    | error cause =>
        cases object with
        | directory inner attributes' =>
            obtain ⟨front, fault, meets⟩ := exists_meets proper there free listed
            exact absurd ⟨front, meets⟩ (faultless fault)
        | file content attributes => cases isDirectory
        | device kind => cases isDirectory
        | link target => cases isDirectory

theorem areNames_of_hasFile {tree : FileTree} {names : Location} (proper : tree.Proper)
    (file : tree.hasFile names = true) : ∀ name ∈ names, Path.IsName name := by
  obtain ⟨found, there, -⟩ := FileTree.hasFile_iff.mp file
  exact proper.isName there

theorem avoids_descend {directories : List String} {name : String}
    (areNames : ∀ part ∈ directories ++ [name], Path.IsName part) :
    avoids excluded root (root.descend (directories ++ [name])) = true ↔
      ∀ directory ∈ directories, directory ∉ excluded := by
  rw [avoids, Path.components_descend root areNames, List.drop_left, List.map_append,
    List.map_singleton, List.dropLast_concat]
  simp [Component.text]

theorem Walkable.passes {directories : List String} {name : String}
    (walkable : Walkable files root excluded top)
    (file : top.hasFile (directories ++ [name]) = true)
    (free : ∀ directory ∈ directories, directory ∉ excluded) :
    Passes files root (directories ++ [name]) := by
  intro front rest whole more
  obtain ⟨found, there, -⟩ := FileTree.hasFile_iff.mp file
  rw [whole, FileTree.at?_append] at there
  obtain ⟨object, here, below⟩ := Option.bind_eq_some_iff.mp there
  have isDirectory : object.isDirectory = true := by
    by_contra plain
    exact more (FileTree.at?_of_not_directory (by simpa using plain) below).1
  obtain ⟨init, last, rfl⟩ := (List.eq_nil_or_concat' rest).resolve_left more
  rw [← List.append_assoc] at whole
  obtain ⟨rfl, -⟩ := List.append_inj' whole rfl
  exact walkable front (FileTree.hasDirectory_iff.mpr ⟨object, here, isDirectory⟩) fun part member =>
    free part (List.mem_append_left _ member)

theorem ok_mem_walkBelow_iff (found : files.stat root = .ok (.directory entries attributes))
    (proper : (FileTree.directory entries attributes).Proper)
    (walkable : Walkable files root excluded (.directory entries attributes)) :
    .ok path ∈ walkBelow files excluded root ↔ ∃ directories name,
      path = root.descend (directories ++ [name]) ∧
      (FileTree.directory entries attributes).hasFile (directories ++ [name]) = true ∧
      ∀ directory ∈ directories, directory ∉ excluded := by
  rw [mem_walkBelow_iff found proper]
  constructor
  · rintro ⟨names, object, there, tells, free, -⟩
    cases tells with
    | file =>
        have some : names ≠ [] := by
          rintro rfl
          cases there
        obtain ⟨directories, name, rfl⟩ := (List.eq_nil_or_concat' names).resolve_left some
        have file := FileTree.hasFile_iff.mpr ⟨_, there, rfl⟩
        exact ⟨directories, name, rfl, file, by simpa [passed, FileTree.isDirectory] using free⟩
  · rintro ⟨directories, name, rfl, file, free⟩
    have passes := walkable.passes file free
    obtain ⟨object, there, regular⟩ := FileTree.hasFile_iff.mp file
    cases object with
    | file content attributes' =>
        exact ⟨_, _, there, .file, by simpa [passed, FileTree.isDirectory] using free, passes⟩
    | directory inner attributes' => cases regular
    | device kind => cases regular
    | link target => cases regular

theorem gather_eq_ok_iff {sources : List Path} : gather schedule files root extra = .ok sources ↔
    ∃ all : List Path, walk files root (excludedDirectories ++ extra) = all.map .ok ∧
      sources = Path.sort (all.filter isSourceFile) := by
  simp only [← @settle_eq_ok_iff schedule]
  rw [gather]
  cases settle schedule (walk files root (excludedDirectories ++ extra)) with
  | error failed => simp
  | ok all => simp [eq_comm]

theorem exists_gather_iff : (∃ sources, gather schedule files root extra = .ok sources) ↔
    ∀ fault, Except.error fault ∉ walk files root (excludedDirectories ++ extra) := by
  simp only [gather_eq_ok_iff]
  constructor
  · rintro ⟨sources, all, whole, -⟩
    rw [whole]
    simp
  · intro faultless
    exact ⟨_, _, eq_map_of_faultless faultless, rfl⟩

structure Walked (files : FileSystem) (root : Path) (excluded : List String)
    (entries : List (String × FileTree)) (attributes : Attributes) (all : List Path) : Prop where
  found : files.stat root = .ok (.directory entries attributes)
  proper : (FileTree.directory entries attributes).Proper
  whole : walk files root excluded = all.map .ok

theorem Walked.walkable (walked : Walked files root excluded entries attributes all) :
    Walkable files root excluded (.directory entries attributes) := by
  rw [walkable_iff walked.found walked.proper, ← walk_of_directory walked.found rfl, walked.whole]
  simp

theorem Walked.mem_iff (walked : Walked files root excluded entries attributes all) :
    path ∈ all ∧ isSourceFile path = true ↔ ∃ directories name,
      path = root.descend (directories ++ [name]) ∧
      (FileTree.directory entries attributes).hasFile (directories ++ [name]) = true ∧
      IsSourceName name ∧ ∀ directory ∈ directories, directory ∉ excluded := by
  have listed : path ∈ all ↔ .ok path ∈ walkBelow files excluded root := by
    rw [← walk_of_directory walked.found rfl, walked.whole]
    simp
  rw [listed, ok_mem_walkBelow_iff walked.found walked.proper walked.walkable]
  constructor
  · rintro ⟨⟨directories, name, rfl, file, free⟩, source⟩
    have areNames := areNames_of_hasFile walked.proper file
    exact ⟨directories, name, rfl, file, (isSourceFile_descend root areNames).mp source, free⟩
  · rintro ⟨directories, name, rfl, file, source, free⟩
    have areNames := areNames_of_hasFile walked.proper file
    exact ⟨⟨directories, name, rfl, file, free⟩, (isSourceFile_descend root areNames).mpr source⟩

theorem Walked.increasing (walked : Walked files root excluded entries attributes all)
    (kept : Path → Bool) : (Path.sort (all.filter kept)).Pairwise Path.Before := by
  have distinct : (walkBelow files excluded root).Pairwise
      fun first second => (placeOf first).key ≠ (placeOf second).key := by
    obtain ⟨listing, listed⟩ := walked.walkable [] rfl (by simp)
    rw [walkBelow_of_list walked.found listed]
    exact walkIn_distinct walked.proper
  rw [← walk_of_directory walked.found rfl, walked.whole, List.pairwise_map] at distinct
  exact Path.before_sort (distinct.filter kept)

/-- Walking everything finds the files below excluded directories too, which are then dropped. -/
theorem Walked.mem_filtered_iff {everything : List Path}
    (walked : Walked files root excluded entries attributes all)
    (walked' : Walked files root [] entries attributes everything) :
    path ∈ all ∧ isSourceFile path = true ↔
      path ∈ everything ∧ (isSourceFile path && avoids excluded root path) = true := by
  rw [Bool.and_eq_true, ← and_assoc, walked.mem_iff, walked'.mem_iff]
  constructor
  · rintro ⟨directories, name, rfl, file, source, free⟩
    have areNames := areNames_of_hasFile walked.proper file
    exact ⟨⟨directories, name, rfl, file, source, by simp⟩, (avoids_descend areNames).mpr free⟩
  · rintro ⟨⟨directories, name, rfl, file, source, -⟩, free⟩
    have areNames := areNames_of_hasFile walked.proper file
    exact ⟨directories, name, rfl, file, source, (avoids_descend areNames).mp free⟩

theorem Walked.gathered
    (walked : Walked files root (excludedDirectories ++ extra) entries attributes all) :
    Gathered files root extra (.directory entries attributes)
      (Path.sort (all.filter isSourceFile)) := by
  constructor
  case increasing => exact walked.increasing isSourceFile
  case members =>
    intro path
    rw [Path.mem_sort, List.mem_filter, walked.mem_iff]
    simp only [List.mem_append, not_or]
  case filtered =>
    intro everything whole
    have walked' : Walked files root [] entries attributes everything :=
      ⟨walked.found, walked.proper, whole⟩
    apply Path.eq_of_before (walked.increasing _) (walked'.increasing _)
    intro path
    rw [Path.mem_sort, Path.mem_sort, List.mem_filter, List.mem_filter]
    exact walked.mem_filtered_iff walked'

theorem walkable_iff_gather (found : files.stat root = .ok (.directory entries attributes))
    (proper : (FileTree.directory entries attributes).Proper) :
    Walkable files root (excludedDirectories ++ extra) (.directory entries attributes) ↔
      ∃ sources, gather schedule files root extra = .ok sources := by
  rw [walkable_iff found proper, ← walk_of_directory found rfl, exists_gather_iff]

theorem gathered_of_gather {sources : List Path}
    (found : files.stat root = .ok (.directory entries attributes))
    (proper : (FileTree.directory entries attributes).Proper)
    (done : gather schedule files root extra = .ok sources) :
    Gathered files root extra (.directory entries attributes) sources := by
  obtain ⟨all, whole, rfl⟩ := gather_eq_ok_iff.mp done
  exact Walked.gathered ⟨found, proper, whole⟩

/-- Gathering below a directory fails only if some directory on its way cannot be listed. What it
gives are the regular files below the directory that have a source extension and no excluded
directory above them, each once and in the order of paths. -/
theorem gather_exact (schedule : Schedule) (extra : List String)
    (found : files.stat root = .ok top) (isDirectory : top.isDirectory = true)
    (proper : top.Proper) :
    (Walkable files root (excludedDirectories ++ extra) top ↔
      ∃ sources, gather schedule files root extra = .ok sources) ∧
    ∀ sources, gather schedule files root extra = .ok sources →
      Gathered files root extra top sources := by
  cases top with
  | file content attributes => cases isDirectory
  | device kind => cases isDirectory
  | link target => cases isDirectory
  | directory entries attributes =>
      exact ⟨walkable_iff_gather found proper, fun sources => gathered_of_gather found proper⟩

end Walks

section Nested

def script : FileTree := .plainFile .empty

/-- A directory to be named like an excluded one, with a source in it and an excluded directory
further down. -/
def nested : FileTree :=
  .plainDirectory
    [("main.js", script), ("link.js", .link "main.js"),
      ("src", .plainDirectory
        [("app.ts", script), ("build", .plainDirectory [("app.js", script)])])]

def nestedFiles : FileSystem where
  root := .plainDirectory [("dist", nested)]
  workingDirectory := []

theorem proper_nested : nested.Proper := by
  have file : script.Proper := FileTree.proper_plain rfl
  have build : (FileTree.plainDirectory [("app.js", script)]).Proper :=
    FileTree.proper_directory (by decide) (by decide) (by simpa using file)
  have source : (FileTree.plainDirectory
      [("app.ts", script), ("build", .plainDirectory [("app.js", script)])]).Proper :=
    FileTree.proper_directory (by decide) (by decide) (by simpa using ⟨file, build⟩)
  exact FileTree.proper_directory (by decide) (by decide)
    (by simpa using ⟨file, FileTree.proper_plain rfl, source⟩)

/-- Neither the name of the root nor that of a file keeps the file out. -/
theorem nested_gathered :
    gather .inOrder nestedFiles ⟨"dist"⟩ ["main.js"] =
      .ok [⟨"dist/main.js"⟩, ⟨"dist/src/app.ts"⟩] ∧
    Walkable nestedFiles ⟨"dist"⟩ (excludedDirectories ++ ["main.js"]) nested ∧
    Gathered nestedFiles ⟨"dist"⟩ ["main.js"] nested [⟨"dist/main.js"⟩, ⟨"dist/src/app.ts"⟩] := by
  have found : nestedFiles.stat ⟨"dist"⟩ = .ok nested := rfl
  have walked : walk nestedFiles ⟨"dist"⟩ (excludedDirectories ++ ["main.js"]) =
      [⟨"dist/main.js"⟩, ⟨"dist/src/app.ts"⟩].map .ok := rfl
  have sorted : Path.sort [⟨"dist/main.js"⟩, ⟨"dist/src/app.ts"⟩] =
      [⟨"dist/main.js"⟩, ⟨"dist/src/app.ts"⟩] :=
    List.mergeSort_of_pairwise (by decide +kernel)
  have done : gather .inOrder nestedFiles ⟨"dist"⟩ ["main.js"] =
      .ok [⟨"dist/main.js"⟩, ⟨"dist/src/app.ts"⟩] :=
    gather_eq_ok_iff.mpr ⟨_, walked, sorted.symm⟩
  obtain ⟨walkable, gathered⟩ := gather_exact .inOrder ["main.js"] found rfl proper_nested
  exact ⟨done, walkable.mpr ⟨_, done⟩, gathered _ done⟩

end Nested

end SourceFiles

end CallAtlas
