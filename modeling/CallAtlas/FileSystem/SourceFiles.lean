import CallAtlas.FileSystem.Basic
import CallAtlas.Path.Order

/-!
The source files among given inputs. A file counts as it is; below a directory
every regular file with a source extension counts, except in directories whose
names are excluded. Symbolic links are followed in the inputs and not below them.

What a walk comes to is looked at side by side and not in turn. The files are sorted
afterwards, so that this cannot be seen; but if there are several places that the
walk cannot enter, any of them may be the one that is told. A `Schedule` tells which.
-/

namespace CallAtlas

structure WalkFault where
  place : Path
  cause : FileError
  deriving DecidableEq, Repr

/-- The choice among the faults of a walk. -/
structure Schedule where
  told : WalkFault → List WalkFault → WalkFault
  among : ∀ first others, told first others ∈ first :: others

def Schedule.inOrder : Schedule where
  told first _ := first
  among _ _ := List.mem_cons_self

inductive ScanError where
  | unwalkable (root place : Path) (cause : FileError)
  | missing (input : Path)
  deriving DecidableEq, Repr

def ScanError.chain : ScanError → List String
  | unwalkable root place cause =>
      [s!"Failed to gather source files from {root.text}",
        s!"IO error for operation on {place.text}: {cause.message}",
        cause.message]
  | missing input => [s!"Input path does not exist: {input.text}"]

namespace SourceFiles

def excludedDirectories : List String :=
  ["node_modules", ".git", "dist", "build", "target"]

def extensions : List String :=
  ["js", "jsx", "mjs", "cjs", "ts", "tsx", "mts", "cts"]

def isSourceFile (path : Path) : Bool :=
  path.extension?.any extensions.contains

-- A directory is listed by its path, which may be too long for that. Nothing is looked for below
-- one that cannot be listed.
mutual

/-- The regular files at and below an object, and the directories there that cannot be listed. -/
def walkAt (files : FileSystem) (excluded : List String) (path : Path) (name : String) :
    FileTree → List (Except WalkFault Path)
  | .file .. => [.ok path]
  | .device _ => []
  | .link _ => []
  | .directory entries _ =>
      if excluded.contains name then []
      else
        match files.list path with
        | .error cause => [.error ⟨path, cause⟩]
        | .ok _ => walkIn files excluded path entries

def walkIn (files : FileSystem) (excluded : List String) (path : Path) :
    List (String × FileTree) → List (Except WalkFault Path)
  | [] => []
  | (name, object) :: rest =>
      walkAt files excluded (path.join name) name object ++ walkIn files excluded path rest

end

def walkBelow (files : FileSystem) (excluded : List String) (path : Path) :
    List (Except WalkFault Path) :=
  match files.list path with
  | .error cause => [.error ⟨path, cause⟩]
  | .ok entries => walkIn files excluded path entries

/-- The walk from a root. -/
def walk (files : FileSystem) (root : Path) (excluded : List String) :
    List (Except WalkFault Path) :=
  -- The root's own name excludes nothing, and a root that is a link is entered if it leads to a
  -- directory.
  match files.linkStat root with
  | .error cause => [.error ⟨root, cause⟩]
  | .ok (.file ..) => [.ok root]
  | .ok (.device _) => []
  | .ok (.directory ..) => walkBelow files excluded root
  | .ok (.link _) =>
      match files.stat root with
      | .error cause => [.error ⟨root, cause⟩]
      | .ok object => if object.isDirectory then walkBelow files excluded root else []

def fault? : Except WalkFault Path → Option WalkFault
  | .error fault => some fault
  | .ok _ => none

/-- All files of a walk, or one of its faults. -/
def settle (schedule : Schedule) (found : List (Except WalkFault Path)) :
    Except WalkFault (List Path) :=
  match found.filterMap fault? with
  | [] => .ok (found.filterMap Except.toOption)
  | first :: others => .error (schedule.told first others)

def gather (schedule : Schedule) (files : FileSystem) (root : Path) (extra : List String) :
    Except ScanError (List Path) :=
  match settle schedule (walk files root (excludedDirectories ++ extra)) with
  | .ok found => .ok (Path.sort (found.filter isSourceFile))
  | .error fault => .error (.unwalkable root fault.place fault.cause)

def ofInput (schedule : Schedule) (files : FileSystem) (extra : List String) (input : Path) :
    Except ScanError (List Path) :=
  if files.isDirectoryAt input then gather schedule files input extra
  else if files.isFileAt input then .ok [input]
  else .error (.missing input)

/-- The source files of all inputs, each once, in the order of paths. -/
def collect (schedule : Schedule) (files : FileSystem) (extra : List String) (inputs : List Path) :
    Except ScanError (List Path) := do
  let found ← inputs.mapM (ofInput schedule files extra)
  return Path.dedup (Path.sort found.flatten)

end SourceFiles

end CallAtlas
