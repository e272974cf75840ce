import CallAtlas.FileSystem.Basic

/-!
Changes of the names in directories: removing, renaming and linking objects, and
changes of permissions.
-/

namespace CallAtlas.FileSystem

def unlink (files : FileSystem) (path : Path) : Except FileError FileSystem := do
  match ← files.place path with
  | .unnamed _ => throw .isADirectory
  | .named directory name slash =>
      match files.root.at? (directory ++ [name]) with
      | none => throw .notFound
      | some object => do
          if slash then throw (if object.isDirectory then .isADirectory else .notADirectory)
          files.requireChange directory
          if object.isDirectory then throw .isADirectory
          return { files with root := files.root.removeEntry directory name }

def removeDirectory (files : FileSystem) (path : Path) : Except FileError FileSystem := do
  match ← files.place path with
  | .unnamed _ => throw .invalidArgument
  | .named directory name _ =>
      match files.root.at? (directory ++ [name]) with
      | none => throw .notFound
      | some object => do
          files.requireChange directory
          unless object.isDirectory do throw .notADirectory
          unless object.entries.isEmpty do throw .notEmpty
          return { files with root := files.root.removeEntry directory name }

def symbolicLink (files : FileSystem) (target : String) (path : Path) :
    Except FileError FileSystem := do
  match ← files.place path with
  | .unnamed _ => throw .alreadyExists
  | .named directory name slash => do
      if target.isEmpty then throw .notFound
      if (files.root.at? (directory ++ [name])).isSome then throw .alreadyExists
      if slash then throw .notFound
      files.requireChange directory
      return files.put (directory ++ [name]) (.link target)

def hardLink (files : FileSystem) (identity : Nat) (source target : Path) :
    Except FileError FileSystem := do
  -- The identity is for a file that has none. A link of the last name is not followed.
  match ← files.find source false with
  | .absent .. => throw .notFound
  | .present location object =>
      match ← files.place target with
      | .unnamed _ => throw .alreadyExists
      | .named directory name slash => do
          if (files.root.at? (directory ++ [name])).isSome then throw .alreadyExists
          if slash then throw .notFound
          files.requireChange directory
          if object.isDirectory || !object.attributes.isOwned then throw .notPermitted
          let shared := if object.identity?.isSome then object else object.identifiedBy identity
          return (files.put location shared).put (directory ++ [name]) shared

/-- Gives an object another name; what had the new name is replaced. -/
def rename (files : FileSystem) (source target : Path) : Except FileError FileSystem := do
  let .named fromDirectory fromName _ ← files.place source | throw .busy
  let .named toDirectory toName slash ← files.place target | throw .busy
  let origin := fromDirectory ++ [fromName]
  let goal := toDirectory ++ [toName]
  let some object := files.root.at? origin | throw .notFound
  if origin = goal then return files
  if object.isDirectory && origin.isPrefixOf goal then throw .invalidArgument
  let replaced? := files.root.at? goal
  if slash && !object.isDirectory then throw .notADirectory
  if goal.isPrefixOf origin then throw .notEmpty
  if object.identity?.isSome && (replaced?.bind (·.identity?)) = object.identity? then return files
  files.requireChange fromDirectory
  files.requireChange toDirectory
  match replaced? with
  | some replaced =>
      if replaced.isDirectory then
        if !object.isDirectory then throw .isADirectory
      else if object.isDirectory then throw .notADirectory
  | none => pure ()
  if object.isDirectory && fromDirectory ≠ toDirectory then require .write object
  unless (replaced?.map FileTree.entries).getD [] |>.isEmpty do throw .notEmpty
  let emptied := files.root.removeEntry fromDirectory fromName
  return { files with root := emptied.put goal object }

def changeMode (files : FileSystem) (path : Path) (change : Nat → Nat) :
    Except FileError FileSystem := do
  match ← files.find path true with
  | .absent .. => throw .notFound
  | .present location object => do
      let attributes := object.attributes
      unless attributes.isOwned do throw .notPermitted
      return files.put location (object.withAttributes
        { attributes with mode := change attributes.mode })

end CallAtlas.FileSystem
