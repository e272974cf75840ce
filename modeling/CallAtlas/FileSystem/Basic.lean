import CallAtlas.FileSystem.Error
import CallAtlas.FileTree.Identity
import CallAtlas.Path.Basic

/-!
File systems: a file tree from its root, and the working directory in it from which
relative paths lead. A file system is a value; writing gives a new one. What
permissions deny is not done.
-/

namespace CallAtlas

structure FileSystem where
  root : FileTree
  workingDirectory : FileTree.Location
  /-- The permissions that new objects do not get. -/
  mask : Nat := 0o022

namespace FileSystem

open FileTree (Location)

def here (files : FileSystem) : FileTree :=
  (files.root.at? files.workingDirectory).getD .empty

/-- Puts an object at a location. -/
def put (files : FileSystem) (location : Location) (object : FileTree) : FileSystem :=
  -- A file with an identity is put in place of all its names.
  let root := files.root.put location object
  match object with
  | .file _ { identity := some identity, .. } =>
      { files with root := root.renew identity object }
  | _ => { files with root }

def granted (files : FileSystem) (mode : Nat) : Attributes :=
  { mode := mode - (mode &&& files.mask) }

def newFile (files : FileSystem) (content : ByteArray) : FileTree :=
  .file content (files.granted 0o666)

def newDirectory (files : FileSystem) : FileTree :=
  .directory [] (files.granted 0o777)

def require (right : Right) (object : FileTree) : Except FileError Unit :=
  if object.grants right then .ok () else .error .permissionDenied

def requireChange (files : FileSystem) (directory : Location) : Except FileError Unit := do
  match files.root.at? directory with
  | none => throw .notFound
  | some object => do
      require .write object
      require .execute object

/-- Where a path leads. -/
inductive Found where
  | present (location : Location) (object : FileTree)
  /-- Nothing has the last name yet; `slash` tells that the path ended in one. -/
  | absent (location : Location) (slash : Bool)

def maxNameLength : Nat := 255

def maxPathLength : Nat := 4095

def entryNamed (root : FileTree) (directory : Location) (name : String) :
    Except FileError (Option FileTree) := do
  match root.at? directory with
  | none => throw .notFound
  | some object => do
      require .execute object
      if maxNameLength < name.utf8ByteSize then throw .nameTooLong
      return object.entries.lookup name

/-- Follows the parts of a path from a directory, given by the names to it, the last one first. -/
def follow (root : FileTree) (followLast : Bool)
    (enter : List String → String → List String → Except FileError Found) :
    List String → List String → Except FileError Found
  -- `enter` goes on at a symbolic link: from the directory that holds it, through its target and
  -- the parts left.
  | above, [] =>
      match root.at? above.reverse with
      | some object => .ok (.present above.reverse object)
      | none => .error .notFound
  | above, piece :: rest =>
      if piece = "" then follow root followLast enter above rest
      else
        match entryNamed root above.reverse piece with
        | .error cause => .error cause
        | .ok found =>
            if piece = "." then follow root followLast enter above rest
            else if piece = ".." then follow root followLast enter above.tail rest
            else
              match found with
              | none =>
                  if rest.all (· = "") then
                    .ok (.absent (above.reverse ++ [piece]) (!rest.isEmpty))
                  else .error .notFound
              | some (.link target) =>
                  if rest.isEmpty && !followLast then
                    .ok (.present (above.reverse ++ [piece]) (.link target))
                  else enter above target rest
              | some (.directory ..) => follow root followLast enter (piece :: above) rest
              | some object =>
                  if rest.isEmpty then .ok (.present (above.reverse ++ [piece]) object)
                  else .error .notADirectory

def followLinks (root : FileTree) (followLast : Bool) :
    Nat → List String → String → List String → Except FileError Found
  | 0, _, _, _ => .error .tooManyLinks
  | links + 1, above, target, rest =>
      follow root followLast (followLinks root followLast links)
        (if Path.isAbsolute ⟨target⟩ then [] else above) (Path.pieces ⟨target⟩ ++ rest)

def maxLinks : Nat := 40

/-- Follows parts of a path from where the path begins. -/
def followFrom (files : FileSystem) (path : Path) (followLast : Bool) (pieces : List String) :
    Except FileError Found :=
  let start := if path.isAbsolute then [] else files.workingDirectory.reverse
  follow files.root followLast (followLinks files.root followLast maxLinks) start pieces

def checkPath (path : Path) : Except FileError Unit :=
  if path.text.toList.contains '\x00' then .error .nulInName
  else if path.text.isEmpty then .error .notFound
  else if maxPathLength < path.text.utf8ByteSize then .error .nameTooLong
  else .ok ()

/-- Where a path leads; whether a link at its end is followed is up to the operation. -/
def find (files : FileSystem) (path : Path) (followLast : Bool) : Except FileError Found := do
  checkPath path
  files.followFrom path followLast path.pieces

def stat (files : FileSystem) (path : Path) : Except FileError FileTree := do
  match ← files.find path true with
  | .present _ object => return object
  | .absent .. => throw .notFound

def linkStat (files : FileSystem) (path : Path) : Except FileError FileTree := do
  match ← files.find path false with
  | .present _ object => return object
  | .absent .. => throw .notFound

def pathExists (files : FileSystem) (path : Path) : Bool :=
  (files.stat path).isOk

def isDirectoryAt (files : FileSystem) (path : Path) : Bool :=
  (files.stat path).toOption.any FileTree.isDirectory

def isFileAt (files : FileSystem) (path : Path) : Bool :=
  (files.stat path).toOption.any FileTree.isRegularFile

/-- The bytes of a file; a device has none. -/
def read (files : FileSystem) (path : Path) : Except FileError ByteArray := do
  let object ← files.stat path
  require .read object
  match object with
  | .file content _ => return content
  | .device _ => return .empty
  | _ => throw .isADirectory

def list (files : FileSystem) (path : Path) : Except FileError (List (String × FileTree)) := do
  let object ← files.stat path
  unless object.isDirectory do throw .notADirectory
  require .read object
  return object.entries

def readText (files : FileSystem) (path : Path) : Except FileError String := do
  match String.fromUTF8? (← files.read path) with
  | some text => return text
  | none => throw .notText

def write (files : FileSystem) (path : Path) (content : ByteArray) :
    Except FileError FileSystem := do
  match ← files.find path true with
  | .present location (.file before attributes) => do
      require .write (.file before attributes)
      return files.put location (.file content attributes)
  | .present _ (.device .null) => return files
  | .present _ (.device .full) => if content.isEmpty then return files else throw .noSpace
  | .present .. => throw .isADirectory
  | .absent location slash => do
      if slash then throw .isADirectory
      files.requireChange location.dropLast
      return files.put location (files.newFile content)

def writeText (files : FileSystem) (path : Path) (text : String) : Except FileError FileSystem :=
  files.write path text.toUTF8

/-- What the last part of a path stands for: a name in a directory, be there an object of that
name or not, or a directory that is there without being named. -/
inductive Place where
  | named (directory : Location) (name : String) (slash : Bool)
  | unnamed (location : Location)

/-- The place of a path. -/
def place (files : FileSystem) (path : Path) : Except FileError Place := do
  -- A link of the last name is not followed, whether a slash is behind it or not.
  checkPath path
  let pieces := (path.pieces.reverse.dropWhile (· = "")).reverse
  match pieces.getLast? with
  | none => return .unnamed []
  | some last =>
      match ← files.followFrom path true pieces.dropLast with
      | .present location (.directory ..) => do
          discard (entryNamed files.root location last)
          if last = "." then return .unnamed location
          else if last = ".." then return .unnamed location.dropLast
          else return .named location last (pieces.length < path.pieces.length)
      | .present .. => throw .notADirectory
      | .absent .. => throw .notFound

/-- Makes a directory where nothing is yet. -/
def makeDirectory (files : FileSystem) (path : Path) : Except FileError FileSystem := do
  match ← files.place path with
  | .unnamed _ => throw .alreadyExists
  | .named directory name _ => do
      if (files.root.at? (directory ++ [name])).isSome then throw .alreadyExists
      files.requireChange directory
      return files.put (directory ++ [name]) files.newDirectory

/-- Makes a directory unless there is one, and before that the directories above it. -/
def makeDirectories : Nat → FileSystem → Path → FileSystem × Option FileError
  -- Those stay also if a later one cannot be made. The bound is on their number.
  | bound, files, path =>
      if path.text.isEmpty then (files, none)
      else
        match files.makeDirectory path with
        | .ok made => (made, none)
        | .error .notFound =>
            match bound, path.parent? with
            | bound + 1, some parent =>
                match makeDirectories bound files parent with
                | (below, some cause) => (below, some cause)
                | (below, none) =>
                    match below.makeDirectory path with
                    | .ok made => (made, none)
                    | .error cause => (below, if below.isDirectoryAt path then none else some cause)
            | _, _ => (files, some .notFound)
        | .error cause => (files, if files.isDirectoryAt path then none else some cause)

def createAll (files : FileSystem) (path : Path) : FileSystem × Option FileError :=
  makeDirectories path.text.length files path

end FileSystem

end CallAtlas
