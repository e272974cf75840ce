import CallAtlas.FileTree.Attributes

/-!
File trees: files, devices, symbolic links and the directories that hold them. A
tree is a value; a change gives a new one.
-/

namespace CallAtlas

inductive Device where
  | null
  | full
  deriving DecidableEq, Repr

/-- A file system object. Files with the same identity are one file under several names. -/
inductive FileTree where
  | file (content : ByteArray) (attributes : Attributes)
  | device (kind : Device)
  | link (target : String)
  | directory (entries : List (String × FileTree)) (attributes : Attributes)

namespace FileTree

def plainFile (content : ByteArray) : FileTree := file content { mode := 0o644 }

def plainDirectory (entries : List (String × FileTree)) : FileTree :=
  directory entries { mode := 0o755 }

def empty : FileTree := plainDirectory []

instance : Inhabited FileTree := ⟨empty⟩

def entries : FileTree → List (String × FileTree)
  | directory entries _ => entries
  | _ => []

def attributes : FileTree → Attributes
  | file _ attributes => attributes
  | device _ => { mode := 0o666, isOwned := false }
  | link _ => { mode := 0o777 }
  | directory _ attributes => attributes

def identity? (tree : FileTree) : Option Nat := tree.attributes.identity

def grants (tree : FileTree) (right : Right) : Bool := tree.attributes.grants right

def isDirectory : FileTree → Bool
  | directory .. => true
  | _ => false

def isRegularFile : FileTree → Bool
  | file .. => true
  | _ => false

def isLink : FileTree → Bool
  | link _ => true
  | _ => false

def isProgram (tree : FileTree) : Bool := tree.isRegularFile && tree.grants .execute

def withAttributes (attributes : Attributes) : FileTree → FileTree
  | file content _ => file content attributes
  | directory entries _ => directory entries attributes
  | other => other

/-- A way down from the root, by the names of the entries. -/
abbrev Location := List String

def at? (tree : FileTree) : Location → Option FileTree
  | [] => some tree
  | name :: rest => (tree.entries.lookup name).bind (at? · rest)

def setEntry (name : String) (value : FileTree) : List (String × FileTree) → List (String × FileTree)
  | [] => [(name, value)]
  | first :: rest =>
      if first.1 = name then (name, value) :: rest else first :: setEntry name value rest

/-- Puts an object at a location; directories missing on the way are made. -/
def put : FileTree → Location → FileTree → FileTree
  | _, [], value => value
  | tree, name :: rest, value =>
      let below := (tree.entries.lookup name).getD empty
      directory (setEntry name (put below rest value) tree.entries) tree.attributes

def removeEntry (tree : FileTree) (location : Location) (name : String) : FileTree :=
  match tree.at? location with
  | some (directory entries attributes) =>
      tree.put location (directory (entries.filter (·.1 ≠ name)) attributes)
  | _ => tree

end FileTree

end CallAtlas
