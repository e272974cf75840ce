import CallAtlas.FileTree.Basic

/-!
What became of a file tree: the regular files that are new or have another content,
and the directories that are new.
-/

namespace CallAtlas

inductive FileChange where
  | wrote (location : FileTree.Location) (content : ByteArray)
  | made (location : FileTree.Location)

namespace FileTree

def holds (tree : FileTree) (location : Location) (content : ByteArray) : Bool :=
  match tree.at? location with
  | some (file held _) => held.data = content.data
  | _ => false

def hasDirectory (tree : FileTree) (location : Location) : Bool :=
  (tree.at? location).any isDirectory

mutual

def changesAt (before : FileTree) (location : Location) : FileTree → List FileChange
  | file content _ => if before.holds location content then [] else [.wrote location content]
  | device _ => []
  | link _ => []
  | directory entries _ =>
      (if before.hasDirectory location then [] else [.made location]) ++
        changesIn before location entries

def changesIn (before : FileTree) (location : Location) :
    List (String × FileTree) → List FileChange
  | [] => []
  | (name, object) :: rest =>
      changesAt before (location ++ [name]) object ++ changesIn before location rest

end

def changes (before after : FileTree) : List FileChange :=
  changesAt before [] after

end FileTree

end CallAtlas
