import CallAtlas.Proofs.FileSystem.Writing
import Mathlib.Logic.Relation

/-!
Making directories. Whether or not the directory can be made in the end, what was
done to the files is that it and directories above it were made, one after another.
Each of these steps adds an empty directory where nothing was, so that everything
that was there is as it was and all that is new are directories.
-/

namespace CallAtlas

/-- A path, or a directory that it names on the way. -/
def Path.Below (path above : Path) : Prop :=
  Relation.ReflTransGen (fun path parent => path.parent? = some parent) path above

namespace FileSystem

open FileTree (Location)

/-- Something new at most where nothing was. -/
def Extends (files new : FileSystem) : Prop :=
  Changed (fun location => files.root.at? location = none) files new

/-- What is new in a tree are directories. -/
def OnlyDirectoriesNew (old new : FileTree) : Prop :=
  ∀ location object, old.at? location = none → new.at? location = some object →
    object.isDirectory = true

def MakesOne (path : Path) (files new : FileSystem) : Prop :=
  ∃ above, path.Below above ∧ files.makeDirectory above = .ok new

/-- Directories were made and nothing else was done. -/
structure OnlyMakes (path : Path) (files new : FileSystem) : Prop where
  steps : Relation.ReflTransGen (MakesOne path) files new
  old : Extends files new
  fresh : OnlyDirectoriesNew files.root new.root

variable {files middle new : FileSystem} {path : Path}

theorem Extends.trans (first : Extends files middle) (second : Extends middle new) :
    Extends files new := by
  refine ⟨first.same.trans (second.same.mono ?_),
    second.workingDirectory.trans first.workingDirectory⟩
  intro location absent
  by_contra there
  obtain ⟨object, found⟩ := Option.ne_none_iff_exists'.mp there
  obtain ⟨other, found', -⟩ := first.same.kept location object found
  rw [absent] at found'
  cases found'

section Steps

theorem hasDirectory_of_place {directory : Location} {name : String} {slash : Bool}
    (placed : files.place path = .ok (.named directory name slash)) :
    files.root.hasDirectory directory = true := by
  obtain ⟨-, -, placed⟩ := exists_of_bind placed
  dsimp only at placed
  split at placed
  · cases placed
  · obtain ⟨found, followed, placed⟩ := exists_of_bind placed
    split at placed
    · next location entries attributes =>
        obtain ⟨-, -, placed⟩ := exists_of_bind placed
        split at placed
        · cases placed
        split at placed
        · cases placed
        obtain ⟨rfl, -, -⟩ := Place.named.inj (Except.ok.inj placed)
        exact FileTree.hasDirectory_iff.mpr ⟨_, at?_of_followFrom followed, rfl⟩
    · cases placed
    · cases placed

theorem makeDirectory_eq_ok (made : files.makeDirectory path = .ok new) :
    ∃ location, Free files.root location ∧ new = files.put location files.newDirectory := by
  obtain ⟨place, placed, made⟩ := exists_of_bind made
  cases place with
  | unnamed location => cases made
  | named directory name slash =>
      have inside := hasDirectory_of_place placed
      cases absent : files.root.at? (directory ++ [name]) with
      | some object =>
          simp only [absent] at made
          cases made
      | none =>
          simp only [absent] at made
          obtain ⟨-, -, made⟩ := exists_of_bind made
          exact ⟨directory ++ [name], ⟨absent, directory, name, rfl, inside⟩,
            (Except.ok.inj made).symm⟩

theorem makeDirectory_frame (made : files.makeDirectory path = .ok new) :
    Extends files new ∧ OnlyDirectoriesNew files.root new.root := by
  obtain ⟨place, free, rfl⟩ := makeDirectory_eq_ok made
  have change : Changed (· = place) files (files.put place files.newDirectory) :=
    changed_adding free rfl rfl
  refine ⟨⟨change.same.mono ?_, change.workingDirectory⟩, ?_⟩
  · rintro location rfl
    exact free.1
  · intro location object absent found
    by_cases here : location = place
    · subst here
      have there : (files.put location files.newDirectory).root.at? location =
          some files.newDirectory := FileTree.at?_put_self files.root location files.newDirectory
      rw [there] at found
      obtain rfl := Option.some.inj found
      rfl
    · rw [change.same.fresh location absent here] at found
      cases found

end Steps

theorem steps_frame (steps : Relation.ReflTransGen (MakesOne path) files new) :
    Extends files new ∧ OnlyDirectoriesNew files.root new.root := by
  induction steps with
  | refl =>
      refine ⟨.refl _ files, fun location object absent found => ?_⟩
      rw [absent] at found
      cases found
  | @tail middle new _ step ih =>
      obtain ⟨old, fresh⟩ := ih
      obtain ⟨above, -, made⟩ := step
      obtain ⟨old', fresh'⟩ := makeDirectory_frame made
      refine ⟨old.trans old', fun location object absent found => ?_⟩
      cases between : middle.root.at? location with
      | none => exact fresh' location object between found
      | some held =>
          obtain ⟨other, found', alike, -⟩ := old'.same.kept location held between
          rw [found'] at found
          obtain rfl := Option.some.inj found
          rw [FileTree.isDirectory_of_head alike]
          exact fresh location held absent between

-- What is above a parent is above the path, so the steps for the parent are steps for the path.
theorem steps_of_parent {parent : Path} (up : path.parent? = some parent)
    (steps : Relation.ReflTransGen (MakesOne parent) files new) :
    Relation.ReflTransGen (MakesOne path) files new := by
  refine Relation.ReflTransGen.mono ?_ files new steps
  rintro old next ⟨above, below, made⟩
  exact ⟨above, .head up below, made⟩

theorem steps_makeDirectories (bound : Nat) (files : FileSystem) (path : Path) :
    Relation.ReflTransGen (MakesOne path) files (makeDirectories bound files path).1 := by
  fun_induction makeDirectories bound files path with
  | case1 => exact .refl
  | case2 bound files path named made done => exact .single ⟨path, .refl, done⟩
  | case3 files path named missing bound parent up below cause failed ih =>
      rw [failed] at ih
      exact steps_of_parent up ih
  | case4 files path named missing bound parent up below failed made done ih =>
      rw [failed] at ih
      exact (steps_of_parent up ih).tail ⟨path, .refl, done⟩
  | case5 files path named missing bound parent up below failed cause blocked ih =>
      rw [failed] at ih
      exact steps_of_parent up ih
  | case6 => exact .refl
  | case7 => exact .refl

theorem onlyMakes_createAll (files : FileSystem) (path : Path) :
    OnlyMakes path files (files.createAll path).1 := by
  have steps := steps_makeDirectories path.text.length files path
  obtain ⟨old, fresh⟩ := steps_frame steps
  exact ⟨steps, old, fresh⟩

end FileSystem

end CallAtlas
