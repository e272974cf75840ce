import CallAtlas.Proofs.FileTree.Frame
import CallAtlas.Proofs.Path.Names

/-!
File trees as file systems keep them: the entries of a directory stand under
different names, and each name can be a part of a path. Such a tree is known by
what is at its locations.
-/

namespace CallAtlas.FileTree

@[elab_as_elim]
theorem induction {motive : FileTree → Prop}
    (plain : ∀ object, object.isDirectory = false → motive object)
    (directory : ∀ entries attributes, (∀ entry ∈ entries, motive entry.2) →
      motive (.directory entries attributes)) (tree : FileTree) : motive tree :=
  @FileTree.rec motive (fun entries => ∀ entry ∈ entries, motive entry.2)
    (fun entry => motive entry.2) (fun _ _ => plain _ rfl) (fun _ => plain _ rfl)
    (fun _ => plain _ rfl) directory (fun _ => False.elim ∘ List.not_mem_nil)
    (fun _ _ first rest => List.forall_mem_cons.mpr ⟨first, rest⟩) (fun _ _ object => object) tree

/-- In every directory the names of the entries are names, and no two are equal. -/
def Proper (tree : FileTree) : Prop :=
  ∀ location entries attributes, tree.at? location = some (.directory entries attributes) →
    (entries.map (·.1)).Nodup ∧ ∀ entry ∈ entries, Path.IsName entry.1

def hasFile (tree : FileTree) (location : Location) : Bool :=
  (tree.at? location).any isRegularFile

section Entries

variable {entries : List (String × FileTree)} {attributes : Attributes} {name : String}
  {tree object : FileTree} {names : Location}

theorem hasFile_iff : tree.hasFile names = true ↔
    ∃ file, tree.at? names = some file ∧ file.isRegularFile = true := by
  rw [hasFile]
  cases tree.at? names <;> simp

theorem Proper.distinct (proper : (directory entries attributes).Proper) :
    (entries.map (·.1)).Nodup :=
  (proper [] entries attributes rfl).1

theorem Proper.lookup_iff (proper : (directory entries attributes).Proper) :
    entries.lookup name = some object ↔ (name, object) ∈ entries := by
  constructor
  · intro found
    obtain ⟨before, after, rfl, -⟩ := List.lookup_eq_some_iff.mp found
    simp
  · intro listed
    obtain ⟨before, after, rfl⟩ := List.append_of_mem listed
    refine List.lookup_eq_some_iff.mpr ⟨before, after, rfl, ?_⟩
    intro entry earlier
    have distinct := proper.distinct
    rw [List.map_append, List.map_cons, List.nodup_append] at distinct
    have differ := distinct.2.2 entry.1 (List.mem_map_of_mem earlier) name List.mem_cons_self
    exact bne_iff_ne.mpr differ.symm

theorem Proper.at?_cons_iff (proper : (directory entries attributes).Proper) {found : FileTree} :
    (directory entries attributes).at? (name :: names) = some found ↔
      ∃ object, (name, object) ∈ entries ∧ object.at? names = some found := by
  simp only [at?_cons_eq_some_iff, FileTree.entries, proper.lookup_iff]

theorem Proper.of_mem (proper : (directory entries attributes).Proper)
    (listed : (name, object) ∈ entries) : object.Proper := by
  intro location below attributes' found
  have there := proper.at?_cons_iff.mpr ⟨object, listed, found⟩
  exact proper (name :: location) below attributes' there

theorem Proper.of_at? (proper : tree.Proper) (found : tree.at? names = some object) :
    object.Proper := by
  intro location entries attributes below
  refine proper (names ++ location) entries attributes ?_
  rw [at?_append, found, Option.bind_some, below]

theorem proper_plain (plain : object.isDirectory = false) : object.Proper := by
  intro location entries attributes found
  obtain ⟨-, rfl⟩ := at?_of_not_directory plain found
  cases plain

theorem proper_directory (distinct : (entries.map (·.1)).Nodup)
    (areNames : ∀ entry ∈ entries, Path.IsName entry.1) (each : ∀ entry ∈ entries, entry.2.Proper) :
    (directory entries attributes).Proper := by
  intro location below attributes' found
  cases location with
  | nil =>
      obtain ⟨rfl, rfl⟩ := FileTree.directory.inj (Option.some.inj found)
      exact ⟨distinct, areNames⟩
  | cons name rest =>
      obtain ⟨entry, listed, found⟩ := at?_cons_eq_some_iff.mp found
      obtain ⟨before, after, split, -⟩ := List.lookup_eq_some_iff.mp listed
      have member : (name, entry) ∈ entries := by
        change entries = _ at split
        simp [split]
      exact each (name, entry) member rest below attributes' found

theorem Proper.isName (proper : tree.Proper) (found : tree.at? names = some object) :
    ∀ name ∈ names, Path.IsName name := by
  induction names generalizing tree with
  | nil => simp
  | cons name rest ih =>
      cases tree with
      | directory entries attributes =>
          obtain ⟨entry, listed, below⟩ := proper.at?_cons_iff.mp found
          have isName := (proper [] entries attributes rfl).2 (name, entry) listed
          exact List.forall_mem_cons.mpr ⟨isName, ih (proper.of_mem listed) below⟩
      | file content attributes => cases found
      | device kind => cases found
      | link target => cases found

end Entries

end CallAtlas.FileTree
