import CallAtlas.Proofs.FileSystem.Writing

/-!
Inputs, outputs and images among the files. As long as different outputs are
different files and none of them is an input, writing an output changes neither an
input nor another output; nor does writing an image that is neither. This is so if
outputs and images are names in one directory that are not links there and belong to
no input.
-/

namespace CallAtlas.FileSystem

open FileTree (OnlyFilesNew)

/-- Different outputs are different files, none of them is an input, and no image is an output or
an input. -/
structure OutputsSeparate (inputs outputs images : List Path) (files : FileSystem) : Prop where
  standing : files.Standing
  sound : Sound files.root
  apart : ∀ path ∈ outputs, ∀ other ∈ outputs, path ≠ other → Separate files path other
  aside : ∀ path ∈ outputs, ∀ input ∈ inputs, Separate files path input
  beside : ∀ image ∈ images, ∀ path, path ∈ inputs ∨ path ∈ outputs → Separate files image path

/-- Some paths show what they showed before, directories apart. -/
def Kept (wanted : Path → Prop) (old new : FileSystem) : Prop :=
  ∀ path object, wanted path → object.isDirectory = false → old.look path = some object →
    new.look path = some object

/-- A change of the files that does nothing to the inputs and outputs as long as the images are
neither. -/
def Spares (inputs outputs images : List Path) (change : FileSystem → FileSystem) : Prop :=
  ∀ files, OutputsSeparate inputs outputs images files →
    OutputsSeparate inputs outputs images (change files) ∧
      Kept (fun path => path ∈ inputs ∨ path ∈ outputs) files (change files)

def WritesAtMost (path : Path) (change : FileSystem → FileSystem) : Prop :=
  ∀ files, change files = files ∨ ∃ content, files.write path content = .ok (change files)

def Shows (files : FileSystem) (path : Path) (text : String) : Prop :=
  ∃ object, files.look path = some object ∧ Took text.toUTF8 object

section Files

variable {inputs outputs images : List Path} {files middle new : FileSystem} {path other : Path}

theorem Kept.refl (wanted : Path → Prop) (files : FileSystem) : Kept wanted files files :=
  fun _ _ _ _ seen => seen

theorem Kept.trans {wanted : Path → Prop} (first : Kept wanted files middle)
    (second : Kept wanted middle new) : Kept wanted files new :=
  fun path object want plain seen =>
    second path object want plain (first path object want plain seen)

theorem Kept.mono {wanted wanted' : Path → Prop} (kept : Kept wanted files new)
    (fewer : ∀ path, wanted' path → wanted path) : Kept wanted' files new :=
  fun path object want => kept path object (fewer path want)

theorem Shows.kept {wanted : Path → Prop} {text : String} (shows : Shows files path text)
    (kept : Kept wanted files new) (want : wanted path) : Shows new path text := by
  obtain ⟨object, seen, took⟩ := shows
  exact ⟨object, kept path object want took.not_directory seen, took⟩

theorem OutputsSeparate.of_changed {changed : FileTree.Location → Prop}
    (separate : OutputsSeparate inputs outputs images files) (change : Changed changed files new)
    (only : OnlyFilesNew files.root new.root) : OutputsSeparate inputs outputs images new where
  standing := change.standing separate.standing
  sound := sound_of_sameBut change.same only separate.sound
  apart path member other member' different :=
    (separate.apart path member other member' different).of_changed change separate.standing only
  aside path member input member' :=
    (separate.aside path member input member').of_changed change separate.standing only
  beside image member path other :=
    (separate.beside image member path other).of_changed change separate.standing only

theorem OutputsSeparate.kept_of_written {content : ByteArray} {location : FileTree.Location}
    {wanted : Path → Prop} (separate : OutputsSeparate inputs outputs images files)
    (written : Written files path content new location)
    (unlike : ∀ other, wanted other → Separate files path other) :
    OutputsSeparate inputs outputs images new ∧ Kept wanted files new := by
  refine ⟨separate.of_changed written.changed written.only, ?_⟩
  intro other object want plain seen
  exact look_of_changed written.changed separate.standing plain
    (fun location' leads _ => unlike other want location location' written.leads leads) seen

theorem OutputsSeparate.write {text : String}
    (separate : OutputsSeparate inputs outputs images files) (member : path ∈ outputs)
    (done : files.writeText path text = .ok new) :
    OutputsSeparate inputs outputs images new ∧
      Kept (fun other => other ∈ inputs ∨ other ∈ outputs ∧ other ≠ path) files new ∧
      Shows new path text := by
  obtain ⟨location, written⟩ := written_of_write separate.standing separate.sound done
  obtain ⟨separate', kept⟩ := separate.kept_of_written written
    (fun other (wanted : other ∈ inputs ∨ other ∈ outputs ∧ other ≠ path) =>
      wanted.elim (separate.aside path member other) fun ⟨output, different⟩ =>
        separate.apart path member other output (Ne.symm different))
  refine ⟨separate', kept, ?_⟩
  obtain ⟨object, found, took⟩ := written.took
  refine ⟨_, look_eq_some_iff.mpr ⟨location, object, found, rfl⟩, ?_⟩
  cases object <;> exact took

theorem WritesAtMost.spares {change : FileSystem → FileSystem} (writes : WritesAtMost path change)
    (member : path ∈ images) : Spares inputs outputs images change := by
  intro files separate
  obtain same | ⟨content, done⟩ := writes files
  · rw [same]
    exact ⟨separate, .refl _ files⟩
  · obtain ⟨location, written⟩ := written_of_write separate.standing separate.sound done
    exact separate.kept_of_written written (separate.beside path member)

/-- The entries that some names have or get in a directory are no links, have no other names and are
not inputs. -/
structure Unshared (inputs : List Path) (directory : Path) (names : List String)
    (files : FileSystem) : Prop where
  standing : files.Standing
  sound : Sound files.root
  entries : ∃ place object,
    files.followFrom directory true directory.pieces = .ok (.present place object) ∧
      object.isDirectory = true ∧ ∀ name ∈ names,
        (∀ target, files.root.at? (place ++ [name]) ≠ some (.link target)) ∧
          (files.root.at? (place ++ [name])).bind (·.identity?) = none ∧
          ∀ input ∈ inputs, ¬ Leads files input (place ++ [name])

section Names

variable {directory : Path} {names : List String} (unshared : Unshared inputs directory names files)
  (areNames : ∀ name ∈ names, Path.IsName name)

include unshared areNames

/-- Each path leads to the entry of its name only, which has no other names and is no input. -/
theorem Unshared.exists_place : ∃ place, ∀ name ∈ names,
    (∀ location, Leads files (directory.join name) location → location = place ++ [name]) ∧
    (∀ location, OneFile files.root (place ++ [name]) location → location = place ++ [name]) ∧
    ∀ input ∈ inputs, ¬ Leads files input (place ++ [name]) := by
  obtain ⟨place, object, reached, isDirectory, entries⟩ := unshared.entries
  refine ⟨place, fun name named => ?_⟩
  obtain ⟨noLink, unnumbered, noInput⟩ := entries name named
  refine ⟨fun location => leads_join reached isDirectory (areNames name named) noLink, ?_, noInput⟩
  rintro location (same | ⟨identity, number, -⟩)
  · exact same.symm
  · rw [unnumbered] at number
    cases number

theorem Unshared.separate_of_ne {name name' : String} (named : name ∈ names)
    (named' : name' ∈ names) (different : name ≠ name') :
    Separate files (directory.join name) (directory.join name') := by
  obtain ⟨place, only⟩ := unshared.exists_place areNames
  obtain ⟨leadsThere, alone, -⟩ := only name named
  intro location location' leads leads' one
  rw [leadsThere location leads] at one
  have same := ((only name' named').1 location' leads').symm.trans (alone location' one)
  exact different (List.cons.inj (List.append_cancel_left same)).1.symm

theorem Unshared.separate_input {name : String} (named : name ∈ names) {input : Path}
    (isInput : input ∈ inputs) : Separate files (directory.join name) input := by
  obtain ⟨place, only⟩ := unshared.exists_place areNames
  obtain ⟨leadsThere, alone, noInput⟩ := only name named
  intro location location' leads leads' one
  rw [leadsThere location leads] at one
  rw [alone location' one] at leads'
  exact noInput input isInput leads'

end Names

theorem Unshared.separate {directory : Path} {names imageNames : List String}
    (unshared : Unshared inputs directory (names ++ imageNames) files)
    (areNames : ∀ name ∈ names ++ imageNames, Path.IsName name)
    (others : ∀ name ∈ imageNames, name ∉ names) :
    OutputsSeparate inputs (names.map directory.join) (imageNames.map directory.join) files := by
  refine ⟨unshared.standing, unshared.sound, ?_, ?_, ?_⟩
  · intro path member other member' different
    obtain ⟨name, named, rfl⟩ := List.mem_map.mp member
    obtain ⟨name', named', rfl⟩ := List.mem_map.mp member'
    exact unshared.separate_of_ne areNames (List.mem_append_left _ named)
      (List.mem_append_left _ named') fun same => different (congrArg directory.join same)
  · intro path member input isInput
    obtain ⟨name, named, rfl⟩ := List.mem_map.mp member
    exact unshared.separate_input areNames (List.mem_append_left _ named) isInput
  · intro image member path member'
    obtain ⟨name, named, rfl⟩ := List.mem_map.mp member
    obtain isInput | output := member'
    · exact unshared.separate_input areNames (List.mem_append_right _ named) isInput
    · obtain ⟨name', named', rfl⟩ := List.mem_map.mp output
      exact unshared.separate_of_ne areNames (List.mem_append_right _ named)
        (List.mem_append_left _ named') fun same => others name named (same ▸ named')

end Files

end CallAtlas.FileSystem
