import CallAtlas.FileSystem.Basic
import CallAtlas.Proofs.FileTree.Frame
import CallAtlas.Proofs.Path.Names
import CallAtlas.Proofs.Runs

/-!
Where paths lead before and after a change of the files. If a change leaves all
objects in their places and adds files at most, a path that led somewhere leads to
the same location, and a path that did not lead anywhere still does not. A name
behind a directory leads to the entry of that name, unless it is a link.
-/

namespace CallAtlas

namespace FileSystem

open FileTree (Location SameBut OnlyFilesNew)

section Entries

variable {root object : FileTree} {directory : Location}

theorem entryNamed_eq (found : root.at? directory = some object) (name : String) :
    entryNamed root directory name =
      if object.grants .execute then
        if maxNameLength < name.utf8ByteSize then .error .nameTooLong
        else .ok (root.at? (directory ++ [name]))
      else .error .permissionDenied := by
  have below : root.at? (directory ++ [name]) = object.entries.lookup name := by
    rw [FileTree.at?_append, found, Option.bind_some, FileTree.at?_singleton]
  rw [entryNamed, found, below]
  by_cases allowed : object.grants .execute = true <;>
    by_cases long : maxNameLength < name.utf8ByteSize <;>
      simp [require, allowed, long, bind, Except.bind, pure, Except.pure, throw, throwThe,
        MonadExceptOf.throw]

theorem entry_of_named {name : String} {entry : Option FileTree}
    (named : entryNamed root directory name = .ok entry) :
    entry = root.at? (directory ++ [name]) := by
  cases found : root.at? directory with
  | none =>
      rw [entryNamed, found] at named
      cases named
  | some object =>
      rw [entryNamed_eq found] at named
      split at named
      · split at named
        · cases named
        · exact (Except.ok.inj named).symm
      · cases named

def arrive (followLast : Bool) (location : Location) (rest : List String)
    (enter : String → Except FileError Found) (onward : Except FileError Found) :
    Option FileTree → Except FileError Found
  | none =>
      if rest.all (· = "") then .ok (.absent location (!rest.isEmpty)) else .error .notFound
  | some (.link target) =>
      if rest.isEmpty && !followLast then .ok (.present location (.link target)) else enter target
  | some (.directory ..) => onward
  | some object =>
      if rest.isEmpty then .ok (.present location object) else .error .notADirectory

theorem follow_cons (followLast : Bool)
    (enter : List String → String → List String → Except FileError Found)
    (above : List String) (piece : String) (rest : List String) :
    follow root followLast enter above (piece :: rest) =
      if piece = "" then follow root followLast enter above rest
      else
        match entryNamed root above.reverse piece with
        | .error cause => .error cause
        | .ok found =>
            if piece = "." then follow root followLast enter above rest
            else if piece = ".." then follow root followLast enter above.tail rest
            else arrive followLast (above.reverse ++ [piece]) rest (enter above · rest)
              (follow root followLast enter (piece :: above) rest) found := by
  rw [follow]
  rfl

theorem at?_of_follow {followLast : Bool}
    {enter : List String → String → List String → Except FileError Found}
    (enters : ∀ above target rest location object,
      enter above target rest = .ok (.present location object) → root.at? location = some object)
    (above pieces : List String) {location : Location}
    (reached : follow root followLast enter above pieces = .ok (.present location object)) :
    root.at? location = some object := by
  induction pieces generalizing above with
  | nil =>
      rw [follow] at reached
      cases found : root.at? above.reverse with
      | none =>
          rw [found] at reached
          cases reached
      | some held =>
          rw [found] at reached
          obtain ⟨rfl, rfl⟩ := Found.present.inj (Except.ok.inj reached)
          exact found
  | cons piece rest ih =>
      rw [follow_cons] at reached
      by_cases blank : piece = ""
      · rw [if_pos blank] at reached
        exact ih above reached
      rw [if_neg blank] at reached
      cases named : entryNamed root above.reverse piece with
      | error cause =>
          rw [named] at reached
          cases reached
      | ok entry =>
          have entry_eq := entry_of_named named
          simp only [named] at reached
          by_cases dot : piece = "."
          · rw [if_pos dot] at reached
            exact ih above reached
          rw [if_neg dot] at reached
          by_cases up : piece = ".."
          · rw [if_pos up] at reached
            exact ih above.tail reached
          rw [if_neg up] at reached
          cases entry with
          | none =>
              rw [arrive] at reached
              split at reached <;> cases reached
          | some below =>
              cases below with
              | link target =>
                  dsimp only [arrive] at reached
                  split at reached
                  · obtain ⟨rfl, rfl⟩ := Found.present.inj (Except.ok.inj reached)
                    exact entry_eq.symm
                  · exact enters above target rest location object reached
              | directory entries attributes => exact ih (piece :: above) reached
              | file content attributes =>
                  dsimp only [arrive] at reached
                  split at reached
                  · obtain ⟨rfl, rfl⟩ := Found.present.inj (Except.ok.inj reached)
                    exact entry_eq.symm
                  · cases reached
              | device kind =>
                  dsimp only [arrive] at reached
                  split at reached
                  · obtain ⟨rfl, rfl⟩ := Found.present.inj (Except.ok.inj reached)
                    exact entry_eq.symm
                  · cases reached

theorem at?_of_followLinks {followLast : Bool} (links : Nat) (above : List String) (target : String)
    (rest : List String) (location : Location) (object : FileTree)
    (reached : followLinks root followLast links above target rest = .ok (.present location object)) :
    root.at? location = some object := by
  induction links generalizing above target rest location object with
  | zero => cases reached
  | succ links ih =>
      rw [followLinks] at reached
      exact at?_of_follow ih _ _ reached

end Entries

def Free (root : FileTree) (location : Location) : Prop :=
  root.at? location = none ∧
    ∃ front name, location = front ++ [name] ∧ root.hasDirectory front = true

/-- What a path leads to in an old tree and in a new one. -/
inductive Tracks (old new : FileTree) :
    Except FileError Found → Except FileError Found → Prop where
  | failed (cause cause' : FileError) : Tracks old new (.error cause) (.error cause')
  | present {location : Location} {object other : FileTree} (before : old.at? location = some object)
      (after : new.at? location = some other) :
      Tracks old new (.ok (.present location object)) (.ok (.present location other))
  | absent {location : Location} (slash : Bool) (free : Free old location)
      (after : new.at? location = none) :
      Tracks old new (.ok (.absent location slash)) (.ok (.absent location slash))
  | filled {location : Location} {other : FileTree} (slash : Bool) (free : Free old location)
      (after : new.at? location = some other) :
      Tracks old new (.ok (.absent location slash)) (.ok (.present location other))
  | blocked (location : Location) (cause : FileError) :
      Tracks old new (.ok (.absent location true)) (.error cause)
  /-- Something else than files is new, and a path that led nowhere may go on there. -/
  | opened {result : Except FileError Found} (more : ¬ OnlyFilesNew old new)
      (unsettled : ∀ location object, result ≠ .ok (.present location object))
      (other : Except FileError Found) : Tracks old new result other

theorem Tracks.of_present {old new : FileTree} {location : Location} {object : FileTree}
    {result : Except FileError Found}
    (tracks : Tracks old new (.ok (.present location object)) result) :
    old.at? location = some object ∧
      ∃ other, new.at? location = some other ∧ result = .ok (.present location other) := by
  cases tracks with
  | present before after => exact ⟨before, _, after, rfl⟩
  | opened more unsettled other => exact absurd rfl (unsettled location object)

section Directories

variable {old : FileTree}

theorem hasDirectory_tail {above : List String} (inside : old.hasDirectory above.reverse = true) :
    old.hasDirectory above.tail.reverse = true := by
  cases above with
  | nil => exact inside
  | cons name above =>
      obtain ⟨directory, found, -⟩ := FileTree.hasDirectory_iff.mp inside
      rw [List.reverse_cons] at found
      exact FileTree.hasDirectory_of_at? found

theorem hasDirectory_root {location : Location} (inside : old.hasDirectory location = true) :
    old.hasDirectory [] = true := by
  cases location with
  | nil => exact inside
  | cons name rest =>
      obtain ⟨directory, found, -⟩ := FileTree.hasDirectory_iff.mp inside
      exact FileTree.hasDirectory_of_at? found

end Directories

section Tracking

variable {changed : Location → Prop} {old new : FileTree} {followLast : Bool}

variable {location : Location} {enter enter' : String → Except FileError Found}
  {onward onward' : Except FileError Found}

theorem missing_tracks (free : Free old location) (rest : List String) :
    Tracks old new (arrive followLast location rest enter onward none)
      (arrive followLast location rest enter' onward' (new.at? location)) := by
  cases after : new.at? location with
  | none =>
      by_cases idle : rest.all (· = "") = true
      · simp only [arrive, idle, if_true]
        exact .absent _ free after
      · simp only [arrive, idle, Bool.false_eq_true, if_false]
        exact .failed _ _
  | some other =>
      by_cases only : OnlyFilesNew old new
      · cases other with
        | file content attributes =>
            cases rest with
            | nil => exact .filled _ free after
            | cons piece rest =>
                simp only [arrive, List.isEmpty_cons, Bool.false_eq_true, if_false]
                split
                · exact .blocked _ _
                · exact .failed _ _
        | device kind => cases (only location _ free.1 after).1
        | link target => cases (only location _ free.1 after).1
        | directory entries attributes => cases (only location _ free.1 after).1
      · refine .opened only (fun location object => ?_) _
        rw [arrive]
        split <;> simp

-- What was there is of the same kind, so the new tree is followed by the same branch.
theorem entry_tracks {object other : FileTree} (before : old.at? location = some object)
    (after : new.at? location = some other) (alike : other.head = object.head)
    (enters : ∀ target, Tracks old new (enter target) (enter' target))
    (goesOn : object.isDirectory = true → Tracks old new onward onward') (rest : List String) :
    Tracks old new (arrive followLast location rest enter onward (some object))
      (arrive followLast location rest enter' onward' (some other)) := by
  cases object with
  | link target =>
      obtain rfl : other = .link target := by cases other <;> simp_all [FileTree.head]
      by_cases stop : (rest.isEmpty && !followLast) = true
      · simp only [arrive, stop, if_true]
        exact .present before after
      · simp only [arrive, stop]
        exact enters target
  | directory entries attributes =>
      obtain ⟨entries', rfl⟩ : ∃ entries', other = .directory entries' attributes := by
        cases other <;> simp_all [FileTree.head]
      exact goesOn rfl
  | file content attributes =>
      obtain ⟨content', rfl⟩ : ∃ content', other = .file content' attributes := by
        cases other <;> simp_all [FileTree.head]
      cases rest with
      | nil => exact .present before after
      | cons next rest => exact .failed _ _
  | device kind =>
      obtain rfl : other = .device kind := by cases other <;> simp_all [FileTree.head]
      cases rest with
      | nil => exact .present before after
      | cons next rest => exact .failed _ _

variable (same : SameBut changed old new)

include same

theorem hasDirectory_of_sameBut {location : Location} (there : old.hasDirectory location = true) :
    new.hasDirectory location = true := by
  obtain ⟨directory, found, isDirectory⟩ := FileTree.hasDirectory_iff.mp there
  obtain ⟨other, found', alike, -⟩ := same.kept location directory found
  refine FileTree.hasDirectory_iff.mpr ⟨other, found', ?_⟩
  rw [FileTree.isDirectory_of_head alike, isDirectory]

theorem follow_tracks {enter enter' : List String → String → List String → Except FileError Found}
    (enters : ∀ above target rest, old.hasDirectory above.reverse = true →
      Tracks old new (enter above target rest) (enter' above target rest))
    (above pieces : List String) (inside : old.hasDirectory above.reverse = true) :
    Tracks old new (follow old followLast enter above pieces)
      (follow new followLast enter' above pieces) := by
  -- The induction is on the parts of the path; it goes through directories of the old tree only.
  induction pieces generalizing above with
  | nil =>
      obtain ⟨directory, found, -⟩ := FileTree.hasDirectory_iff.mp inside
      obtain ⟨directory', found', -⟩ := same.kept _ _ found
      rw [follow, follow, found, found']
      exact .present found found'
  | cons piece rest ih =>
      obtain ⟨directory, found, -⟩ := FileTree.hasDirectory_iff.mp inside
      obtain ⟨directory', found', alike, -⟩ := same.kept _ _ found
      rw [follow_cons, follow_cons, entryNamed_eq found, entryNamed_eq found',
        FileTree.grants_of_head alike]
      by_cases blank : piece = ""
      · rw [if_pos blank, if_pos blank]
        exact ih above inside
      rw [if_neg blank, if_neg blank]
      by_cases allowed : directory.grants .execute = true
      swap
      · simp only [allowed, Bool.false_eq_true, if_false]
        exact .failed _ _
      by_cases long : maxNameLength < piece.utf8ByteSize
      · simp only [allowed, long, if_true]
        exact .failed _ _
      simp only [allowed, long, if_true, if_false]
      by_cases dot : piece = "."
      · rw [if_pos dot, if_pos dot]
        exact ih above inside
      rw [if_neg dot, if_neg dot]
      by_cases up : piece = ".."
      · rw [if_pos up, if_pos up]
        exact ih above.tail (hasDirectory_tail inside)
      rw [if_neg up, if_neg up]
      cases before : old.at? (above.reverse ++ [piece]) with
      | none => exact missing_tracks ⟨before, _, _, rfl, inside⟩ rest
      | some object =>
          obtain ⟨other, after, alike', -⟩ := same.kept _ _ before
          rw [after]
          refine entry_tracks before after alike' (fun target => enters above target rest inside)
            (fun isDirectory => ih (piece :: above) ?_) rest
          rw [List.reverse_cons]
          exact FileTree.hasDirectory_iff.mpr ⟨object, before, isDirectory⟩

theorem followLinks_tracks (links : Nat) (above : List String) (target : String)
    (rest : List String) (inside : old.hasDirectory above.reverse = true) :
    Tracks old new (followLinks old followLast links above target rest)
      (followLinks new followLast links above target rest) := by
  induction links generalizing above target rest with
  | zero => exact .failed _ _
  | succ links ih =>
      rw [followLinks, followLinks]
      refine follow_tracks same (fun above target rest => ih above target rest) _ _ ?_
      split
      · exact hasDirectory_root inside
      · exact inside

end Tracking

/-- A change that leaves the working directory where it is. -/
structure Changed (changed : Location → Prop) (old new : FileSystem) : Prop where
  same : SameBut changed old.root new.root
  workingDirectory : new.workingDirectory = old.workingDirectory

def Standing (files : FileSystem) : Prop :=
  files.root.hasDirectory files.workingDirectory = true

def Found.location : Found → Location
  | present location _ => location
  | absent location _ => location

/-- A path leads through links to a location, whether something is there or not. -/
def Leads (files : FileSystem) (path : Path) (location : Location) : Prop :=
  ∃ found, files.find path true = .ok found ∧ found.location = location

section Paths

variable {changed : Location → Prop} {old new files : FileSystem} {path : Path} {location : Location}
  {object : FileTree} {followLast : Bool}

theorem Changed.refl (changed : Location → Prop) (files : FileSystem) : Changed changed files files :=
  ⟨.refl changed files.root, rfl⟩

theorem Changed.standing (change : Changed changed old new) (standing : Standing old) :
    Standing new := by
  rw [Standing, change.workingDirectory]
  exact hasDirectory_of_sameBut change.same standing

theorem followFrom_tracks (change : Changed changed old new) (standing : Standing old) (path : Path)
    (followLast : Bool) (pieces : List String) :
    Tracks old.root new.root (old.followFrom path followLast pieces)
      (new.followFrom path followLast pieces) := by
  rw [followFrom, followFrom, change.workingDirectory]
  refine follow_tracks change.same (followLinks_tracks change.same maxLinks) _ _ ?_
  split
  · exact hasDirectory_root standing
  · rw [List.reverse_reverse]
    exact standing

theorem find_tracks (change : Changed changed old new) (standing : Standing old) (path : Path)
    (followLast : Bool) :
    Tracks old.root new.root (old.find path followLast) (new.find path followLast) := by
  rw [find, find]
  cases checkPath path with
  | error cause => exact .failed _ _
  | ok => exact followFrom_tracks change standing path followLast path.pieces

theorem onlyFilesNew_refl (tree : FileTree) : OnlyFilesNew tree tree := by
  intro location object absent found
  rw [absent] at found
  cases found

theorem at?_of_followFrom {pieces : List String}
    (found : files.followFrom path followLast pieces = .ok (.present location object)) :
    files.root.at? location = some object :=
  at?_of_follow (at?_of_followLinks maxLinks) _ _ found

theorem at?_of_find (found : files.find path followLast = .ok (.present location object)) :
    files.root.at? location = some object := by
  obtain ⟨-, -, found⟩ := exists_of_bind found
  exact at?_of_followFrom found

theorem free_of_find (standing : Standing files) {slash : Bool}
    (found : files.find path followLast = .ok (.absent location slash)) :
    Free files.root location := by
  have tracks := find_tracks (.refl (fun _ => False) files) standing path followLast
  rw [found] at tracks
  cases tracks with
  | absent slash free after => exact free
  | opened more unsettled other => exact absurd (onlyFilesNew_refl _) more

theorem leads_of_changed (change : Changed changed old new) (standing : Standing old)
    (only : OnlyFilesNew old.root new.root) (leads : Leads new path location) :
    Leads old path location := by
  obtain ⟨found, there, rfl⟩ := leads
  have tracks := find_tracks change standing path true
  rw [there] at tracks
  generalize before : old.find path true = result at tracks
  cases tracks with
  | present _ _ => exact ⟨_, before, rfl⟩
  | absent slash _ _ => exact ⟨_, before, rfl⟩
  | filled slash _ _ => exact ⟨_, before, rfl⟩
  | opened more _ _ => exact absurd only more

theorem find_of_changed (change : Changed changed old new) (standing : Standing old)
    (found : old.find path true = .ok (.present location object)) :
    ∃ other, new.root.at? location = some other ∧
      new.find path true = .ok (.present location other) :=
  (found ▸ find_tracks change standing path true).of_present.2

end Paths

section Entering

/-- A path that leads to a location if it leads anywhere. -/
def LeadsOnly (location : Location) (result : Except FileError Found) : Prop :=
  ∀ found, result = .ok found → found.location = location

variable {root object : FileTree} {place : Location} {name : String} {idle : List String}
  {enter : List String → String → List String → Except FileError Found}

theorem follow_idle (blank : ∀ piece ∈ idle, piece = "") (above : List String) :
    follow root true enter above idle = follow root true enter above [] := by
  induction idle with
  | nil => rfl
  | cons piece rest ih =>
      have skipped : follow root true enter above (piece :: rest) =
          follow root true enter above rest := by
        rw [follow, if_pos (blank piece List.mem_cons_self)]
      exact skipped.trans (ih fun piece later => blank piece (List.mem_cons_of_mem _ later))

variable (isDirectory : object.isDirectory = true) (isName : Path.IsName name)
  (plain : ∀ target, root.at? (place ++ [name]) ≠ some (.link target))
  (blank : ∀ piece ∈ idle, piece = "")

include isName plain in
theorem follow_name {above : List String} (here : above.reverse = place)
    (found : root.at? place = some object) :
    LeadsOnly (place ++ [name]) (follow root true enter above [name]) := by
  intro result followed
  rw [follow_cons, if_neg isName.not_empty, here, entryNamed_eq found] at followed
  by_cases allowed : object.grants .execute = true
  swap
  · simp [allowed] at followed
  by_cases long : maxNameLength < name.utf8ByteSize
  · simp [allowed, long] at followed
  simp only [allowed, long, if_true, if_false, if_neg isName.not_here, if_neg isName.not_up]
    at followed
  cases entry : root.at? (place ++ [name]) with
  | none =>
      rw [entry] at followed
      obtain rfl := Except.ok.inj followed
      rfl
  | some below =>
      rw [entry] at followed
      cases below with
      | link target => exact absurd entry (plain target)
      | directory entries attributes =>
          simp only [arrive, follow, List.reverse_cons, here, entry] at followed
          obtain rfl := Except.ok.inj followed
          rfl
      | file content attributes =>
          obtain rfl := Except.ok.inj followed
          rfl
      | device kind =>
          obtain rfl := Except.ok.inj followed
          rfl

include isDirectory isName plain blank

theorem follow_last
    (enters : ∀ above target rest,
      enter above target (rest ++ idle) = .ok (.present place object) →
      LeadsOnly (place ++ [name]) (enter above target (rest ++ [name])))
    (above front : List String)
    (reached : follow root true enter above (front ++ idle) = .ok (.present place object)) :
    LeadsOnly (place ++ [name]) (follow root true enter above (front ++ [name])) := by
  -- The induction is on the parts that lead to the directory.
  induction front generalizing above with
  | nil =>
      rw [List.nil_append, follow_idle blank, follow] at reached
      cases found : root.at? above.reverse with
      | none =>
          rw [found] at reached
          cases reached
      | some held =>
          rw [found] at reached
          obtain ⟨here, rfl⟩ := Found.present.inj (Except.ok.inj reached)
          exact follow_name isName plain here (here ▸ found)
  | cons piece rest ih =>
      rw [List.cons_append, follow_cons] at reached
      rw [List.cons_append, follow_cons]
      by_cases empty : piece = ""
      · rw [if_pos empty] at reached ⊢
        exact ih above reached
      rw [if_neg empty] at reached ⊢
      cases named : entryNamed root above.reverse piece with
      | error cause =>
          rw [named] at reached
          cases reached
      | ok entry =>
          simp only [named] at reached ⊢
          by_cases dot : piece = "."
          · rw [if_pos dot] at reached ⊢
            exact ih above reached
          rw [if_neg dot] at reached ⊢
          by_cases up : piece = ".."
          · rw [if_pos up] at reached ⊢
            exact ih above.tail reached
          rw [if_neg up] at reached ⊢
          -- Only a directory or a link can be on the way to a directory.
          cases entry with
          | none =>
              rw [arrive] at reached
              split at reached <;> cases reached
          | some below =>
              cases below with
              | link target =>
                  simp only [arrive, Bool.not_true, Bool.and_false, Bool.false_eq_true, if_false]
                    at reached ⊢
                  exact enters above target rest reached
              | directory entries attributes => exact ih (piece :: above) reached
              | file content attributes =>
                  dsimp only [arrive] at reached
                  split at reached <;> cases reached
                  cases isDirectory
              | device kind =>
                  dsimp only [arrive] at reached
                  split at reached <;> cases reached
                  cases isDirectory

theorem followLinks_last (links : Nat) (above : List String) (target : String) (rest : List String)
    (reached : followLinks root true links above target (rest ++ idle) =
      .ok (.present place object)) :
    LeadsOnly (place ++ [name]) (followLinks root true links above target (rest ++ [name])) := by
  induction links generalizing above target rest with
  | zero => cases reached
  | succ links ih =>
      rw [followLinks, ← List.append_assoc] at reached ⊢
      exact follow_last isDirectory isName plain blank ih _ _ reached

end Entering

theorem leads_join {files : FileSystem} {directory : Path} {place location : Location}
    {object : FileTree} {name : String}
    (reached : files.followFrom directory true directory.pieces = .ok (.present place object))
    (isDirectory : object.isDirectory = true) (isName : Path.IsName name)
    (plain : ∀ target, files.root.at? (place ++ [name]) ≠ some (.link target))
    (leads : Leads files (directory.join name) location) : location = place ++ [name] := by
  obtain ⟨found, followed, rfl⟩ := leads
  have relative := Path.isAbsolute_of_isName isName
  obtain ⟨front, idle, spelled, blank, joined⟩ := Path.pieces_join directory relative
  obtain ⟨-, -, followed⟩ := exists_of_bind followed
  rw [followFrom, spelled] at reached
  rw [followFrom, joined, Path.isAbsolute_join directory relative,
    Path.pieces_of_isName isName] at followed
  exact follow_last isDirectory isName plain blank
    (followLinks_last isDirectory isName plain blank maxLinks) _ _ reached found followed

end FileSystem

end CallAtlas
