import CallAtlas.FileTree.Changes
import CallAtlas.FileTree.Identity
import Mathlib.Data.List.Basic

/-!
What a change to a file tree leaves alone. `SameBut` says that an object is where
it was, of the same kind and with the same attributes, and that it holds what it
held unless it is one of those that were changed. Putting a file in the place of
another or of nothing is such a change, and so is renewing a file under all of
its names.
-/

namespace CallAtlas.FileTree

section Locations

variable {tree object value : FileTree} {location rest : Location} {name : String}

theorem at?_append (tree : FileTree) (location rest : Location) :
    tree.at? (location ++ rest) = (tree.at? location).bind (·.at? rest) := by
  induction location generalizing tree with
  | nil => rfl
  | cons name location ih =>
      rw [List.cons_append, at?, at?, Option.bind_assoc]
      exact congrArg (Option.bind _) (funext fun below => ih below)

theorem at?_singleton (tree : FileTree) (name : String) :
    tree.at? [name] = tree.entries.lookup name := by
  rw [at?]
  exact Option.bind_fun_some _

theorem at?_cons_eq_some_iff : tree.at? (name :: rest) = some object ↔
    ∃ below, tree.entries.lookup name = some below ∧ below.at? rest = some object := by
  rw [at?, Option.bind_eq_some_iff]

-- Only a directory has something below it.
theorem isDirectory_of_at? (found : tree.at? (name :: rest) = some object) :
    tree.isDirectory = true := by
  obtain ⟨below, listed, -⟩ := at?_cons_eq_some_iff.mp found
  cases tree with
  | directory entries attributes => rfl
  | file content attributes => cases listed
  | device kind => cases listed
  | link target => cases listed

theorem hasDirectory_iff : tree.hasDirectory location = true ↔
    ∃ directory, tree.at? location = some directory ∧ directory.isDirectory = true := by
  rw [hasDirectory]
  cases tree.at? location <;> simp

theorem hasDirectory_of_at? (found : tree.at? (location ++ name :: rest) = some object) :
    tree.hasDirectory location = true := by
  rw [at?_append, Option.bind_eq_some_iff] at found
  obtain ⟨directory, here, below⟩ := found
  exact hasDirectory_iff.mpr ⟨directory, here, isDirectory_of_at? below⟩

theorem at?_of_not_directory (plain : tree.isDirectory = false)
    (found : tree.at? location = some object) : location = [] ∧ object = tree := by
  cases location with
  | nil => exact ⟨rfl, (Option.some.inj found).symm⟩
  | cons name rest =>
      rw [isDirectory_of_at? found] at plain
      cases plain

theorem lookup_setEntry (name other : String) (value : FileTree)
    (entries : List (String × FileTree)) : (setEntry name value entries).lookup other =
      if other = name then some value else entries.lookup other := by
  induction entries with
  | nil =>
      by_cases same : other = name
      · simp [setEntry, same]
      · simp [setEntry, same, List.lookup_cons, beq_eq_false_iff_ne.mpr same]
  | cons first rest ih =>
      obtain ⟨key, held⟩ := first
      rw [setEntry]
      split
      · next here =>
          obtain rfl : key = name := here
          by_cases same : other = key
          · simp [same]
          · simp [same, List.lookup_cons, beq_eq_false_iff_ne.mpr same]
      · next different =>
          rw [List.lookup_cons, ih, List.lookup_cons]
          by_cases same : other = key
          · subst same
            simp [show other ≠ name from different]
          · simp [beq_eq_false_iff_ne.mpr same]

theorem at?_put_self (tree : FileTree) (location : Location) (value : FileTree) :
    (tree.put location value).at? location = some value := by
  induction location generalizing tree with
  | nil => rfl
  | cons name rest ih =>
      rw [put, at?]
      simp only [entries, lookup_setEntry, if_true, Option.bind_some]
      exact ih _

theorem at?_put_cons (tree : FileTree) (name other : String) (rest location : Location)
    (value : FileTree) : (tree.put (name :: rest) value).at? (other :: location) =
      if other = name then (((tree.entries.lookup name).getD empty).put rest value).at? location
      else tree.at? (other :: location) := by
  rw [put, at?, at?]
  simp only [entries, lookup_setEntry]
  split <;> rfl

end Locations

/-- An object without what it holds: its kind, and who may do what with it. -/
def head : FileTree → FileTree
  | file _ attributes => file .empty attributes
  | directory _ attributes => directory [] attributes
  | other => other

section Heads

variable {object other : FileTree} (same : other.head = object.head)

include same

theorem attributes_of_head : other.attributes = object.attributes := by
  cases object <;> cases other <;> simp_all [head, attributes]

theorem identity?_of_head : other.identity? = object.identity? := by
  rw [identity?, identity?, attributes_of_head same]

theorem grants_of_head (right : Right) : other.grants right = object.grants right := by
  rw [grants, grants, attributes_of_head same]

theorem isDirectory_of_head : other.isDirectory = object.isDirectory := by
  cases object <;> cases other <;> simp_all [head, isDirectory]

theorem isRegularFile_of_head : other.isRegularFile = object.isRegularFile := by
  cases object <;> cases other <;> simp_all [head, isRegularFile]

end Heads

/-- A tree that differs from an older one at some locations only: what was there is of the same kind
and has the same attributes, and what is not a directory and not at one of these locations is as it
was. -/
structure SameBut (changed : Location → Prop) (old new : FileTree) : Prop where
  kept : ∀ location object, old.at? location = some object →
    ∃ other, new.at? location = some other ∧ other.head = object.head ∧
      (object.isDirectory = false → ¬ changed location → other = object)
  fresh : ∀ location, old.at? location = none → ¬ changed location → new.at? location = none

/-- What is new in a tree is a file of its own. -/
def OnlyFilesNew (old new : FileTree) : Prop :=
  ∀ location object, old.at? location = none → new.at? location = some object →
    object.isRegularFile = true ∧ object.identity? = none

namespace SameBut

variable {changed changed' : Location → Prop} {old middle new : FileTree}

theorem refl (changed : Location → Prop) (tree : FileTree) : SameBut changed tree tree :=
  ⟨fun _ object found => ⟨object, found, rfl, fun _ _ => rfl⟩, fun _ absent _ => absent⟩

theorem mono (same : SameBut changed old new)
    (more : ∀ location, changed location → changed' location) : SameBut changed' old new := by
  constructor
  · intro location object found
    obtain ⟨other, found', alike, untouched⟩ := same.kept location object found
    exact ⟨other, found', alike, fun plain free => untouched plain fun there => free (more _ there)⟩
  · intro location absent free
    exact same.fresh location absent fun there => free (more _ there)

theorem trans (first : SameBut changed old middle) (second : SameBut changed middle new) :
    SameBut changed old new := by
  constructor
  · intro location object found
    obtain ⟨between, found', alike, untouched⟩ := first.kept location object found
    obtain ⟨other, found'', alike', untouched'⟩ := second.kept location between found'
    refine ⟨other, found'', alike'.trans alike, fun plain free => ?_⟩
    have plain' : between.isDirectory = false := by rw [isDirectory_of_head alike, plain]
    rw [untouched' plain' free, untouched plain free]
  · intro location absent free
    exact second.fresh location (first.fresh location absent free) free

end SameBut

section Putting

variable {tree value : FileTree}

inductive Fits (tree : FileTree) (location : Location) (value : FileTree) : Prop where
  | replacing {object : FileTree} (found : tree.at? location = some object)
      (alike : value.head = object.head) (plain : value.isDirectory = false)
  | adding {directory : FileTree} {front : Location} {name : String}
      (split : location = front ++ [name]) (found : tree.at? front = some directory)
      (isDirectory : directory.isDirectory = true) (absent : tree.at? location = none)
      (bare : value.entries = [])

theorem at?_of_bare {location : Location} (bare : value.entries = []) (below : location ≠ []) :
    value.at? location = none := by
  cases location with
  | nil => exact absurd rfl below
  | cons name rest =>
      rw [at?, bare]
      rfl

theorem entries_of_not_directory (plain : value.isDirectory = false) : value.entries = [] := by
  cases value <;> simp_all [isDirectory, entries]

theorem Fits.isDirectory {name : String} {rest : Location} (fits : Fits tree (name :: rest) value) :
    tree.isDirectory = true := by
  cases fits with
  | replacing found alike plain => exact isDirectory_of_at? found
  | @adding directory front last split found isDirectory absent bare =>
      cases front with
      | nil =>
          obtain rfl := Option.some.inj found
          exact isDirectory
      | cons first front =>
          obtain ⟨rfl, -⟩ := List.cons.inj split
          exact isDirectory_of_at? found

theorem Fits.below {name : String} {rest : Location} (fits : Fits tree (name :: rest) value)
    {entry : FileTree} (listed : tree.entries.lookup name = some entry) : Fits entry rest value := by
  have down : ∀ location, tree.at? (name :: location) = entry.at? location := by
    intro location
    rw [at?, listed, Option.bind_some]
  cases fits with
  | replacing found alike plain => exact .replacing (down rest ▸ found) alike plain
  | @adding directory front last split found isDirectory absent bare =>
      cases front with
      | nil =>
          obtain ⟨rfl, rfl⟩ := List.cons.inj split
          rw [at?_singleton, listed] at absent
          cases absent
      | cons first front =>
          obtain ⟨rfl, rfl⟩ := List.cons.inj split
          exact .adding rfl (down front ▸ found) isDirectory (down _ ▸ absent) bare

theorem Fits.last {name : String} {rest : Location} (fits : Fits tree (name :: rest) value)
    (unlisted : tree.entries.lookup name = none) : rest = [] ∧ value.entries = [] := by
  have down : ∀ location, tree.at? (name :: location) = none := by
    intro location
    rw [at?, unlisted]
    rfl
  cases fits with
  | replacing found alike plain =>
      rw [down] at found
      cases found
  | @adding directory front last split found isDirectory absent bare =>
      cases front with
      | nil => exact ⟨(List.cons.inj split).2, bare⟩
      | cons first front =>
          obtain ⟨rfl, -⟩ := List.cons.inj split
          rw [down] at found
          cases found

theorem put_sameBut {location : Location} (fits : Fits tree location value) :
    SameBut (· = location) tree (tree.put location value) := by
  -- The induction is on the location: below its first name the object fits what is there, and the
  -- other entries are not touched.
  induction location generalizing tree with
  | nil =>
      cases fits with
      | adding split found isDirectory absent bare => simp at split
      | replacing found alike plain =>
          obtain rfl := Option.some.inj found
          have flat : tree.isDirectory = false := by rw [← isDirectory_of_head alike, plain]
          constructor
          · intro location object there
            obtain ⟨rfl, rfl⟩ := at?_of_not_directory flat there
            exact ⟨value, rfl, alike, fun _ free => absurd rfl free⟩
          · intro location absent free
            exact at?_of_bare (entries_of_not_directory plain) free
  | cons name rest ih =>
      constructor
      · intro location object there
        cases location with
        | nil =>
            obtain rfl := Option.some.inj there
            refine ⟨_, rfl, ?_, fun plain => ?_⟩
            · have isDirectory := fits.isDirectory
              cases tree <;> simp_all [FileTree.isDirectory, put, head, attributes]
            · rw [fits.isDirectory] at plain
              cases plain
        | cons other location =>
            rw [at?_put_cons]
            split
            · next here =>
                subst here
                obtain ⟨entry, listed, there⟩ := at?_cons_eq_some_iff.mp there
                obtain ⟨after, found, alike, untouched⟩ :=
                  (ih (fits.below listed)).kept location object there
                rw [listed, Option.getD_some]
                exact ⟨after, found, alike, fun plain free =>
                  untouched plain fun same => free (by rw [same])⟩
            · exact ⟨object, there, rfl, fun _ _ => rfl⟩
      · intro location absent free
        cases location with
        | nil => cases absent
        | cons other location =>
            rw [at?_put_cons]
            split
            · next here =>
                subst here
                cases listed : tree.entries.lookup other with
                | none =>
                    obtain ⟨rfl, bare⟩ := fits.last listed
                    exact at?_of_bare bare fun same => free (by rw [same])
                | some entry =>
                    rw [at?, listed, Option.bind_some] at absent
                    exact (ih (fits.below listed)).fresh location absent fun same =>
                      free (by rw [same])
            · exact absent

end Putting

section Renewing

variable {tree value : FileTree} {identity : Nat}

theorem lookup_renewIn (identity : Nat) (value : FileTree) (entries : List (String × FileTree))
    (name : String) : (renewIn identity value entries).lookup name =
      (entries.lookup name).map (renew · identity value) := by
  induction entries with
  | nil => rfl
  | cons first rest ih =>
      obtain ⟨key, held⟩ := first
      rw [renewIn, List.lookup_cons, List.lookup_cons, ih]
      cases name == key <;> rfl

/-- A file like all objects with an identity. -/
def Stands (tree : FileTree) (identity : Nat) (value : FileTree) : Prop :=
  ∀ location object, tree.at? location = some object → object.identity? = some identity →
    value.head = object.head

theorem at?_renew (plain : value.isDirectory = false) (stands : Stands tree identity value)
    (location : Location) :
    (tree.renew identity value).at? location = (tree.at? location).map (renew · identity value) := by
  induction location generalizing tree with
  | nil => rfl
  | cons name rest ih =>
      by_cases here : tree.identity? = some identity
      · have flat : tree.isDirectory = false := by
          rw [← isDirectory_of_head (stands [] tree rfl here), plain]
        rw [renew.eq_def, if_pos here, at?_of_bare (entries_of_not_directory plain) (by simp),
          at?_of_bare (entries_of_not_directory flat) (by simp), Option.map_none]
      · cases tree with
        | directory entries attributes =>
            have below : ∀ entry, entries.lookup name = some entry →
                Stands entry identity value := by
              intro entry listed location object found
              refine stands (name :: location) object ?_
              simp only [at?, FileTree.entries, listed, Option.bind_some, found]
            rw [renew, if_neg here]
            simp only [at?, FileTree.entries, lookup_renewIn]
            cases listed : entries.lookup name with
            | none => rfl
            | some entry => exact ih (below entry listed)
        | file content attributes =>
            rw [renew.eq_def, if_neg here]
            rfl
        | device kind =>
            rw [renew.eq_def, if_neg here]
            rfl
        | link target =>
            rw [renew.eq_def, if_neg here]
            rfl

theorem head_renew {object : FileTree} (different : object.identity? ≠ some identity) :
    (object.renew identity value).head = object.head ∧
      (object.isDirectory = false → object.renew identity value = object) := by
  rw [renew.eq_def, if_neg different]
  cases object <;> simp [head, isDirectory]

theorem renew_sameBut (plain : value.isDirectory = false) (stands : Stands tree identity value) :
    SameBut (fun location => (tree.at? location).bind identity? = some identity) tree
      (tree.renew identity value) := by
  constructor
  · intro location object found
    rw [at?_renew plain stands, found]
    refine ⟨object.renew identity value, rfl, ?_⟩
    by_cases here : object.identity? = some identity
    · rw [renew.eq_def, if_pos here]
      exact ⟨stands location object found here, fun _ free => absurd here free⟩
    · exact ⟨(head_renew here).1, fun flat _ => (head_renew here).2 flat⟩
  · intro location absent _
    rw [at?_renew plain stands, absent]
    rfl

end Renewing

end CallAtlas.FileTree
