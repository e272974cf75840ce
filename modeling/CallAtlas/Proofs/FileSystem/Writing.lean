import CallAtlas.Proofs.FileSystem.Resolution

/-!
What writing a file does to the others. A file that is written changes under all
of its names and nothing else does; a path that leads to another file shows the
same file afterwards, and none leads to another place than before.
-/

namespace CallAtlas.FileSystem

open FileTree (Location SameBut OnlyFilesNew)

def OneFile (root : FileTree) (first second : Location) : Prop :=
  first = second ∨ ∃ identity, (root.at? first).bind (·.identity?) = some identity ∧
    (root.at? second).bind (·.identity?) = some identity

/-- The names of a file show the same kind of object with the same attributes. -/
def Sound (root : FileTree) : Prop :=
  ∀ first second object other identity, root.at? first = some object →
    root.at? second = some other → object.isRegularFile = true →
    object.identity? = some identity → other.identity? = some identity → object.head = other.head

/-- An object that was written: a file holds what was written, and a device nothing. -/
def Took (content : ByteArray) : FileTree → Prop
  | .file held _ => held = content
  | .device _ => True
  | _ => False

theorem Took.not_directory {content : ByteArray} {object : FileTree} (took : Took content object) :
    object.isDirectory = false := by
  cases object with
  | directory entries attributes => cases took
  | file held attributes => rfl
  | device kind => rfl
  | link target => rfl

section Changes

variable {changed : Location → Prop} {old new : FileTree}

theorem onlyFilesNew_of_sameBut (same : SameBut changed old new)
    (files : ∀ location object, changed location → old.at? location = none →
      new.at? location = some object → object.isRegularFile = true ∧ object.identity? = none) :
    OnlyFilesNew old new := by
  intro location object absent found
  refine files location object ?_ absent found
  by_contra free
  rw [same.fresh location absent free] at found
  cases found

theorem identity?_of_sameBut (same : SameBut changed old new) (only : OnlyFilesNew old new)
    {location : Location} {identity : Nat}
    (numbered : (new.at? location).bind (·.identity?) = some identity) :
    (old.at? location).bind (·.identity?) = some identity := by
  obtain ⟨object, found, number⟩ := Option.bind_eq_some_iff.mp numbered
  cases before : old.at? location with
  | none =>
      rw [(only location object before found).2] at number
      cases number
  | some earlier =>
      obtain ⟨other, found', alike, -⟩ := same.kept location earlier before
      obtain rfl : other = object := Option.some.inj (found'.symm.trans found)
      rw [Option.bind_some, ← FileTree.identity?_of_head alike, number]

theorem oneFile_of_sameBut (same : SameBut changed old new) (only : OnlyFilesNew old new)
    {first second : Location} (one : OneFile new first second) : OneFile old first second := by
  obtain rfl | ⟨identity, left, right⟩ := one
  · exact .inl rfl
  · exact .inr ⟨identity, identity?_of_sameBut same only left, identity?_of_sameBut same only right⟩

theorem sound_of_sameBut (same : SameBut changed old new) (only : OnlyFilesNew old new)
    (sound : Sound old) : Sound new := by
  -- Both objects were there before, since they have a number.
  have earlier : ∀ location object identity, new.at? location = some object →
      object.identity? = some identity →
      ∃ before, old.at? location = some before ∧ before.identity? = some identity ∧
        object.head = before.head := by
    intro location object identity found number
    have numbered : (old.at? location).bind (·.identity?) = some identity :=
      identity?_of_sameBut same only (by rw [found, Option.bind_some, number])
    obtain ⟨before, there, number'⟩ := Option.bind_eq_some_iff.mp numbered
    obtain ⟨other, found', alike, -⟩ := same.kept location before there
    obtain rfl : other = object := Option.some.inj (found'.symm.trans found)
    exact ⟨before, there, number', alike⟩
  intro first second object other identity found found' regular number number'
  obtain ⟨before, there, numbered, alike⟩ := earlier first object identity found number
  obtain ⟨before', there', numbered', alike'⟩ := earlier second other identity found' number'
  rw [FileTree.isRegularFile_of_head alike] at regular
  exact alike.trans ((sound first second before before' identity there there' regular numbered
    numbered').trans alike'.symm)

end Changes

section Putting

variable {files : FileSystem} {location : Location} {content before : ByteArray}
  {attributes : Attributes}

theorem workingDirectory_put (files : FileSystem) (location : Location) (object : FileTree) :
    (files.put location object).workingDirectory = files.workingDirectory := by
  unfold put
  split <;> rfl

theorem root_put_numbered {identity : Nat} (numbered : attributes.identity = some identity) :
    (files.put location (.file content attributes)).root =
      (files.root.put location (.file content attributes)).renew identity
        (.file content attributes) := by
  obtain ⟨mode, isOwned, number⟩ := attributes
  obtain rfl : number = some identity := numbered
  rfl

theorem root_put_plain {object : FileTree} (plain : object.identity? = none) :
    (files.put location object).root = files.root.put location object := by
  unfold put
  split
  · cases plain
  · rfl

section Replacing

variable (found : files.root.at? location = some (.file before attributes))

include found

theorem placed_replacing :
    SameBut (· = location) files.root (files.root.put location (.file content attributes)) ∧
      OnlyFilesNew files.root (files.root.put location (.file content attributes)) := by
  have placed : SameBut (· = location) files.root
      (files.root.put location (.file content attributes)) :=
    FileTree.put_sameBut (.replacing found rfl rfl)
  refine ⟨placed, onlyFilesNew_of_sameBut placed fun place object here absent => ?_⟩
  rw [here, found] at absent
  cases absent

variable (sound : Sound files.root)

include sound

theorem stands_replacing {identity : Nat} (numbered : attributes.identity = some identity) :
    FileTree.Stands (files.root.put location (.file content attributes)) identity
      (.file content attributes) := by
  obtain ⟨placed, only⟩ := placed_replacing found
  intro place object there number
  exact sound_of_sameBut placed only sound location place _ object identity
    (FileTree.at?_put_self _ _ _) there rfl numbered number

theorem changed_replacing : Changed (OneFile files.root location) files
    (files.put location (.file content attributes)) := by
  refine ⟨?_, workingDirectory_put _ _ _⟩
  obtain ⟨placed, only⟩ := placed_replacing found
  have placed' : SameBut (OneFile files.root location) files.root
      (files.root.put location (.file content attributes)) :=
    placed.mono fun place here => .inl here.symm
  -- A file with a number is put in its place first and then renewed under its other names.
  cases numbered : attributes.identity with
  | none =>
      rw [root_put_plain (show FileTree.identity? (.file content attributes) = none from numbered)]
      exact placed'
  | some identity =>
      rw [root_put_numbered numbered]
      refine placed'.trans ((FileTree.renew_sameBut rfl
        (stands_replacing found sound numbered)).mono fun place number => .inr ⟨identity, ?_, ?_⟩)
      · rw [found]
        exact numbered
      · exact identity?_of_sameBut placed only number

theorem onlyFilesNew_replacing :
    OnlyFilesNew files.root (files.put location (.file content attributes)).root := by
  refine onlyFilesNew_of_sameBut (changed_replacing found sound).same
    fun place object one absent _ => ?_
  obtain rfl | ⟨identity, -, number⟩ := one
  · rw [found] at absent
    cases absent
  · rw [absent] at number
    cases number

theorem at?_replacing : (files.put location (.file content attributes)).root.at? location =
    some (.file content attributes) := by
  cases numbered : attributes.identity with
  | none =>
      rw [root_put_plain (show FileTree.identity? (.file content attributes) = none from numbered)]
      exact FileTree.at?_put_self _ _ _
  | some identity =>
      rw [root_put_numbered numbered,
        FileTree.at?_renew rfl (stands_replacing found sound numbered), FileTree.at?_put_self,
        Option.map_some, FileTree.renew.eq_def,
        if_pos (show FileTree.identity? (.file content attributes) = some identity from numbered)]

end Replacing

theorem changed_adding {object : FileTree} (free : Free files.root location)
    (bare : object.entries = []) (plain : object.identity? = none) :
    Changed (· = location) files (files.put location object) := by
  obtain ⟨absent, front, name, split, inside⟩ := free
  obtain ⟨directory, found, isDirectory⟩ := FileTree.hasDirectory_iff.mp inside
  refine ⟨?_, workingDirectory_put _ _ _⟩
  rw [root_put_plain plain]
  exact FileTree.put_sameBut (.adding split found isDirectory absent bare)

end Putting

section Writing

variable {files new : FileSystem} {path : Path} {content : ByteArray}

/-- What a successful write did: the path leads to a location whose file was changed, and it leads
there to what was written. -/
structure Written (files : FileSystem) (path : Path) (content : ByteArray) (new : FileSystem)
    (location : Location) : Prop where
  leads : Leads files path location
  changed : Changed (OneFile files.root location) files new
  only : OnlyFilesNew files.root new.root
  took : ∃ object, new.find path true = .ok (.present location object) ∧ Took content object

theorem written_of_device {location : Location} {kind : Device}
    (found : files.find path true = .ok (.present location (.device kind))) :
    Written files path content files location where
  leads := ⟨_, found, rfl⟩
  changed := .refl _ files
  only := onlyFilesNew_refl _
  took := ⟨_, found, trivial⟩

theorem written_of_file {location : Location} {before : ByteArray} {attributes : Attributes}
    (standing : Standing files) (sound : Sound files.root)
    (found : files.find path true = .ok (.present location (.file before attributes))) :
    Written files path content (files.put location (.file content attributes)) location := by
  have there := at?_of_find found
  have change : Changed (OneFile files.root location) files
      (files.put location (.file content attributes)) := changed_replacing there sound
  refine ⟨⟨_, found, rfl⟩, change, onlyFilesNew_replacing there sound, ?_⟩
  obtain ⟨other, after, found'⟩ := find_of_changed change standing found
  rw [at?_replacing there sound] at after
  obtain rfl := Option.some.inj after
  exact ⟨_, found', rfl⟩

theorem written_of_absent {location : Location} (standing : Standing files)
    (found : files.find path true = .ok (.absent location false)) :
    Written files path content (files.put location (files.newFile content)) location := by
  have free := free_of_find standing found
  have change : Changed (· = location) files (files.put location (files.newFile content)) :=
    changed_adding free rfl rfl
  have after : (files.put location (files.newFile content)).root.at? location =
      some (files.newFile content) := by
    rw [root_put_plain rfl]
    exact FileTree.at?_put_self _ _ _
  have only : OnlyFilesNew files.root (files.put location (files.newFile content)).root := by
    refine onlyFilesNew_of_sameBut change.same fun place object here _ there => ?_
    rw [here, after] at there
    obtain rfl := Option.some.inj there
    exact ⟨rfl, rfl⟩
  refine ⟨⟨_, found, rfl⟩, ⟨change.same.mono fun place here => .inl here.symm, change.2⟩, only, ?_⟩
  -- The path led to nothing, and the new file is all that it can lead to now.
  have tracks := find_tracks change standing path true
  rw [found] at tracks
  generalize there : (files.put location (files.newFile content)).find path true = result at tracks
  cases tracks with
  | absent _ _ gone =>
      rw [gone] at after
      cases after
  | filled _ _ now =>
      rw [after] at now
      obtain rfl := Option.some.inj now
      exact ⟨_, rfl, rfl⟩
  | opened more _ _ => exact absurd only more

theorem written_of_write (standing : Standing files) (sound : Sound files.root)
    (done : files.write path content = .ok new) :
    ∃ location, Written files path content new location := by
  obtain ⟨target, found, done⟩ := exists_of_bind done
  cases target with
  | present location object =>
      refine ⟨location, ?_⟩
      cases object with
      | file before attributes =>
          obtain ⟨-, -, done⟩ := exists_of_bind done
          obtain rfl := Except.ok.inj done
          exact written_of_file standing sound found
      | device kind =>
          obtain rfl : files = new := by
            cases kind with
            | null => exact Except.ok.inj done
            | full =>
                by_cases idle : content.isEmpty = true
                · rw [if_pos idle] at done
                  exact Except.ok.inj done
                · rw [if_neg idle] at done
                  cases done
          exact written_of_device found
      | link target => cases done
      | directory entries attributes => cases done
  | absent location slash =>
      cases slash with
      | true => cases done
      | false =>
          obtain ⟨-, -, done⟩ := exists_of_bind done
          obtain rfl := Except.ok.inj done
          exact ⟨location, written_of_absent standing found⟩

end Writing

section Looking

def unnumbered (object : FileTree) : FileTree :=
  object.withAttributes { object.attributes with identity := none }

def look (files : FileSystem) (path : Path) : Option FileTree :=
  (files.stat path).toOption.map unnumbered

/-- Two paths that lead to different files, if they lead anywhere. -/
def Separate (files : FileSystem) (first second : Path) : Prop :=
  ∀ location location', Leads files first location → Leads files second location' →
    ¬ OneFile files.root location location'

variable {changed : Location → Prop} {files new : FileSystem} {path other : Path}

theorem stat_eq_ok_iff {object : FileTree} :
    files.stat path = .ok object ↔
      ∃ location, files.find path true = .ok (.present location object) := by
  rw [stat]
  cases files.find path true with
  | error cause => simp [bind, Except.bind]
  | ok found =>
      cases found with
      | present location held => simp [bind, Except.bind, pure, Except.pure]
      | absent location slash => simp [bind, Except.bind, throw, throwThe, MonadExceptOf.throw]

theorem look_eq_some_iff {object : FileTree} :
    files.look path = some object ↔ ∃ location held,
      files.find path true = .ok (.present location held) ∧ unnumbered held = object := by
  rw [look]
  cases shown : files.stat path with
  | error cause =>
      refine ⟨fun seen => (nomatch seen), ?_⟩
      rintro ⟨location, held, found, -⟩
      rw [stat_eq_ok_iff.mpr ⟨location, found⟩] at shown
      cases shown
  | ok held =>
      obtain ⟨location, found⟩ := stat_eq_ok_iff.mp shown
      constructor
      · intro seen
        exact ⟨location, held, found, Option.some.inj seen⟩
      · rintro ⟨location', held', found', rfl⟩
        obtain ⟨-, rfl⟩ := Found.present.inj (Except.ok.inj (found.symm.trans found'))
        rfl

theorem isDirectory_unnumbered (object : FileTree) :
    (unnumbered object).isDirectory = object.isDirectory := by
  cases object <;> rfl

theorem look_of_changed {object : FileTree} (change : Changed changed files new)
    (standing : Standing files) (plain : object.isDirectory = false)
    (free : ∀ location, Leads files path location → files.root.at? location ≠ none →
      ¬ changed location)
    (seen : files.look path = some object) : new.look path = some object := by
  obtain ⟨location, held, found, rfl⟩ := look_eq_some_iff.mp seen
  rw [isDirectory_unnumbered] at plain
  have before := at?_of_find found
  obtain ⟨after, there, found'⟩ := find_of_changed change standing found
  obtain ⟨same, there', -, untouched⟩ := change.same.kept location held before
  obtain rfl : same = after := Option.some.inj (there'.symm.trans there)
  have free' := free location ⟨_, found, rfl⟩ (by simp [before])
  rw [untouched plain free'] at found'
  exact look_eq_some_iff.mpr ⟨location, held, found', rfl⟩

theorem attributes_unnumbered (object : FileTree) :
    (unnumbered object).attributes = { object.attributes with identity := none } := by
  cases object <;> rfl

theorem grants_of_unnumbered {held held' : FileTree} (right : Right)
    (same : unnumbered held' = unnumbered held) :
    held'.grants right = held.grants right := by
  have modes := congrArg FileTree.attributes same
  rw [attributes_unnumbered, attributes_unnumbered] at modes
  obtain ⟨mode, owner, -⟩ := Attributes.mk.inj modes
  rw [FileTree.grants, FileTree.grants, Attributes.grants, Attributes.grants, Attributes.digit,
    Attributes.digit, mode, owner]

theorem read_of_look {object : FileTree} (seen : files.look path = some object)
    (seen' : new.look path = some object) : new.read path = files.read path := by
  obtain ⟨location, held, found, rfl⟩ := look_eq_some_iff.mp seen
  obtain ⟨location', held', found', same⟩ := look_eq_some_iff.mp seen'
  have shown : files.stat path = .ok held := stat_eq_ok_iff.mpr ⟨location, found⟩
  have shown' : new.stat path = .ok held' := stat_eq_ok_iff.mpr ⟨location', found'⟩
  have granted : require .read held' = require .read held := by
    rw [require, require, grants_of_unnumbered .read same]
  rw [read, read, shown, shown']
  change (require .read held' >>= fun _ => _) = (require .read held >>= fun _ => _)
  rw [granted]
  cases held <;> cases held' <;> simp_all [unnumbered, FileTree.withAttributes]

theorem look_of_read {content : ByteArray} (got : files.read path = .ok content) :
    ∃ object, object.isDirectory = false ∧ files.look path = some object := by
  obtain ⟨object, shown, got⟩ := exists_of_bind got
  obtain ⟨-, -, got⟩ := exists_of_bind got
  obtain ⟨location, found⟩ := stat_eq_ok_iff.mp shown
  refine ⟨unnumbered object, ?_, look_eq_some_iff.mpr ⟨location, object, found, rfl⟩⟩
  rw [isDirectory_unnumbered]
  cases object with
  | directory entries attributes => cases got
  | file held attributes => rfl
  | device kind => rfl
  | link target => rfl

theorem Separate.of_changed (change : Changed changed files new) (standing : Standing files)
    (only : OnlyFilesNew files.root new.root) (separate : Separate files path other) :
    Separate new path other := by
  intro location location' leads leads' one
  exact separate location location' (leads_of_changed change standing only leads)
    (leads_of_changed change standing only leads') (oneFile_of_sameBut change.same only one)

end Looking

end CallAtlas.FileSystem
