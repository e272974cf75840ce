import CallAtlas.Path.Basic
import Mathlib.Data.List.Basic

/-!
Names in paths. The parts of a path hold no slash, a name put behind a directory is
the last part of the path, and a file name falls into its stem and its extension at
the last dot.
-/

namespace CallAtlas.Path

section Parts

theorem split_ne_nil (text : List Char) : split text ≠ [] := by
  cases text with
  | nil => simp [split]
  | cons c rest =>
      rw [split]
      split
      · simp
      · split <;> simp

theorem split_append (front rest : List Char) :
    split (front ++ '/' :: rest) = split front ++ split rest := by
  induction front with
  | nil => rfl
  | cons c front ih =>
      rw [List.cons_append, split, split, ih]
      by_cases slash : c = '/'
      · rw [if_pos slash, if_pos slash, List.cons_append]
      · rw [if_neg slash, if_neg slash]
        cases pieces : split front with
        | nil => exact absurd pieces (split_ne_nil front)
        | cons piece more => rfl

theorem split_of_free {text : List Char} (free : '/' ∉ text) : split text = [text] := by
  induction text with
  | nil => rfl
  | cons c rest ih =>
      rw [List.mem_cons, not_or] at free
      rw [split, if_neg (Ne.symm free.1), ih free.2]

-- Text without a slash only makes the first part longer.
theorem split_free_append {front text first : List Char} {rest : List (List Char)}
    (free : '/' ∉ front) (parts : split text = first :: rest) :
    split (front ++ text) = (front ++ first) :: rest := by
  induction front with
  | nil => exact parts
  | cons c front ih =>
      rw [List.mem_cons, not_or] at free
      rw [List.cons_append, split, if_neg (Ne.symm free.1), ih free.2]
      rfl

theorem free_of_mem_split {text piece : List Char} (part : piece ∈ split text) : '/' ∉ piece := by
  induction text generalizing piece with
  | nil =>
      rw [split, List.mem_singleton] at part
      simp [part]
  | cons c rest ih =>
      rw [split] at part
      by_cases slash : c = '/'
      · rw [if_pos slash, List.mem_cons] at part
        obtain rfl | later := part
        · simp
        · exact ih later
      · rw [if_neg slash] at part
        cases pieces : split rest with
        | nil => exact absurd pieces (split_ne_nil rest)
        | cons first more =>
            rw [pieces] at part ih
            obtain rfl | later := List.mem_cons.mp part
            · rw [List.mem_cons, not_or]
              exact ⟨Ne.symm slash, ih List.mem_cons_self⟩
            · exact ih (List.mem_cons_of_mem _ later)

theorem pieces_ne_nil (path : Path) : path.pieces ≠ [] := by
  rw [pieces, Ne, List.map_eq_nil_iff]
  exact split_ne_nil _

theorem pieces_free_append {front text first : String} {rest : List String}
    (free : '/' ∉ front.toList) (parts : pieces ⟨text⟩ = first :: rest) :
    pieces ⟨front ++ text⟩ = (front ++ first) :: rest := by
  obtain ⟨first', rest', whole, rfl, rfl⟩ := List.map_eq_cons_iff.mp parts
  rw [pieces, String.toList_append, split_free_append free whole, List.map_cons,
    String.ofList_append, String.ofList_toList]

end Parts

section FileNames

variable {path : Path} {name : String}

structure IsName (name : String) : Prop where
  free : '/' ∉ name.toList
  not_empty : name ≠ ""
  not_here : name ≠ "."
  not_up : name ≠ ".."

instance (name : String) : Decidable (IsName name) :=
  decidable_of_iff ('/' ∉ name.toList ∧ name ≠ "" ∧ name ≠ "." ∧ name ≠ "..")
    ⟨fun ⟨free, filled, other, down⟩ => ⟨free, filled, other, down⟩,
      fun isName => ⟨isName.free, isName.not_empty, isName.not_here, isName.not_up⟩⟩

theorem step?_of_isName {name : String} (isName : IsName name) : step? name = some (.name name) := by
  simp [step?, isIdle, isName.not_empty, isName.not_here, isName.not_up]

theorem step?_eq_none_iff {piece : String} : step? piece = none ↔ isIdle piece = true := by
  rw [step?]
  split
  · next idle => simp [idle]
  · next busy => split <;> simp [busy]

theorem step?_eq_up_iff {piece : String} : step? piece = some .up ↔ piece = ".." := by
  constructor
  · intro up
    rw [step?] at up
    split at up
    · cases up
    · split at up
      · next same => exact same
      · cases up
  · rintro rfl
    rfl

theorem isName_of_step? {piece : String} (part : piece ∈ path.pieces)
    (step : step? piece = some (.name name)) : IsName name := by
  obtain ⟨text, within, rfl⟩ := List.mem_map.mp part
  rw [step?, isIdle] at step
  split at step
  · cases step
  · next busy =>
      split at step
      · cases step
      · next here =>
          obtain rfl := Component.name.inj (Option.some.inj step)
          simp only [Bool.or_eq_true, decide_eq_true_eq, not_or] at busy
          refine ⟨?_, busy.1, busy.2, here⟩
          rw [String.toList_ofList]
          exact free_of_mem_split within

theorem isName_of_fileName? (named : path.fileName? = some name) : IsName name := by
  rw [fileName?] at named
  cases last : path.components.getLast? with
  | none => simp [last] at named
  | some component =>
      rw [last] at named
      cases component with
      | root => cases named
      | here => cases named
      | up => cases named
      | name text =>
          obtain rfl := Option.some.inj named
          have member := List.mem_of_getLast? last
          rw [components] at member
          split at member
          · simp only [List.mem_cons, reduceCtorEq, false_or, List.mem_filterMap] at member
            obtain ⟨piece, part, step⟩ := member
            exact isName_of_step? part step
          · split at member
            · simp only [List.mem_cons, reduceCtorEq, false_or, List.mem_filterMap] at member
              obtain ⟨piece, part, step⟩ := member
              exact isName_of_step? (List.mem_of_mem_tail part) step
            · obtain ⟨piece, part, step⟩ := List.mem_filterMap.mp member
              exact isName_of_step? part step

theorem split_at_last_dot (text : List Char) :
    (text.reverse.dropWhile (· ≠ '.')).reverse ++ (text.reverse.takeWhile (· ≠ '.')).reverse = text := by
  rw [← List.reverse_append, List.takeWhile_append_dropWhile, List.reverse_reverse]

theorem dot_not_mem_behind (text : List Char) : '.' ∉ text.takeWhile (· ≠ '.') := by
  intro member
  have differs := List.all_eq_true.mp List.all_takeWhile _ member
  simp at differs

theorem eq_dot_of_dropWhile {text rest : List Char} {c : Char}
    (found : text.dropWhile (· ≠ '.') = c :: rest) : c = '.' := by
  have stops := List.head_dropWhile_not (fun c => decide (c ≠ '.')) (l := text) (by rw [found]; simp)
  simp only [found, List.head_cons, decide_eq_false_iff_not, not_not] at stops
  exact stops

theorem splitName?_eq_none (whole : splitName? name = none) {before behind : List Char}
    (dotted : name.toList = before ++ '.' :: behind) : before = [] := by
  have parts := split_at_last_dot name.toList
  have free := dot_not_mem_behind name.toList.reverse
  rw [splitName?] at whole
  split at whole
  · next none =>
      -- The name has no dot at all.
      rw [none, List.reverse_nil, List.nil_append] at parts
      refine absurd ?_ free
      rw [← List.mem_reverse, parts, dotted]
      simp
  · next c one =>
      rw [one, eq_dot_of_dropWhile one, List.reverse_singleton, List.singleton_append] at parts
      cases before with
      | nil => rfl
      | cons first before =>
          obtain ⟨-, tails⟩ := List.cons.inj (parts.trans dotted)
          refine absurd ?_ free
          rw [← List.mem_reverse, tails]
          simp
  · cases whole

theorem splitName?_eq_some {before behind : String}
    (parts : splitName? name = some (before, behind)) :
    name.toList = before.toList ++ '.' :: behind.toList ∧ before ≠ "" ∧ '.' ∉ behind.toList := by
  have whole := split_at_last_dot name.toList
  have free := dot_not_mem_behind name.toList.reverse
  rw [splitName?] at parts
  split at parts
  · cases parts
  · cases parts
  · next c front several found =>
      obtain ⟨rfl, rfl⟩ := Prod.mk.inj (Option.some.inj parts)
      rw [found, eq_dot_of_dropWhile found, List.reverse_cons, List.append_assoc,
        List.singleton_append] at whole
      rw [String.toList_ofList, String.toList_ofList]
      refine ⟨whole.symm, ?_, by simpa using free⟩
      rw [Ne, ← String.toList_inj, String.toList_ofList]
      cases front with
      | nil => exact (several rfl).elim
      | cons last front => simp

theorem extension?_free {extension : String} (found : path.extension? = some extension) :
    '.' ∉ extension.toList ∧ '/' ∉ extension.toList := by
  obtain ⟨⟨stem, behind⟩, parts, rfl⟩ := Option.map_eq_some_iff.mp found
  obtain ⟨name, named, parts⟩ := Option.bind_eq_some_iff.mp parts
  obtain ⟨whole, -, free⟩ := splitName?_eq_some parts
  refine ⟨free, fun slash => (isName_of_fileName? named).free ?_⟩
  rw [whole]
  simp [slash]

theorem stem?_free {stem : String} (found : path.stem? = some stem) :
    stem ≠ "" ∧ '/' ∉ stem.toList := by
  obtain ⟨name, named, rfl⟩ := Option.map_eq_some_iff.mp found
  have isName := isName_of_fileName? named
  cases parts : splitName? name with
  | none => exact ⟨isName.not_empty, isName.free⟩
  | some pair =>
      obtain ⟨whole, filled, -⟩ := @splitName?_eq_some name pair.1 pair.2 parts
      refine ⟨filled, fun slash => isName.free ?_⟩
      rw [whole]
      exact List.mem_append_left _ slash

theorem stem?_of_extension?_none {stem : String} (found : path.stem? = some stem)
    (plain : path.extension? = none) {before behind : List Char}
    (dotted : stem.toList = before ++ '.' :: behind) : before = [] := by
  obtain ⟨name, named, rfl⟩ := Option.map_eq_some_iff.mp found
  rw [extension?, named, Option.bind_some, Option.map_eq_none_iff] at plain
  rw [plain] at dotted
  exact splitName?_eq_none plain dotted

end FileNames

section Joining

variable {name other below : String}

theorem isAbsolute_of_isName (isName : IsName name) : isAbsolute ⟨name⟩ = false := by
  rw [isAbsolute, decide_eq_false_iff_not]
  intro slash
  exact isName.free (List.mem_of_head? slash)

theorem join_injective (directory : Path) (isName : IsName name) (isName' : IsName other)
    (same : directory.join name = directory.join other) : name = other := by
  rw [join, join, isAbsolute_of_isName isName, isAbsolute_of_isName isName'] at same
  simp only [Bool.false_eq_true, if_false] at same
  split at same <;>
    simpa [String.toList_inj.symm] using congrArg (fun path => path.text.toList) same

theorem isAbsolute_join (directory : Path) (relative : isAbsolute ⟨below⟩ = false) :
    (directory.join below).isAbsolute = directory.isAbsolute := by
  rw [join, relative]
  simp only [Bool.false_eq_true, if_false]
  cases spelled : directory.text.toList with
  | nil =>
      rw [isAbsolute] at relative
      simp [isAbsolute, spelled, relative]
  | cons c rest => split <;> simp [isAbsolute, spelled]

/-- What is put behind a directory takes the place of the empty part that a slash leaves. -/
theorem pieces_join (directory : Path) (relative : isAbsolute ⟨below⟩ = false) :
    ∃ front idle, directory.pieces = front ++ idle ∧ (∀ piece ∈ idle, piece = "") ∧
      (directory.join below).pieces = front ++ pieces ⟨below⟩ := by
  rw [join, relative]
  simp only [Bool.false_eq_true, if_false]
  split
  · next closed =>
      -- A directory that is empty or ends with a slash has an empty last part.
      obtain none | ⟨front, c, spelled⟩ := List.eq_nil_or_concat directory.text.toList
      · refine ⟨[], [""], ?_, by simp, ?_⟩
        · simp [pieces, none, split]
        · simp [pieces, none]
      · rw [List.concat_eq_append] at spelled
        rw [spelled] at closed
        obtain rfl : c = '/' := by simpa using closed
        refine ⟨(split front).map String.ofList, [""], ?_, by simp, ?_⟩
        · rw [pieces, spelled, split_append, List.map_append]
          rfl
        · rw [pieces, String.toList_append, spelled, List.append_assoc, List.singleton_append,
            split_append, List.map_append]
          rfl
  · refine ⟨directory.pieces, [], by simp, by simp, ?_⟩
    have spelled : (directory.text ++ "/" ++ below).toList =
        directory.text.toList ++ '/' :: below.toList := by simp
    rw [pieces, spelled, split_append, List.map_append]
    rfl

theorem pieces_of_isName (isName : IsName name) : pieces ⟨name⟩ = [name] := by
  rw [pieces, split_of_free isName.free, List.map_singleton, String.ofList_toList]

theorem relative_of_busy {first : String} {rest : List String}
    (parts : pieces ⟨below⟩ = first :: rest) (busy : isIdle first = false) :
    isAbsolute ⟨below⟩ = false := by
  rw [isAbsolute, decide_eq_false_iff_not]
  intro slash
  obtain ⟨text, spelled⟩ := List.head?_eq_some_iff.mp slash
  have empty : first = "" := by
    rw [pieces, spelled, split, if_pos rfl, List.map_cons] at parts
    exact (List.cons.inj parts).1.symm
  simp [empty, isIdle] at busy

theorem steps_of_empty {idle : List String} (empty : ∀ piece ∈ idle, piece = "") :
    idle.filterMap step? = [] := by
  refine List.filterMap_eq_nil_iff.mpr fun piece member => ?_
  rw [empty piece member]
  rfl

theorem components_join (directory : Path) {first : String} {rest : List String}
    (parts : pieces ⟨below⟩ = first :: rest) (busy : isIdle first = false) :
    (directory.join below).components =
      directory.components ++ (first :: rest).filterMap step? := by
  have relative := relative_of_busy parts busy
  obtain ⟨front, idle, whole, empty, joined⟩ := pieces_join directory relative
  rw [components, components, isAbsolute_join directory relative, joined, whole, parts]
  split
  · simp [List.filterMap_append, steps_of_empty empty]
  · cases front with
    | nil =>
        -- Nothing but empty parts is before the path, so its first part is the first of all.
        have here : first ≠ "." := by
          rintro rfl
          simp [isIdle] at busy
        have there : idle.head? ≠ some "." := by
          intro dot
          simpa using empty "." (List.mem_of_head? dot)
        simp [here, there, steps_of_empty empty]
    | cons piece front =>
        have steps : (front ++ first :: rest).filterMap step? =
            (front ++ idle).filterMap step? ++ (first :: rest).filterMap step? := by
          simp [List.filterMap_append, steps_of_empty empty]
        by_cases dot : piece = "."
        · simp [dot, steps]
        · simp only [List.cons_append, List.head?_cons, Option.some.injEq, dot, if_false,
            List.filterMap_cons, steps]
          split <;> rfl

theorem components_join_name (directory : Path) (isName : IsName name) :
    (directory.join name).components = directory.components ++ [.name name] := by
  have busy : isIdle name = false := by simp [isIdle, isName.not_empty, isName.not_here]
  rw [components_join directory (pieces_of_isName isName) busy, List.filterMap_cons,
    step?_of_isName isName, List.filterMap_nil]

end Joining

section Descending

/-- The path to which names lead from a directory, each of them behind the one before. -/
def descend (directory : Path) (names : List String) : Path :=
  names.foldl join directory

theorem components_descend (directory : Path) {names : List String}
    (areNames : ∀ name ∈ names, IsName name) :
    (directory.descend names).components = directory.components ++ names.map .name := by
  induction names generalizing directory with
  | nil => simp [descend]
  | cons name rest ih =>
      rw [List.forall_mem_cons] at areNames
      have next : directory.descend (name :: rest) = (directory.join name).descend rest := rfl
      rw [next, ih _ areNames.2, components_join_name directory areNames.1]
      simp

end Descending

end CallAtlas.Path
