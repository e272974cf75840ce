import CallAtlas.Name.Set

/-!
Finite maps from names, kept as association lists with strictly increasing keys.
As with sets of names, a map has one representation only.
-/

namespace CallAtlas

/-- A map from names; its entries are listed in increasing order of their names. -/
structure NameMap (α : Type) where
  toList : List (String × α)
  sorted : toList.Pairwise (fun first second => first.1 < second.1)

namespace NameMap

variable {α β : Type}

instance [DecidableEq α] : DecidableEq (NameMap α) := fun first second =>
  if same : first.toList = second.toList then
    isTrue (by cases first; cases second; simpa using same)
  else
    isFalse (fun eq => same (congrArg toList eq))

def place (name : String) (value : α) : List (String × α) → List (String × α)
  | [] => [(name, value)]
  | first :: rest =>
      if name < first.1 then (name, value) :: first :: rest
      else if name = first.1 then (name, value) :: rest
      else first :: place name value rest

theorem key_of_mem_place {name : String} {value : α} {entries : List (String × α)}
    {entry : String × α} (member : entry ∈ place name value entries) :
    entry.1 = name ∨ entry ∈ entries := by
  induction entries with
  | nil =>
      simp only [place, List.mem_singleton] at member
      exact .inl (by rw [member])
  | cons first rest ih =>
      simp only [place] at member
      split at member
      · rcases List.mem_cons.mp member with rfl | later
        · exact .inl rfl
        · exact .inr later
      · split at member
        · rcases List.mem_cons.mp member with rfl | later
          · exact .inl rfl
          · exact .inr (List.mem_cons_of_mem _ later)
        · rcases List.mem_cons.mp member with rfl | later
          · exact .inr (by simp)
          · exact (ih later).imp_right (List.mem_cons_of_mem _)

theorem sorted_place (name : String) (value : α) {entries : List (String × α)}
    (sorted : entries.Pairwise (fun first second => first.1 < second.1)) :
    (place name value entries).Pairwise (fun first second => first.1 < second.1) := by
  induction entries with
  | nil => simp [place]
  | cons first rest ih =>
      have ⟨ahead, tail⟩ := List.pairwise_cons.mp sorted
      simp only [place]
      split
      · next less =>
          refine List.pairwise_cons.mpr ⟨?_, sorted⟩
          intro entry member
          rcases List.mem_cons.mp member with rfl | later
          · exact less
          · exact String.lt_trans less (ahead entry later)
      · next notLess =>
          split
          · next same =>
              refine List.pairwise_cons.mpr ⟨?_, tail⟩
              intro entry member
              exact same ▸ ahead entry member
          · next different =>
              refine List.pairwise_cons.mpr ⟨?_, ih tail⟩
              intro entry member
              rcases key_of_mem_place member with same | later
              · exact same ▸ NameSet.before_of_not_before notLess different
              · exact ahead entry later

def empty : NameMap α := ⟨[], .nil⟩

instance : EmptyCollection (NameMap α) := ⟨empty⟩

instance : Inhabited (NameMap α) := ⟨empty⟩

def insert (map : NameMap α) (name : String) (value : α) : NameMap α :=
  ⟨place name value map.toList, sorted_place name value map.sorted⟩

def ofList (entries : List (String × α)) : NameMap α :=
  entries.foldl (fun map entry => map.insert entry.1 entry.2) empty

def get? (map : NameMap α) (name : String) : Option α :=
  map.toList.lookup name

def contains (map : NameMap α) (name : String) : Bool :=
  (map.get? name).isSome

def size (map : NameMap α) : Nat :=
  map.toList.length

def isEmpty (map : NameMap α) : Bool :=
  map.toList.isEmpty

def names (map : NameMap α) : List String :=
  map.toList.map (·.1)

def values (map : NameMap α) : List α :=
  map.toList.map (·.2)

theorem sorted_names (map : NameMap α) : map.names.Pairwise (· < ·) :=
  List.pairwise_map.mpr map.sorted

def nameSet (map : NameMap α) : NameSet :=
  ⟨map.names, map.sorted_names⟩

theorem lookup_place (name other : String) (value : α) {entries : List (String × α)}
    (sorted : entries.Pairwise (fun first second => first.1 < second.1)) :
    (place name value entries).lookup other =
      if other = name then some value else entries.lookup other := by
  induction entries with
  | nil =>
      by_cases same : other = name
      · simp [place, same]
      · simp [place, same, List.lookup_cons, beq_eq_false_iff_ne.mpr same]
  | cons first rest ih =>
      obtain ⟨key, held⟩ := first
      have ⟨_, tail⟩ := List.pairwise_cons.mp sorted
      simp only [place]
      split
      · by_cases same : other = name
        · simp [same]
        · simp [same, List.lookup_cons, beq_eq_false_iff_ne.mpr same]
      · split
        · next here =>
            by_cases same : other = name
            · simp [same]
            · simp [same, List.lookup_cons, beq_eq_false_iff_ne.mpr same, ← here]
        · next different =>
            rw [List.lookup_cons, ih tail, List.lookup_cons]
            by_cases same : other = key
            · simp [same, Ne.symm different]
            · simp [beq_eq_false_iff_ne.mpr same]

@[simp] theorem get?_empty (name : String) : (∅ : NameMap α).get? name = none := rfl

@[simp] theorem get?_insert (map : NameMap α) (name other : String) (value : α) :
    (map.insert name value).get? other = if other = name then some value else map.get? other :=
  lookup_place name other value map.sorted

theorem mem_toList_iff {map : NameMap α} {name : String} {value : α} :
    (name, value) ∈ map.toList ↔ map.get? name = some value := by
  obtain ⟨entries, sorted⟩ := map
  simp only [get?]
  induction entries with
  | nil => simp
  | cons first rest ih =>
      obtain ⟨key, held⟩ := first
      have ⟨ahead, tail⟩ := List.pairwise_cons.mp sorted
      rw [List.lookup_cons, List.mem_cons, Prod.mk.injEq]
      by_cases same : name = key
      · subst same
        simp only [beq_self_eq_true, true_and, Option.some.injEq]
        constructor
        · rintro (rfl | later)
          · rfl
          · exact absurd (ahead _ later) (String.lt_irrefl _)
        · rintro rfl
          exact .inl rfl
      · simp [beq_eq_false_iff_ne.mpr same, same, ih tail]

@[simp] theorem mem_names {map : NameMap α} {name : String} :
    name ∈ map.names ↔ map.contains name = true := by
  simp only [names, List.mem_map, contains, Option.isSome_iff_exists]
  constructor
  · rintro ⟨⟨_, value⟩, member, rfl⟩
    exact ⟨value, mem_toList_iff.mp member⟩
  · rintro ⟨value, found⟩
    exact ⟨(name, value), mem_toList_iff.mpr found, rfl⟩

@[simp] theorem mem_nameSet {map : NameMap α} {name : String} :
    name ∈ map.nameSet ↔ map.contains name = true :=
  mem_names

@[simp] theorem contains_insert (map : NameMap α) (name other : String) (value : α) :
    (map.insert name value).contains other = (decide (other = name) || map.contains other) := by
  by_cases same : other = name <;> simp [contains, same]

theorem eq_of_sorted {first second : List (String × α)}
    (up : first.Pairwise (fun x y => x.1 < y.1)) (up' : second.Pairwise (fun x y => x.1 < y.1))
    (same : ∀ entry, entry ∈ first ↔ entry ∈ second) : first = second := by
  induction first generalizing second with
  | nil =>
      cases second with
      | nil => rfl
      | cons entry rest => exact absurd ((same entry).mpr (by simp)) (by simp)
  | cons head rest ih =>
      cases second with
      | nil => exact absurd ((same head).mp (by simp)) (by simp)
      | cons head' rest' =>
          have ⟨ahead, tail⟩ := List.pairwise_cons.mp up
          have ⟨ahead', tail'⟩ := List.pairwise_cons.mp up'
          have heads : head = head' := by
            rcases List.mem_cons.mp ((same head).mp (by simp)) with eq | later
            · exact eq
            · rcases List.mem_cons.mp ((same head').mpr (by simp)) with eq | later'
              · exact eq.symm
              · exact absurd (ahead head' later') (String.lt_asymm (ahead' head later))
          subst heads
          congr 1
          refine ih tail tail' fun entry => ?_
          constructor
          · intro member
            rcases List.mem_cons.mp ((same entry).mp (List.mem_cons_of_mem _ member)) with rfl | found
            · exact absurd (ahead _ member) (String.lt_irrefl _)
            · exact found
          · intro member
            rcases List.mem_cons.mp ((same entry).mpr (List.mem_cons_of_mem _ member)) with rfl | found
            · exact absurd (ahead' _ member) (String.lt_irrefl _)
            · exact found

@[ext] theorem ext {first second : NameMap α}
    (same : ∀ name, first.get? name = second.get? name) : first = second := by
  have lists : first.toList = second.toList :=
    eq_of_sorted first.sorted second.sorted fun ⟨name, value⟩ => by
      rw [mem_toList_iff, mem_toList_iff, same]
  cases first
  cases second
  simpa using lists

end NameMap

end CallAtlas
