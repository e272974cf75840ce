/-!
Finite sets of names, kept as strictly increasing lists. Names are ordered by
their characters, which is the order of their UTF-8 bytes. A set has one
representation only, so equal sets are equal values and listing one needs no
further sorting.
-/

namespace CallAtlas

/-- A set of names; its members are listed in increasing order. -/
structure NameSet where
  toList : List String
  sorted : toList.Pairwise (· < ·)
  deriving DecidableEq

namespace NameSet

def place (name : String) : List String → List String
  | [] => [name]
  | first :: rest =>
      if name < first then name :: first :: rest
      else if name = first then first :: rest
      else first :: place name rest

@[simp] theorem mem_place {name other : String} {names : List String} :
    other ∈ place name names ↔ other = name ∨ other ∈ names := by
  induction names with
  | nil => simp [place]
  | cons first rest ih =>
      simp only [place]
      split
      · simp
      · split
        · next same => simp [same]
        · simp [ih]
          exact or_left_comm

theorem before_of_not_before {name first : String} (notLess : ¬ name < first)
    (different : ¬ name = first) : first < name := by
  rcases Decidable.em (first < name) with less | notMore
  · exact less
  · exact absurd (String.le_antisymm (String.not_lt.mp notMore) (String.not_lt.mp notLess)) different

theorem sorted_place (name : String) {names : List String} (sorted : names.Pairwise (· < ·)) :
    (place name names).Pairwise (· < ·) := by
  induction names with
  | nil => simp [place]
  | cons first rest ih =>
      have ⟨ahead, tail⟩ := List.pairwise_cons.mp sorted
      simp only [place]
      split
      · next less =>
          refine List.pairwise_cons.mpr ⟨?_, sorted⟩
          intro other member
          rcases List.mem_cons.mp member with rfl | later
          · exact less
          · exact String.lt_trans less (ahead other later)
      · next notLess =>
          split
          · exact sorted
          · next different =>
              refine List.pairwise_cons.mpr ⟨?_, ih tail⟩
              intro other member
              rcases mem_place.mp member with rfl | later
              · exact before_of_not_before notLess different
              · exact ahead other later

def empty : NameSet := ⟨[], .nil⟩

instance : EmptyCollection NameSet := ⟨empty⟩

instance : Inhabited NameSet := ⟨empty⟩

def insert (set : NameSet) (name : String) : NameSet :=
  ⟨place name set.toList, sorted_place name set.sorted⟩

def insertAll (set : NameSet) (names : List String) : NameSet :=
  names.foldl insert set

def ofList (names : List String) : NameSet :=
  insertAll empty names

def contains (set : NameSet) (name : String) : Bool :=
  set.toList.contains name

def size (set : NameSet) : Nat :=
  set.toList.length

def isEmpty (set : NameSet) : Bool :=
  set.toList.isEmpty

def filter (set : NameSet) (keep : String → Bool) : NameSet :=
  ⟨set.toList.filter keep, set.sorted.filter keep⟩

def without (set : NameSet) (names : List String) : NameSet :=
  set.filter (fun name => !names.contains name)

instance : Membership String NameSet := ⟨fun set name => name ∈ set.toList⟩

theorem mem_def {set : NameSet} {name : String} : name ∈ set ↔ name ∈ set.toList := Iff.rfl

instance (name : String) (set : NameSet) : Decidable (name ∈ set) :=
  inferInstanceAs (Decidable (name ∈ set.toList))

@[simp] theorem not_mem_empty (name : String) : ¬ name ∈ (∅ : NameSet) := List.not_mem_nil

@[simp] theorem contains_iff {set : NameSet} {name : String} :
    set.contains name = true ↔ name ∈ set := by
  simp [contains, mem_def]

@[simp] theorem mem_insert {set : NameSet} {name other : String} :
    other ∈ set.insert name ↔ other = name ∨ other ∈ set := by
  simp [mem_def, insert]

@[simp] theorem mem_insertAll {set : NameSet} {names : List String} {other : String} :
    other ∈ set.insertAll names ↔ other ∈ names ∨ other ∈ set := by
  induction names generalizing set with
  | nil => simp [insertAll]
  | cons first rest ih =>
      have step : set.insertAll (first :: rest) = (set.insert first).insertAll rest := rfl
      rw [step, ih]
      simp only [mem_insert, List.mem_cons]
      constructor
      · rintro (a | a | a) <;> simp [a]
      · rintro ((a | a) | a) <;> simp [a]

@[simp] theorem mem_ofList {names : List String} {name : String} :
    name ∈ ofList names ↔ name ∈ names := by
  simp only [ofList, mem_insertAll]
  exact ⟨fun | .inl found => found | .inr absent => absurd absent List.not_mem_nil, .inl⟩

@[simp] theorem mem_filter {set : NameSet} {keep : String → Bool} {name : String} :
    name ∈ set.filter keep ↔ name ∈ set ∧ keep name = true := by
  simp [mem_def, filter]

@[simp] theorem mem_without {set : NameSet} {names : List String} {name : String} :
    name ∈ set.without names ↔ name ∈ set ∧ name ∉ names := by
  simp [without]

theorem eq_of_sorted {first second : List String} (up : first.Pairwise (· < ·))
    (up' : second.Pairwise (· < ·)) (same : ∀ name, name ∈ first ↔ name ∈ second) :
    first = second := by
  induction first generalizing second with
  | nil =>
      cases second with
      | nil => rfl
      | cons name rest => exact absurd ((same name).mpr (by simp)) (by simp)
  | cons head rest ih =>
      cases second with
      | nil => exact absurd ((same head).mp (by simp)) (by simp)
      | cons head' rest' =>
          have ⟨ahead, tail⟩ := List.pairwise_cons.mp up
          have ⟨ahead', tail'⟩ := List.pairwise_cons.mp up'
          have heads : head = head' := by
            rcases List.mem_cons.mp ((same head).mp (by simp)) with eq | later
            · exact eq
            · rcases List.mem_cons.mp ((same head').mpr (by simp)) with eq | later'
              · exact eq.symm
              · exact absurd (ahead head' later') (String.lt_asymm (ahead' head later))
          subst heads
          congr 1
          refine ih tail tail' fun name => ?_
          constructor
          · intro member
            rcases List.mem_cons.mp ((same name).mp (List.mem_cons_of_mem _ member)) with rfl | found
            · exact absurd (ahead _ member) (String.lt_irrefl _)
            · exact found
          · intro member
            rcases List.mem_cons.mp ((same name).mpr (List.mem_cons_of_mem _ member)) with rfl | found
            · exact absurd (ahead' _ member) (String.lt_irrefl _)
            · exact found

@[ext] theorem ext {first second : NameSet} (same : ∀ name, name ∈ first ↔ name ∈ second) :
    first = second := by
  have lists := eq_of_sorted first.sorted second.sorted same
  cases first
  cases second
  simpa using lists

end NameSet

end CallAtlas
