import Mathlib.Logic.Basic

/-!
Runs of steps that may fail. A run succeeds if all its steps do, and then what it
gives is known by what they give; otherwise it fails as its first step that does.
-/

namespace CallAtlas

theorem exists_of_bind {ε α β : Type} {result : Except ε α} {next : α → Except ε β} {value : β}
    (done : (result >>= next) = .ok value) :
    ∃ between, result = .ok between ∧ next between = .ok value := by
  cases result with
  | error cause => cases done
  | ok between => exact ⟨between, rfl, done⟩

theorem toOption_eq_some_iff {ε α : Type} {result : Except ε α} {value : α} :
    result.toOption = some value ↔ result = .ok value := by
  cases result <;> simp [Except.toOption]

theorem mapM_eq_ok_iff {α β ε : Type} (step : α → Except ε β) (items : List α) (results : List β) :
    items.mapM step = .ok results ↔ (∀ item ∈ items, ∃ result, step item = .ok result) ∧
      results = items.filterMap fun item => (step item).toOption := by
  induction items generalizing results with
  | nil => simp [pure, Except.pure, eq_comm]
  | cons item rest ih =>
      rw [List.mapM_cons]
      cases first : step item with
      | error refused => simp [bind, Except.bind, first]
      | ok result =>
          simp only [bind, Except.bind, List.forall_mem_cons, first, List.filterMap_cons,
            Except.toOption]
          cases later : rest.mapM step with
          | error refused =>
              have none := (ih (rest.filterMap fun item => (step item).toOption)).not.mp
                (by simp [later])
              simp only [and_true] at none
              simp [none]
          | ok more =>
              obtain ⟨all, rfl⟩ := (ih more).mp later
              simp only [pure, Except.pure, Except.ok.injEq]
              constructor
              · rintro rfl
                exact ⟨⟨⟨result, rfl⟩, all⟩, rfl⟩
              · rintro ⟨-, rfl⟩
                rfl

theorem mapM_congr {α β ε : Type} {step step' : α → Except ε β} {items : List α}
    (alike : ∀ item ∈ items, step item = step' item) : items.mapM step = items.mapM step' := by
  induction items with
  | nil => rfl
  | cons item rest ih =>
      rw [List.forall_mem_cons] at alike
      rw [List.mapM_cons, List.mapM_cons, alike.1, ih alike.2]

theorem mapM_cons_eq_error_iff {α β ε : Type} {step : α → Except ε β} {first : α} {rest : List α}
    {result : β} {failure : ε} (own : step first = .ok result) :
    (first :: rest).mapM step = .error failure ↔ rest.mapM step = .error failure := by
  rw [List.mapM_cons, own]
  cases rest.mapM step <;> simp [bind, Except.bind, pure, Except.pure]

/-- A run over a list fails with the error of its first step that fails. -/
theorem mapM_eq_error_iff {α β ε : Type} {step : α → Except ε β} {items : List α} {failure : ε} :
    items.mapM step = .error failure ↔ ∃ earlier item later, items = earlier ++ item :: later ∧
      (∀ other ∈ earlier, ∃ result, step other = .ok result) ∧ step item = .error failure := by
  constructor
  · intro failed
    induction items with
    | nil => cases failed
    | cons first rest ih =>
        cases own : step first with
        | error refused =>
            rw [List.mapM_cons, own] at failed
            obtain rfl := Except.error.inj failed
            exact ⟨[], first, rest, rfl, by simp, own⟩
        | ok result =>
            obtain ⟨earlier, item, later, rfl, done, failed⟩ :=
              ih ((mapM_cons_eq_error_iff own).mp failed)
            exact ⟨first :: earlier, item, later, rfl,
              List.forall_mem_cons.mpr ⟨⟨result, own⟩, done⟩, failed⟩
  · rintro ⟨earlier, item, later, rfl, done, failed⟩
    induction earlier with
    | nil =>
        rw [List.nil_append, List.mapM_cons, failed]
        rfl
    | cons first earlier ih =>
        obtain ⟨⟨result, own⟩, done⟩ := List.forall_mem_cons.mp done
        exact (mapM_cons_eq_error_iff own).mpr (ih done)

end CallAtlas
