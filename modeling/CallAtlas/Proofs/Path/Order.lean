import CallAtlas.Path.Order
import Mathlib.Data.List.Lex
import Mathlib.Data.List.Sort
import Mathlib.Data.Prod.Lex
import Mathlib.Data.String.Basic

/-!
The order of paths is the lexicographic order of their components, each taken by
its rank and its text, and two spellings are the same path if they agree in all of
them. Sorting puts the spellings of one path next to each other, so dropping those
that follow the same path leaves each path once, in strictly increasing order.
-/

namespace CallAtlas

namespace Component

variable {first second : Component}

def key (component : Component) : Nat ×ₗ String :=
  toLex (component.rank, component.text)

theorem key_injective : Function.Injective key := by
  intro first second same
  obtain ⟨ranks, texts⟩ := Prod.mk.inj (toLex.injective same)
  cases first <;> cases second <;> simp_all [rank, text]

theorem less_iff : first.less second = true ↔ first.key < second.key := by
  simp only [less, key, Prod.Lex.toLex_lt_toLex, Bool.or_eq_true, Bool.and_eq_true,
    decide_eq_true_eq, beq_iff_eq]

end Component

namespace Path

variable {first second path : Path} {paths : List Path}

theorem componentsLE_iff {steps steps' : List Component} : componentsLE steps steps' = true ↔
    steps.map Component.key ≤ steps'.map Component.key := by
  rw [← not_lt]
  induction steps generalizing steps' with
  | nil => simp [componentsLE]
  | cons step rest ih =>
      cases steps' with
      | nil => simp [componentsLE]
      | cons step' rest' =>
          rw [componentsLE, List.map_cons, List.map_cons, List.cons_lt_cons_iff]
          by_cases same : step = step'
          · simp [same, ih]
          · have differ : step.key ≠ step'.key := fun keys => same (Component.key_injective keys)
            simp [same, differ.symm, Component.less_iff, differ.le_iff_lt]

def key (path : Path) : List (Nat ×ₗ String) :=
  path.components.map Component.key

theorem le_iff : first.le second = true ↔ first.key ≤ second.key :=
  componentsLE_iff

theorem key_eq_iff : first.key = second.key ↔ first.components = second.components :=
  (List.map_injective_iff.mpr Component.key_injective).eq_iff

theorem same_iff : first.same second = true ↔ first.key = second.key := by
  rw [same, decide_eq_true_iff, key_eq_iff]

def Before (first second : Path) : Prop :=
  first.le second = true ∧ first.same second = false

theorem before_iff : Before first second ↔ first.key < second.key := by
  rw [Before, le_iff, ← Bool.not_eq_true, same_iff, lt_iff_le_and_ne]

theorem eq_of_before {others : List Path} (up : paths.Pairwise Before)
    (up' : others.Pairwise Before) (same : ∀ path, path ∈ paths ↔ path ∈ others) :
    paths = others := by
  have irrefl : Std.Irrefl Before := ⟨fun path before => lt_irrefl _ (before_iff.mp before)⟩
  have antisymm : Std.Antisymm Before := ⟨fun first second before after =>
    absurd (before_iff.mp after) (lt_asymm (before_iff.mp before))⟩
  exact up.eq_of_mem_iff up' same

theorem forall₂_same_of_before {others : List Path} (up : paths.Pairwise Before)
    (up' : others.Pairwise Before)
    (covered : ∀ path ∈ paths, ∃ other ∈ others, other.key = path.key)
    (covered' : ∀ other ∈ others, ∃ path ∈ paths, path.key = other.key) :
    List.Forall₂ (fun first second => first.same second = true) paths others := by
  have increasing : ∀ {list : List Path}, list.Pairwise Before →
      (list.map key).Pairwise (· < ·) := by
    intro list before
    exact List.pairwise_map.mpr (before.imp before_iff.mp)
  have keys : paths.map key = others.map key := by
    apply (increasing up).eq_of_mem_iff (increasing up')
    intro shared
    simp only [List.mem_map]
    constructor
    · rintro ⟨path, member, rfl⟩
      exact covered path member
    · rintro ⟨other, member, rfl⟩
      exact covered' other member
  simp only [same_iff]
  rw [← List.forall₂_map_left_iff (R := fun shared path => shared = key path),
    ← List.forall₂_map_right_iff, List.forall₂_eq_eq_eq]
  exact keys

section Sorting

theorem sorted_sort (paths : List Path) :
    (sort paths).Pairwise fun first second => first.key ≤ second.key := by
  have transitive : ∀ first second third : Path,
      first.le second = true → second.le third = true → first.le third = true := by
    simp only [le_iff]
    intro first second third
    exact le_trans
  have total : ∀ first second : Path, (first.le second || second.le first) = true := by
    simp only [Bool.or_eq_true, le_iff]
    intro first second
    exact le_total first.key second.key
  exact (List.pairwise_mergeSort transitive total paths).imp le_iff.mp

theorem before_sort (distinct : paths.Pairwise fun first second => first.key ≠ second.key) :
    (sort paths).Pairwise Before := by
  have apart : (sort paths).Pairwise fun first second => first.key ≠ second.key :=
    (List.mergeSort_perm paths le).symm.pairwise distinct fun differ => differ.symm
  refine ((sorted_sort paths).and apart).imp ?_
  rintro first second ⟨upTo, differ⟩
  exact before_iff.mpr (lt_of_le_of_ne upTo differ)

theorem dedupFrom_increasing {last : Path}
    (sorted : (last :: paths).Pairwise fun first second => first.key ≤ second.key) :
    (last :: dedupFrom last paths).Pairwise fun first second => first.key < second.key := by
  induction paths generalizing last with
  | nil => simp [dedupFrom]
  | cons next rest ih =>
      obtain ⟨below, sorted'⟩ := List.pairwise_cons.mp sorted
      rw [dedupFrom]
      by_cases same : last.same next = true
      · rw [if_pos same]
        apply ih
        exact sorted.sublist ((List.sublist_cons_self next rest).cons_cons last)
      · rw [if_neg same]
        have increasing := ih sorted'
        have less : last.key < next.key := by
          rw [same_iff] at same
          exact lt_of_le_of_ne (below next List.mem_cons_self) same
        refine List.pairwise_cons.mpr ⟨?_, increasing⟩
        intro path member
        rcases List.mem_cons.mp member with rfl | later
        · exact less
        · exact lt_trans less ((List.pairwise_cons.mp increasing).1 path later)

theorem before_dedup (sorted : paths.Pairwise fun first second => first.key ≤ second.key) :
    (dedup paths).Pairwise Before := by
  cases paths with
  | nil => exact .nil
  | cons first rest => exact (dedupFrom_increasing sorted).imp before_iff.mpr

theorem dedupFrom_sublist (last : Path) (paths : List Path) :
    (dedupFrom last paths).Sublist paths := by
  induction paths generalizing last with
  | nil => exact .slnil
  | cons next rest ih =>
      rw [dedupFrom]
      by_cases same : last.same next = true
      · rw [if_pos same]
        exact (ih last).cons next
      · rw [if_neg same]
        exact (ih next).cons_cons next

theorem mem_of_mem_dedup (kept : path ∈ dedup paths) : path ∈ paths := by
  cases paths with
  | nil => exact kept
  | cons first rest => exact ((dedupFrom_sublist first rest).cons_cons first).mem kept

theorem exists_kept_from (last : Path) (given : path ∈ last :: paths) :
    ∃ kept ∈ last :: dedupFrom last paths, kept.key = path.key := by
  induction paths generalizing last with
  | nil => exact ⟨path, given, rfl⟩
  | cons next rest ih =>
      rw [dedupFrom]
      by_cases same : last.same next = true
      · rw [if_pos same]
        simp only [List.mem_cons] at given
        rcases given with rfl | rfl | later
        · exact ⟨path, List.mem_cons_self, rfl⟩
        · exact ⟨last, List.mem_cons_self, same_iff.mp same⟩
        · exact ih last (List.mem_cons_of_mem _ later)
      · rw [if_neg same]
        rcases List.mem_cons.mp given with rfl | later
        · exact ⟨path, List.mem_cons_self, rfl⟩
        · obtain ⟨kept, member, keys⟩ := ih next later
          exact ⟨kept, List.mem_cons_of_mem _ member, keys⟩

theorem exists_kept (given : path ∈ paths) : ∃ kept ∈ dedup paths, kept.key = path.key := by
  cases paths with
  | nil => cases given
  | cons first rest => exact exists_kept_from first given

theorem mem_sort : path ∈ sort paths ↔ path ∈ paths :=
  List.mem_mergeSort

end Sorting

end Path

end CallAtlas
