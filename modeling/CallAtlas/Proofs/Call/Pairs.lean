import CallAtlas.Call.Relation
import Mathlib.Data.Set.Card

/-!
A call relation as a set of pairs. The listed pairs are the calls, each listed
once, so the edge count is the number of calls, and one more call adds an edge
exactly when it is new. A relation that lists no caller without callees is known
by its calls.
-/

namespace CallAtlas.CallRelation

variable {relation : CallRelation} {caller callee : String}

theorem calls_iff : relation.Calls caller callee ↔
    ∃ callees, relation.get? caller = some callees ∧ callee ∈ callees := by
  rw [Calls, callees]
  cases relation.get? caller <;> simp

theorem callees_isEmpty_iff :
    (relation.callees caller).isEmpty = true ↔ ∀ callee, ¬ relation.Calls caller callee := by
  rw [NameSet.isEmpty, List.isEmpty_iff, List.eq_nil_iff_forall_not_mem]
  exact Iff.rfl

theorem not_calls_empty : ¬ (∅ : CallRelation).Calls caller callee := by
  simp [Calls, callees]

theorem mem_pairs_iff : (caller, callee) ∈ relation.pairs ↔ relation.Calls caller callee := by
  rw [pairs, List.mem_flatMap, calls_iff]
  constructor
  · rintro ⟨⟨name, callees⟩, member, listed⟩
    obtain ⟨found, present, same⟩ := List.mem_map.mp listed
    obtain ⟨rfl, rfl⟩ := Prod.mk.inj same
    exact ⟨callees, NameMap.mem_toList_iff.mp member, present⟩
  · rintro ⟨callees, found, present⟩
    exact ⟨(caller, callees), NameMap.mem_toList_iff.mpr found,
      List.mem_map.mpr ⟨callee, present, rfl⟩⟩

theorem mem_called_iff : callee ∈ relation.called ↔ ∃ caller, relation.Calls caller callee := by
  rw [called, List.mem_flatMap]
  constructor
  · rintro ⟨callees, member, present⟩
    obtain ⟨⟨name, found⟩, listed, rfl⟩ := List.mem_map.mp member
    exact ⟨name, calls_iff.mpr ⟨found, NameMap.mem_toList_iff.mp listed, present⟩⟩
  · rintro ⟨caller, calls⟩
    obtain ⟨callees, found, present⟩ := calls_iff.mp calls
    exact ⟨callees, List.mem_map.mpr ⟨(caller, callees), NameMap.mem_toList_iff.mpr found, rfl⟩,
      present⟩

theorem pairs_sorted (relation : CallRelation) :
    relation.pairs.Pairwise (Prod.Lex (· < ·) (· < ·)) := by
  rw [pairs, List.pairwise_flatMap]
  constructor
  · rintro ⟨caller, callees⟩ -
    exact List.pairwise_map.mpr (callees.sorted.imp fun less => .right caller less)
  · refine relation.sorted.imp ?_
    rintro ⟨first, callees⟩ ⟨second, callees'⟩ less pair inFirst pair' inSecond
    obtain ⟨callee, -, rfl⟩ := List.mem_map.mp inFirst
    obtain ⟨callee', -, rfl⟩ := List.mem_map.mp inSecond
    exact .left callee callee' less

theorem pairs_nodup (relation : CallRelation) : relation.pairs.Nodup := by
  refine relation.pairs_sorted.imp ?_
  rintro ⟨first, callee⟩ ⟨second, callee'⟩ before same
  obtain ⟨rfl, rfl⟩ := Prod.mk.inj same
  rcases Prod.lex_def.mp before with less | ⟨-, less⟩
  · exact String.lt_irrefl first less
  · exact String.lt_irrefl callee less

theorem length_pairs (relation : CallRelation) : relation.pairs.length = relation.edgeCount := by
  rw [pairs, List.length_flatMap, edgeCount, NameMap.values, List.map_map]
  congr 1
  refine List.map_congr_left ?_
  rintro ⟨caller, callees⟩ -
  simp [NameSet.size]

def Inhabited (relation : CallRelation) : Prop :=
  ∀ caller callees, relation.get? caller = some callees → callees ≠ ∅

theorem Inhabited.exists_callee (inhabited : relation.Inhabited) {callees : NameSet}
    (found : relation.get? caller = some callees) : ∃ callee, relation.Calls caller callee := by
  obtain ⟨callee, member⟩ : ∃ callee, callee ∈ callees := by
    by_contra absent
    refine inhabited caller callees found (NameSet.ext fun name => ?_)
    simpa using fun member => absent ⟨name, member⟩
  exact ⟨callee, calls_iff.mpr ⟨callees, found, member⟩⟩

theorem Inhabited.isSome_iff (inhabited : relation.Inhabited) :
    (relation.get? caller).isSome = true ↔ ∃ callee, relation.Calls caller callee := by
  rw [Option.isSome_iff_exists]
  constructor
  · rintro ⟨callees, found⟩
    exact inhabited.exists_callee found
  · rintro ⟨callee, calls⟩
    obtain ⟨callees, found, -⟩ := calls_iff.mp calls
    exact ⟨callees, found⟩

-- Empty entries are all that the calls of a relation do not tell.
theorem eq_of_calls {other : CallRelation} (inhabited : relation.Inhabited)
    (inhabited' : other.Inhabited)
    (same : ∀ caller callee, relation.Calls caller callee ↔ other.Calls caller callee) :
    relation = other := by
  refine NameMap.ext fun caller => ?_
  have callees : relation.callees caller = other.callees caller := NameSet.ext (same caller)
  have listed : (relation.get? caller).isSome = (other.get? caller).isSome := by
    rw [Bool.eq_iff_iff, inhabited.isSome_iff, inhabited'.isSome_iff]
    exact exists_congr (same caller)
  rw [CallRelation.callees, CallRelation.callees] at callees
  cases found : relation.get? caller with
  | none =>
      rw [found] at listed
      exact (Option.not_isSome_iff_eq_none.mp (by simp [← listed])).symm
  | some names =>
      rw [found] at listed callees
      obtain ⟨names', found'⟩ := Option.isSome_iff_exists.mp listed.symm
      rw [found'] at callees ⊢
      exact congrArg some callees

theorem calls_eq_pairs (relation : CallRelation) :
    {pair : String × String | relation.Calls pair.1 pair.2} = relation.pairs.toFinset := by
  ext ⟨caller, callee⟩
  simp [mem_pairs_iff]

theorem finite_calls (relation : CallRelation) :
    {pair : String × String | relation.Calls pair.1 pair.2}.Finite := by
  rw [calls_eq_pairs]
  exact Finset.finite_toSet _

/-- The sizes of the callee sets add up to the number of calls. -/
theorem edgeCount_eq_ncard (relation : CallRelation) :
    relation.edgeCount = {pair : String × String | relation.Calls pair.1 pair.2}.ncard := by
  rw [calls_eq_pairs, Set.ncard_coe_finset, List.toFinset_card_of_nodup (pairs_nodup relation),
    length_pairs]

theorem calls_addCall_eq_insert (relation : CallRelation) (call : Call) :
    {pair : String × String | (relation.addCall call).Calls pair.1 pair.2} =
      insert (call.caller, call.callee) {pair | relation.Calls pair.1 pair.2} := by
  ext ⟨caller, callee⟩
  simp

theorem edgeCount_addCall (relation : CallRelation) (call : Call) :
    (relation.addCall call).edgeCount =
      if relation.Calls call.caller call.callee then relation.edgeCount
      else relation.edgeCount + 1 := by
  rw [edgeCount_eq_ncard, edgeCount_eq_ncard, calls_addCall_eq_insert]
  split
  · next known => rw [Set.insert_eq_of_mem (by exact known)]
  · next fresh => rw [Set.ncard_insert_of_notMem (by exact fresh) (finite_calls relation)]

end CallAtlas.CallRelation
