import KeySlots.Command.Basic
import KeySlots.Proofs.Failure
import KeySlots.Proofs.Slot.Store

namespace KeySlots

open Failure (Own Local)

variable {numbers : List Int} {kind : Kind} {records : List Record} {capacity id : Int}

theorem Refusal.definition_own {e : DefinitionError} (h : e.numbers = []) :
    (definition e).failure.Own numbers :=
  failure_own nofun (by simp [Refusal.numbers, h])

-- That a slot is out of range is reported with its number and with the last slot that there is.
theorem failure_outOfRange_eq :
    (Refusal.outOfRange kind id capacity).failure =
      if Numeral.isWritable id ∧ (0 < capacity → Numeral.isWritable (capacity - 1)) then
        .refused (.outOfRange kind id capacity)
      else
        .faulted .unwritableNumber := by
  by_cases hc : 0 < capacity <;> simp [Refusal.failure, Refusal.numbers, hc]

theorem failure_outOfRange (hw : Numeral.isWritable capacity) (hi : Numeral.isWritable id) :
    (Refusal.outOfRange kind id capacity).failure = .refused (.outOfRange kind id capacity) := by
  have hl (h : 0 < capacity) : Numeral.isWritable (capacity - 1) :=
    Numeral.isWritable_of_le (by omega) (by omega) hw
  rw [failure_outOfRange_eq, if_pos ⟨hi, hl⟩]

theorem failure_outOfRange_overlong (hi : ¬Numeral.isWritable id) :
    (Refusal.outOfRange kind id capacity).failure = .faulted .unwritableNumber := by
  rw [failure_outOfRange_eq, if_neg fun h => hi h.left]

theorem failure_slotsExhausted_eq :
    (Refusal.slotsExhausted kind capacity).failure =
      if Numeral.isWritable (min capacity 0) then .refused (.slotsExhausted kind capacity)
      else .faulted .unwritableNumber := by
  simp [Refusal.failure, Refusal.numbers]

namespace Slot

theorem firstEmpty_failsOnly (h : capacity ∈ numbers) :
    FailsOnly (Own numbers) (firstEmpty kind records capacity) := by
  rw [firstEmpty_eq_elim]
  cases firstFree? records capacity.toNat 0
  case some => exact failsOnly_ok _
  case none =>
    refine failsOnly_refuse.mpr <| Refusal.failure_own (by simp) fun n hn hw => ⟨capacity, h, ?_⟩
    simp only [Refusal.numbers, List.mem_singleton] at hn
    simp only [Numeral.isWritable, decide_eq_true_eq] at hw ⊢
    omega

theorem lookup_failsOnly (hi : id ∈ numbers) (hc : capacity ∈ numbers) :
    FailsOnly (Own numbers) (lookup kind records capacity id) := by
  refine FailsOnly.bind ?_ fun _ _ => ?_
  case refine_1 =>
    rw [checkRange]
    split
    case isTrue => simp
    case isFalse =>
      refine failsOnly_refuse.mpr <| Refusal.failure_own (by simp) fun n hn hw => ?_
      simp only [Refusal.numbers] at hn
      split at hn
      case isTrue =>
        simp only [List.mem_cons, List.not_mem_nil, or_false] at hn
        cases hn
        case inl hn => exact ⟨id, hi, hn ▸ hw⟩
        case inr hn =>
          refine ⟨capacity, hc, ?_⟩
          simp only [Numeral.isWritable, decide_eq_true_eq] at hw ⊢
          omega
      case isFalse => exact ⟨id, hi, List.mem_singleton.mp hn ▸ hw⟩
  case refine_2 =>
    split
    case h_1 => simp
    case h_2 =>
      refine failsOnly_refuse.mpr <| Refusal.failure_own (by simp) fun n hn hw => ⟨id, hi, ?_⟩
      exact List.mem_singleton.mp hn ▸ hw

theorem merge_failsOnly (record : Record) (patch : Patch) :
    FailsOnly (Own numbers) (merge record patch) := by
  rw [merge]
  split
  case h_1 => simp
  case h_2 => exact failsOnly_refuseDefinition.mpr (Refusal.definition_own rfl)

theorem checkPatch_eq (kind : Kind) (id : Int) (patch : Patch) :
    checkPatch kind id patch =
      if keepsSlot id patch then
        match unknownFields kind patch with
        | [] => (merge (.sentinel kind 0) (patch.erase "id")).map fun _ => ()
        | name :: names => refuseDefinition (.unknownFields kind name (name :: names))
      else
        refuseDefinition .moved := by
  rw [checkPatch]
  cases keepsSlot id patch
  case false => rfl
  case true =>
    cases unknownFields kind patch
    case nil => cases merge (.sentinel kind 0) (patch.erase "id") <;> rfl
    case cons => rfl

theorem keepsSlot_of_checkPatch {patch : Patch} (h : checkPatch kind id patch = .ok ()) :
    keepsSlot id patch := by
  rw [checkPatch_eq] at h
  split at h
  case isTrue hk => exact hk
  case isFalse => cases h

theorem checkPatch_failsOnly (kind : Kind) (id : Int) (patch : Patch) :
    FailsOnly (Own numbers) (checkPatch kind id patch) := by
  rw [checkPatch_eq]
  split
  case isTrue =>
    split
    · exact (merge_failsOnly _ _).map _
    · exact failsOnly_refuseDefinition.mpr (Refusal.definition_own rfl)
  case isFalse => exact failsOnly_refuseDefinition.mpr (Refusal.definition_own rfl)

theorem clear_failsOnly (hi : id ∈ numbers) (hc : capacity ∈ numbers) :
    FailsOnly (Own numbers) (clear kind records capacity id) :=
  (lookup_failsOnly hi hc).bind fun _ _ => by simp

end Slot

theorem Command.clearAll_failsOnly {ids : List Int} (hi : ids ⊆ numbers) (hc : capacity ∈ numbers) :
    FailsOnly (Own numbers) (clearAll kind records capacity ids) := by
  induction ids generalizing records
  case nil => exact failsOnly_pure _
  case cons id ids ih =>
    rw [clearAll, List.foldlM_cons]
    have ⟨hi, his⟩ := List.cons_subset.mp hi
    exact (Slot.clear_failsOnly hi hc).bind fun _ _ => ih his

end KeySlots
