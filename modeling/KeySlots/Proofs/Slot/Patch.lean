import KeySlots.Proofs.Record.Schema
import KeySlots.Proofs.Slot.Failure

namespace KeySlots

open scoped List

namespace Record

theorem checkFields_congr {fields others : Fields}
    (h : ∀ name, fields.get? name = others.get? name) (kind : Kind) :
    checkFields kind fields = checkFields kind others := by
  cases kind <;> simp only [checkFields, Schema.optional, h]

end Record

namespace Slot

variable {kind : Kind} {patch other : Patch}

theorem unknownFields_eq_nil_iff :
    unknownFields kind patch = [] ↔ ∀ name ∈ patch.map (·.1), name ∈ Record.fieldNames kind := by
  rw [unknownFields, ← List.length_eq_zero_iff, List.length_mergeSort, List.length_eq_zero_iff]
  simp

variable (h : patch ~ other)
include h

theorem keepsSlot_perm (id : Int) : keepsSlot id patch = keepsSlot id other :=
  h.all_eq

theorem unknownFields_perm (kind : Kind) : unknownFields kind patch = unknownFields kind other := by
  have hs (names : List String) : (names.mergeSort fun a b => a ≤ b).Pairwise (· ≤ ·) := by
    have ht (a b c : String) : decide (a ≤ b) → decide (b ≤ c) → decide (a ≤ c) := by
      simpa using String.le_trans
    have hl (a b : String) : decide (a ≤ b) || decide (b ≤ a) := by simpa using String.le_total a b
    simpa using List.pairwise_mergeSort ht hl names
  have hp : unknownFields kind patch ~ unknownFields kind other :=
    (List.mergeSort_perm _ _).trans (((h.map _).filter _).trans (List.mergeSort_perm _ _).symm)
  exact hp.eq_of_pairwise (fun _ _ _ _ => String.le_antisymm) (hs _) (hs _)

variable (hn : (patch.map (·.1)).Nodup)
include hn

theorem merge_perm (record : Record) : merge record patch = merge record other := by
  have hn' : (other.map (·.1)).Nodup := (h.map _).nodup_iff.mp hn
  have hc : Record.checkFields record.kind (record.fields.merge patch) =
      Record.checkFields record.kind (record.fields.merge other) := by
    refine Record.checkFields_congr (fun name => ?_) _
    rw [Entries.get?_merge_of_nodup _ hn, Entries.get?_merge_of_nodup _ hn',
      (Entries.perm_iff_get? hn hn').mp h]
  simp only [merge, Record.check, Schema.model, hc]

theorem checkPatch_perm (kind : Kind) (id : Int) : checkPatch kind id patch = checkPatch kind id other := by
  have he : Entries.erase patch "id" ~ Entries.erase other "id" := h.filter _
  have hne : ((Entries.erase patch "id").map (·.1)).Nodup :=
    hn.sublist (List.filter_sublist.map _)
  rw [checkPatch_eq, checkPatch_eq, keepsSlot_perm h, unknownFields_perm h, merge_perm he hne]

theorem update_perm (kind : Kind) (records : List Record) (capacity id : Int) :
    update kind records capacity id patch = update kind records capacity id other := by
  simp only [update, checkPatch_perm h hn, merge_perm h hn]

end Slot
end KeySlots
