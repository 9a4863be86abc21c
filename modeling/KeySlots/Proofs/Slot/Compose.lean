import KeySlots.Proofs.Slot.Update

namespace KeySlots

open scoped List
open Schema Checked

namespace Record

variable {r s mid out : Record} {first second both : Fields}

theorem eq_of_fields (hk : r.kind = s.kind) (h : ∀ name, r.fields.get? name = s.fields.get? name) :
    r = s := by
  have hr : checkFields r.kind r.fields = .accepted r := r.check_toJson
  have hs : checkFields s.kind s.fields = .accepted s := s.check_toJson
  rw [hk, checkFields_congr h, hs] at hr
  exact (accepted.inj hr).symm

theorem kind_of_patched (h : r.patched first = .accepted mid) : mid.kind = r.kind := by
  cases r <;> rw [patched, eq_accepted_iff, accepts_map] at h <;> obtain ⟨_, _, rfl⟩ := h <;> rfl

theorem exists_patched (hk : r.kind = s.kind) (h : r.patched first = .accepted mid) :
    ∃ new, s.patched first = .accepted new := by
  have hr : (r.patched first).IsAccepted := ⟨mid, h, trivial⟩
  rw [isAccepted_patched_iff, hk, ← isAccepted_patched_iff] at hr
  obtain ⟨new, hn, -⟩ := hr
  exact ⟨new, hn⟩

theorem patched_both (hb : ∀ name, both.get? name = (second.get? name).or (first.get? name))
    (hf : r.patched first = .accepted mid) (hs : mid.patched second = .accepted out) :
    r.patched both = .accepted out := by
  have hk : mid.kind = r.kind := kind_of_patched hf
  obtain ⟨new, hn, -⟩ : (r.patched both).IsAccepted := by
    have hf := isAccepted_patched_iff.mp ⟨mid, hf, trivial⟩
    have hs := isAccepted_patched_iff.mp ⟨out, hs, trivial⟩
    refine isAccepted_patched_iff.mpr fun name v hv => ?_
    rw [hb, Option.or_eq_some_iff] at hv
    cases hv
    case inl hv => exact hk ▸ hs name v hv
    case inr hv => exact hf name v hv.right
  have he : new = out := by
    refine eq_of_fields ((kind_of_patched hn).trans (hk.symm.trans (kind_of_patched hs).symm)) ?_
    intro name
    cases hg : second.get? name
    case some v =>
      exact get?_fields_congr hk.symm hn hs (by rw [hb, hg, Option.some_or]) (by simp [hb, hg])
    case none =>
      -- The second patch says nothing of the field, so it is as the first one has left it.
      have hm : new.fields.get? name = mid.fields.get? name :=
        get?_fields_congr rfl hn hf (by rw [hb, hg, Option.none_or]) fun _ => rfl
      exact hm.trans (get?_fields_congr rfl hs mid.patched_nil hg fun _ => rfl).symm
  exact he ▸ hn

end Record

namespace Slot

variable {kind : Kind} {records mid out : List Record} {capacity id : Int} {first second : Patch}
  {r s new old : Record}

-- One patch for two: where both give a field, the second counts.
def Patch.onto (second first : Patch) : Patch :=
  Entries.ofPairs (first ++ second)

theorem Patch.get?_onto (name : String) :
    (Entries.ofPairs (second.onto first)).get? name =
      ((Entries.ofPairs second).get? name).or ((Entries.ofPairs first).get? name) := by
  rw [onto, Entries.get?_ofPairs_ofPairs, Entries.get?_ofPairs_append]

theorem Patch.mem_of_mem_onto {entry : String × Json} (h : entry ∈ second.onto first) :
    entry ∈ first ∨ entry ∈ second :=
  List.mem_append.mp (Entries.mem_of_mem_ofPairs h)

theorem Patch.onto_perm (h : ∀ name ∈ first.map (·.1), name ∉ second.map (·.1)) :
    second.onto first ~ first.onto second := by
  rw [onto, onto, Entries.perm_iff_get? (Entries.nodup_ofPairs _) (Entries.nodup_ofPairs _)]
  intro name
  simp only [Entries.get?_ofPairs_append]
  cases hs : (Entries.ofPairs second).get? name
  case none => simp
  case some v =>
    have hn : name ∉ first.map (·.1) := fun hf =>
      h name hf (List.mem_map_of_mem (Entries.mem_of_mem_ofPairs (Entries.mem_of_get? hs)))
    have hf : (Entries.ofPairs first).get? name = none := by
      rw [Entries.get?_ofPairs, Entries.get?_eq_none_iff, List.map_reverse, List.mem_reverse]
      exact hn
    simp [hf]

theorem merge_onto (hf : merge r first = .ok s) (hs : merge s second = .ok new) :
    merge r (second.onto first) = .ok new := by
  rw [merge_ok_iff_patched] at *
  exact Record.patched_both (fun _ => Patch.get?_onto _) hf hs

theorem exists_merge (hk : r.kind = s.kind) (h : merge r first = .ok new) :
    ∃ other, merge s first = .ok other := by
  simp only [merge_ok_iff_patched] at *
  exact Record.exists_patched hk h

theorem checkPatch_onto (hf : checkPatch kind id first = .ok ()) (hs : checkPatch kind id second = .ok ()) :
    checkPatch kind id (second.onto first) = .ok () := by
  rw [checkPatch_ok_iff] at *
  obtain ⟨hkf, huf, r, hrf⟩ := hf
  obtain ⟨hks, hus, s, hrs⟩ := hs
  refine ⟨?_, ?_, ?_⟩
  case refine_1 =>
    rw [keepsSlot, List.all_eq_true] at *
    exact fun entry he => (Patch.mem_of_mem_onto he).elim (hkf entry) (hks entry)
  case refine_2 =>
    rw [unknownFields_eq_nil_iff, List.forall_mem_map] at *
    exact fun entry he => (Patch.mem_of_mem_onto he).elim (huf entry) (hus entry)
  case refine_3 =>
    -- On an empty record, too, the patches come one after the other.
    obtain ⟨new, hn⟩ := exists_merge (kind_of_merge hrf).symm hrs
    refine ⟨new, merge_ok_iff_patched.mpr (Record.patched_both (fun name => ?_)
      (merge_ok_iff_patched.mp hrf) (merge_ok_iff_patched.mp hn))⟩
    simp only [Entries.get?_ofPairs_erase, Patch.get?_onto]
    split <;> simp

-- All that two updates of a slot in a row do: the record of the slot is patched twice.
theorem update_update (hf : update kind records capacity id first = .ok mid)
    (hs : update kind mid capacity id second = .ok out) :
    ∃ old s new, lookup kind records capacity id = .ok old ∧ merge old first = .ok s ∧
      merge s second = .ok new ∧ out = put new records := by
  obtain ⟨hcf, old, s, hl, hm, rfl⟩ := update_ok_iff.mp hf
  obtain ⟨hcs, mid, new, hl', hm', rfl⟩ := update_ok_iff.mp hs
  obtain ⟨-, -, ho⟩ := lookup_ok_iff.mp hl
  obtain ⟨-, -, hp⟩ := lookup_ok_iff.mp hl'
  cases find?_some_id ho
  have hi : s.id = old.id := id_of_merge hm (keepsSlot_of_checkPatch hcf)
  rw [← hi, find?_put_self] at hp
  cases hp
  have hi' : new.id = s.id := id_of_merge hm' (hi ▸ keepsSlot_of_checkPatch hcs)
  exact ⟨old, s, new, hl, hm, hm', put_put hi'.symm records⟩

theorem update_onto (hf : update kind records capacity id first = .ok mid)
    (hs : update kind mid capacity id second = .ok out) :
    update kind records capacity id (second.onto first) = .ok out := by
  obtain ⟨old, s, new, hl, hm, hm', rfl⟩ := update_update hf hs
  have hc := checkPatch_onto (update_ok_iff.mp hf).left (update_ok_iff.mp hs).left
  exact update_ok_iff.mpr ⟨hc, old, new, hl, merge_onto hm hm', rfl⟩

theorem exists_update_swap (hf : update kind records capacity id first = .ok mid)
    (hs : update kind mid capacity id second = .ok out) :
    ∃ other swapped, update kind records capacity id second = .ok other ∧
      update kind other capacity id first = .ok swapped := by
  obtain ⟨old, s, new, hl, hm, hm', -⟩ := update_update hf hs
  have hcf := (update_ok_iff.mp hf).left
  have hcs := (update_ok_iff.mp hs).left
  obtain ⟨t, ht⟩ := exists_merge (kind_of_merge hm) hm'
  obtain ⟨last, hlast⟩ := exists_merge (kind_of_merge ht).symm hm
  obtain ⟨h₀, hc, ho⟩ := lookup_ok_iff.mp hl
  cases find?_some_id ho
  have hi : t.id = old.id := id_of_merge ht (keepsSlot_of_checkPatch hcs)
  have hl' : lookup kind (put t records) capacity old.id = .ok t :=
    lookup_ok_iff.mpr ⟨h₀, hc, hi ▸ find?_put_self t records⟩
  exact ⟨put t records, put last (put t records), update_ok_iff.mpr ⟨hcs, old, t, hl, ht, rfl⟩,
    update_ok_iff.mpr ⟨hcf, t, last, hl', hlast, rfl⟩⟩

-- Two updates of a slot that succeed come to a single one, in which the second patch counts where both
-- give a field. Patches of different fields come to the same in either order.
theorem updates_compose (kind : Kind) (records mid out : List Record) (capacity id : Int)
    (first second : Patch) (hf : update kind records capacity id first = .ok mid)
    (hs : update kind mid capacity id second = .ok out) :
    update kind records capacity id (second.onto first) = .ok out ∧
      ((∀ name ∈ first.map (·.1), name ∉ second.map (·.1)) →
        ∃ other, update kind records capacity id second = .ok other ∧
          update kind other capacity id first = .ok out) := by
  have hb := update_onto hf hs
  refine ⟨hb, fun hd => ?_⟩
  obtain ⟨other, swapped, ho, hw⟩ := exists_update_swap hf hs
  have he : update kind records capacity id (second.onto first) = .ok swapped := by
    rw [update_perm (Patch.onto_perm hd) (Entries.nodup_ofPairs _)]
    exact update_onto ho hw
  cases hb.symm.trans he
  exact ⟨other, ho, hw⟩

def Patch.slowing : Patch :=
  [("term", .text "40"), ("enabled", .int 0)]

def Patch.rekeying : Patch :=
  [("trigger_keys", .array [.int 4, .bool true]), ("enabled", .text "yes")]

def Patch.aiming : Patch :=
  [("action_key", .int 9), ("trigger_keys", .array [.int 6])]

theorem updates_compose_combo :
    let records : List Record := [.combo {}, .combo { id := 1, action := 5 }]
    update .combo records 2 1 (Patch.rekeying.onto .slowing) =
        .ok [.combo {}, .combo { id := 1, triggers := #v[4, 1, 0, 0], action := 5, term := 40 }] ∧
      ∃ other, update .combo records 2 1 .aiming = .ok other ∧
        update .combo other 2 1 .slowing = .ok [.combo {}, .combo
          { id := 1, triggers := #v[6, 0, 0, 0], action := 9, term := 40, enabled := false }] := by
  intro records
  have hf : update .combo records 2 1 .slowing =
      .ok [.combo {}, .combo { id := 1, action := 5, term := 40, enabled := false }] :=
    ok_of_toOption (by decide +kernel)
  refine ⟨(updates_compose .combo records _ _ 2 1 .slowing .rekeying hf ?_).left,
    (updates_compose .combo records _ _ 2 1 .slowing .aiming hf ?_).right (by decide)⟩
  all_goals exact ok_of_toOption (by decide +kernel)

end Slot
end KeySlots
