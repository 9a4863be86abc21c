import KeySlots.Proofs.Record.Patched
import KeySlots.Proofs.Slot.Patch
import KeySlots.Proofs.Slot.Store

namespace KeySlots

open Schema Checked

namespace Slot

variable {kind : Kind} {records out : List Record} {capacity id : Int} {patch : Patch} {old new r : Record}

def Patch.NumbersSlot (patch : Patch) : Prop :=
  ∀ v, ("id", v) ∈ patch → (∃ n, v = .int n) ∨ ∃ b, v = .bool b

theorem natural_of_equal {v : Json} {n : Nat} (hv : (∃ m, v = .int m) ∨ ∃ b, v = .bool b)
    (hn : v.isNumber n) : natural v = .accepted n := by
  obtain ⟨m, rfl⟩ | ⟨b, rfl⟩ := hv
  case inl =>
    have hm : m = n := by simpa [Json.isNumber] using hn
    rw [hm, natural_int]
  case inr =>
    have hb : (if b then 1 else 0 : Int) = n := by simpa [Json.isNumber] using hn
    rw [natural, integer, hb]
    exact natural_int n

theorem isAccepted_id {v : Json} (h : (natural v).IsAccepted) :
    (Record.checkFields kind [("id", v)]).IsAccepted := by
  cases kind <;>
    simpa [Record.checkFields_eq, Record.default, Record.patched, isAccepted_map, isAccepted_seq,
      isAccepted_optional, Entries.get?_cons] using h

theorem checkPatch_ok_iff :
    checkPatch kind id patch = .ok () ↔ keepsSlot id patch ∧ unknownFields kind patch = [] ∧
      ∃ r, merge (.sentinel kind 0) (patch.erase "id") = .ok r := by
  rw [checkPatch_eq]
  cases keepsSlot id patch <;> cases unknownFields kind patch <;>
    simp [refuseDefinition, refuse, map_ok_iff]

-- A patch that fits an empty record fits every record of the kind in the slot.
theorem merge_of_checkPatch (hr : r.kind = kind) (hi : (r.id : Int) = id) (hn : patch.NumbersSlot)
    (h : checkPatch kind id patch = .ok ()) : ∃ new, merge r patch = .ok new := by
  obtain ⟨hk, -, s, hs⟩ := checkPatch_ok_iff.mp h
  have hs : ((Record.sentinel kind 0).patched (Entries.ofPairs (patch.erase "id"))).IsAccepted :=
    ⟨s, merge_ok_iff_patched.mp hs, trivial⟩
  rw [Record.isAccepted_patched_iff, Record.kind_sentinel] at hs
  have ha : (r.patched (Entries.ofPairs patch)).IsAccepted := by
    rw [Record.isAccepted_patched_iff, hr]
    intro name v hv
    by_cases he : name = "id"
    case pos =>
      rw [he, Entries.get?_ofPairs] at hv
      have hm := List.mem_reverse.mp (Entries.mem_of_get? hv)
      have hv : v.isNumber r.id := by
        rw [keepsSlot, List.all_eq_true] at hk
        simpa [hi] using hk _ hm
      rw [he]
      exact isAccepted_id ⟨_, natural_of_equal (hn v hm) hv, trivial⟩
    case neg => exact hs name v (by rw [Entries.get?_ofPairs_erase, if_neg he, hv])
  obtain ⟨new, hm, -⟩ := ha
  exact ⟨new, merge_ok_iff_patched.mpr hm⟩

theorem update_ok_iff :
    update kind records capacity id patch = .ok out ↔
      checkPatch kind id patch = .ok () ∧ ∃ old new, lookup kind records capacity id = .ok old ∧
        merge old patch = .ok new ∧ out = put new records := by
  rw [update, bind_ok_iff]
  constructor
  case mp =>
    rintro ⟨⟨⟩, hc, h⟩
    obtain ⟨old, hl, h⟩ := bind_ok_iff.mp h
    obtain ⟨new, hm, he⟩ := bind_ok_iff.mp h
    exact ⟨hc, old, new, hl, hm, (Except.ok.inj he).symm⟩
  case mpr =>
    rintro ⟨hc, old, new, hl, hm, rfl⟩
    exact ⟨(), hc, by rw [hl]; simp [bind, Except.bind, hm]⟩

theorem update_of_checkPatch (ht : ∀ r ∈ records, r.kind = kind) (hn : patch.NumbersSlot)
    (hl : lookup kind records capacity id = .ok old) (h : checkPatch kind id patch = .ok ()) :
    ∃ out, update kind records capacity id patch = .ok out := by
  have ⟨_, _, hf⟩ := lookup_ok_iff.mp hl
  have ⟨new, hm⟩ := merge_of_checkPatch (ht old (mem_of_find?_some hf)) (find?_some_id hf) hn h
  exact ⟨_, update_ok_iff.mpr ⟨h, old, new, hl, hm, rfl⟩⟩

theorem update_of_checkPatch_error {f : Failure} (h : checkPatch kind id patch = .error f) :
    update kind records capacity id patch = .error f := by
  rw [update, h]
  rfl

end Slot

-- A record is changed to another one by a patch: each field that is given becomes what its value is read
-- as, and each field that is not is kept. The record stays in its slot, whatever is given for that.
structure Record.Edits (old : Record) (patch : Slot.Patch) (new : Record) : Prop where
  kind  : new.kind = old.kind
  id    : new.id = old.id
  given : ∀ name v, (Entries.ofPairs patch).get? name = some v →
    ∃ r w, check old.kind (.object [(name, v)]) = .accepted r ∧ r.fields.get? name = some w ∧
      new.fields.get? name = some w
  kept  : ∀ name, (Entries.ofPairs patch).get? name = none →
    new.fields.get? name = old.fields.get? name

namespace Slot

variable {kind : Kind} {records out : List Record} {capacity id : Int} {patch : Patch} {old new r : Record}

-- The first record of a slot is replaced by another one, and all others are kept in their order.
def Replaces (records out : List Record) (old new : Record) : Prop :=
  ∃ before after, records = before ++ old :: after ∧ (∀ r ∈ before, r.id ≠ old.id) ∧
    out = before ++ new :: after

theorem replaces_put (hf : find? records id = some old) (hi : new.id = old.id) :
    Replaces records (put new records) old new := by
  have hid : (new.id : Int) = id := by rw [hi, find?_some_id hf]
  obtain ⟨hn, -⟩ | ⟨before, first, after, he, hb, -, hs, hp⟩ := put_cases new records
  case inl => simp [hid, hf] at hn
  case inr =>
    rw [hid, hf] at hs
    cases hs
    exact ⟨before, after, he, hi ▸ hb, hp⟩

theorem edits_of_merge (hc : checkPatch old.kind old.id patch = .ok ()) (h : merge old patch = .ok new) :
    old.Edits patch new := by
  obtain ⟨hk, hu, -⟩ := checkPatch_ok_iff.mp hc
  have hp := merge_ok_iff_patched.mp h
  constructor
  case kind => exact kind_of_merge h
  case id   => exact id_of_merge h hk
  case given =>
    intro name v hv
    obtain ⟨r, hr, -⟩ := Record.isAccepted_patched_iff.mp ⟨new, hp, trivial⟩ name v hv
    have hg : Entries.get? [(name, v)] name = some v := by simp [Entries.get?_cons]
    have hd : old.kind = (Record.default old.kind).kind := by cases old.kind <;> rfl
    have he : new.fields.get? name = r.fields.get? name :=
      Record.get?_fields_congr hd hp (Record.checkFields_eq .. ▸ hr) (hv.trans hg.symm) (by simp [hv])
    have hm : name ∈ r.fields.map (·.1) := by
      rw [r.map_fst_fields, Record.kind_of_checkFields hr]
      rw [Entries.get?_ofPairs] at hv
      exact unknownFields_eq_nil_iff.mp hu name
        (List.mem_map_of_mem (List.mem_reverse.mp (Entries.mem_of_get? hv)))
    cases hw : r.fields.get? name
    case none   => exact (Entries.get?_eq_none_iff.mp hw hm).elim
    case some w => exact ⟨r, w, hr, hw, he.trans hw⟩
  case kept =>
    intro name hn
    exact Record.get?_fields_congr rfl hp old.patched_nil hn fun _ => rfl

theorem edits_of_update (ht : ∀ r ∈ records, r.kind = kind)
    (h : update kind records capacity id patch = .ok out) :
    ∃ old new, (old.id : Int) = id ∧ Replaces records out old new ∧ old.Edits patch new := by
  obtain ⟨hc, old, new, hl, hm, rfl⟩ := update_ok_iff.mp h
  obtain ⟨-, -, hf⟩ := lookup_ok_iff.mp hl
  cases ht old (mem_of_find?_some hf)
  cases find?_some_id hf
  have he := edits_of_merge hc hm
  exact ⟨old, new, rfl, replaces_put hf he.id, he⟩

end Slot
end KeySlots
