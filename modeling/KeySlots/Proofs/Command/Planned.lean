import KeySlots.Proofs.Command.Plan
import KeySlots.Proofs.Record.Schema
import KeySlots.Proofs.Slot.Store

namespace KeySlots

namespace Command

variable {kind : Kind} {records out : List Record} {capacity id : Int} {ids : List Int}

theorem clearAll_cons_ok (h : clearAll kind records capacity (id :: ids) = .ok out) :
    ∃ cleared, Slot.clear kind records capacity id = .ok cleared ∧
      clearAll kind cleared capacity ids = .ok out := by
  rw [clearAll, List.foldlM_cons] at h
  cases hc : Slot.clear kind records capacity id
  case error => rw [hc] at h; cases h
  case ok cleared => exact ⟨cleared, rfl, by rw [hc] at h; exact h⟩

theorem clearAll_mem (h : clearAll kind records capacity ids = .ok out) :
    ∀ id ∈ ids, 0 ≤ id ∧ id < capacity ∧ id.toNat ∈ records.map (·.id) := by
  induction ids generalizing records
  case nil => nofun
  case cons id ids hi =>
    have ⟨cleared, hc, h⟩ := clearAll_cons_ok h
    have ⟨h₀, hl, hs, _⟩ := Slot.clear_ok_iff.mp hc
    have ⟨r, hr, he⟩ := Slot.find?_isSome_iff.mp hs
    have hm : id.toNat ∈ records.map (·.id) := List.mem_map.mpr ⟨r, hr, by omega⟩
    rw [← Slot.ids_of_clear hc]
    rw [← Slot.ids_of_clear hc] at hm
    exact List.forall_mem_cons.mpr ⟨⟨h₀, hl, hm⟩, hi h⟩

theorem clearAll_nonneg (h : clearAll kind records capacity ids = .ok out) : ∀ id ∈ ids, 0 ≤ id :=
  fun id hi => (clearAll_mem h id hi).left

theorem ids_sentinels (h : ∀ id ∈ ids, 0 ≤ id) : slotsOf (sentinels kind ids) = ids := by
  rw [slotsOf, sentinels, List.map_map, List.map_congr_left, List.map_id]
  intro id hi
  have := h id hi
  simp
  omega

end Command

-- What is known of the records to write, given those of the keyboard and the number of its slots.
structure Planned (kind : Kind) (records : List Record) (capacity : Int) (plan : List Record) :
    Prop where
  inRange : ∀ r ∈ plan, (r.id : Int) < capacity
  known   : ∃ new, ∀ r ∈ plan, r.id ∈ records.map (·.id) ∨ r.id = new
  typed   : (∀ r ∈ records, r.kind = kind) → ∀ r ∈ plan, r.kind = kind

namespace Planned

variable {kind : Kind} {records plan written : List Record} {capacity : Int}

theorem mono (h : Planned kind records capacity plan) (hw : written ⊆ plan) :
    Planned kind records capacity written where
  inRange r hr := h.inRange r (hw hr)
  known        := h.known.imp fun _ hn r hr => hn r (hw hr)
  typed ht r hr := h.typed ht r (hw hr)

theorem nil : Planned kind records capacity [] :=
  ⟨nofun, ⟨0, nofun⟩, nofun⟩

theorem add {record : Record} (hk : record.kind = kind)
    (h : (Request.add record).plan kind records capacity = .ok plan) :
    Planned kind records capacity plan := by
  have ⟨id, hid, he⟩ := Request.plan_add h
  subst he
  constructor
  case inRange => simpa using (Slot.firstEmpty_ok hid).left
  case known   => exact ⟨id, by simp⟩
  case typed   => simp [hk]

theorem edit {id : Int} {patch : Slot.Patch} (hc : Slot.checkPatch kind id patch = .ok ())
    (h : (Request.edit id patch).plan kind records capacity = .ok plan) :
    Planned kind records capacity plan := by
  have ⟨r, patched, hr, hm, he⟩ := Request.plan_edit h
  have ⟨_, hl, hf⟩ := Slot.lookup_ok_iff.mp hr
  have hid := Slot.find?_some_id hf
  have hi : patched.id = r.id := Slot.id_of_merge hm (hid ▸ Slot.keepsSlot_of_checkPatch hc)
  have hs : r ∈ records := Slot.mem_of_find?_some hf
  subst he
  constructor
  case inRange => simpa [hi, hid] using hl
  case known   => exact ⟨r.id, by simp [hi]⟩
  case typed   => simpa [Slot.kind_of_merge hm] using fun ht => ht r hs

theorem clear {ids : List Int} (h : (Request.clear ids).plan kind records capacity = .ok plan) :
    Planned kind records capacity plan := by
  have ⟨⟨_, ho⟩, he⟩ := Request.plan_clear h
  have hs : ∀ r ∈ plan, ∃ id ∈ ids, r = .sentinel kind id.toNat := by
    simp [he, sentinels, eq_comm]
  constructor
  case inRange =>
    intro r hr
    have ⟨id, hi, he⟩ := hs r hr
    have ⟨_, _, _⟩ := Command.clearAll_mem ho id hi
    rw [he, Record.id_sentinel]
    omega
  case known =>
    refine ⟨0, fun r hr => .inl ?_⟩
    have ⟨id, hi, he⟩ := hs r hr
    rw [he, Record.id_sentinel]
    exact (Command.clearAll_mem ho id hi).right.right
  case typed =>
    intro _ r hr
    have ⟨id, _, he⟩ := hs r hr
    rw [he, Record.kind_sentinel]

end Planned

namespace Command

variable {κ : Type} [KeyCodec κ] {keys : κ} {settings : Settings} {k : Keyboard} {c : Command}
  {plan : List Record}

theorem planned_of_asks {request : Request} {records plan : List Record} {capacity : Int}
    (ha : c.Asks request) (h : request.plan c.kind records capacity = .ok plan) :
    Planned c.kind records capacity plan := by
  cases c
  case add | addKeyOverride | addCombo | addRecord =>
    obtain ⟨r, rfl, hk⟩ := ha
    exact .add hk h
  case edit | editDefinition | editKeyOverride | editCombo =>
    obtain ⟨patch, rfl, hc⟩ := ha
    exact .edit hc h
  case delete =>
    cases ha
    exact .clear h
  case deleteMatching | deleteAllEmpty | deleteAllDisabled =>
    cases ha
    exact .clear <| (Request.plan_clearWhere _).symm.trans h
  case list =>
    cases ha
    cases h
    exact .nil
  case get =>
    cases ha
    exact Request.plan_get h ▸ .nil

theorem planned_of_write {reported : List Int} (h : c.decide keys settings k = .write plan reported) :
    ∃ records capacity, k.Reports c.kind records capacity ∧ Planned c.kind records capacity plan := by
  have ⟨_, records, capacity, hr, hs, hc, hp, _⟩ := decide_write h
  exact ⟨records, capacity, ⟨hs, hc⟩, planned_of_asks (asks_of_request hr) hp⟩

end Command
end KeySlots
