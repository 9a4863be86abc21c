import KeySlots.Proofs.Command.Add
import KeySlots.Proofs.Command.Report
import KeySlots.Proofs.Definition.Content

namespace KeySlots

open Session

variable {κ : Type} [KeyCodec κ]

namespace Keyboard

-- A slot has this record, and it is not empty.
structure Occupied (k : Keyboard) (kind : Kind) (r : Record) : Prop where
  found    : ∃ records, k.records? kind = some records ∧ Slot.find? records r.id = some r
  nonempty : r.isEmpty = false

-- A record can be read under its slot and in the list of all records, and no other record is added in
-- its slot.
structure Retrieves (k : Keyboard) (kind : Kind) (r : Record) : Prop where
  got    : ∀ {κ : Type} [KeyCodec κ] (keys : κ) settings,
    ∃ o, ((Command.get kind r.id).run keys settings {} k).result = .ok o ∧ o.ok = true ∧ o.records = [r]
  listed : ∀ {κ : Type} [KeyCodec κ] (keys : κ) settings,
    ∃ o, ((Command.list kind).run keys settings {} k).result = .ok o ∧ o.ok = true ∧ r ∈ o.records
  kept   : ∀ {κ : Type} [KeyCodec κ] (keys : κ) settings broken c o, c.verb = "add" → c.kind = kind →
    (Command.run keys settings broken k c).result = .ok o → o.ok = true → o.slotId ≠ some (r.id : Int)

-- The keyboards that commands lead to of which none edits or deletes.
inductive Gains (k : Keyboard) : Keyboard → Prop
  | refl : Gains k k
  | run {κ : Type} [KeyCodec κ] {keys : κ} {k' settings broken c} :
    Gains k k' → c.verb ≠ "edit" → c.verb ≠ "delete" →
    Gains k (Command.run keys settings broken k' c).keyboard

end Keyboard

variable {keys : κ} {settings : Settings} {broken : Breakdowns} {k k' : Keyboard} {c : Command}
  {kind : Kind} {record r : Record} {records : List Record} {capacity : Int} {o : Outcome}

namespace Keyboard

theorem Occupied.ne_of_firstEmpty {id : Nat} (h : k.Occupied kind r) (hs : k.Sound)
    (hk : k.Reports kind records capacity) (hf : Slot.firstEmpty kind records capacity = .ok id) :
    id ≠ r.id := by
  rintro rfl
  have ⟨records', hr, hfd⟩ := h.found
  cases hk.records.symm.trans hr
  have hfree := (Slot.firstEmpty_ok hf).right
  rw [Slot.isFree_of_nodup (hs _ _ _ hk).distinct, hfd] at hfree
  simp [h.nonempty] at hfree

theorem Occupied.retrieves (h : k.Occupied kind r) (hs : k.Sound) (hc : k.count? kind = some capacity)
    (hw : Numeral.isWritable capacity) : k.Retrieves kind r := by
  have ⟨records, hr, hf⟩ := h.found
  have hk : k.Reports kind records capacity := ⟨hr, hc⟩
  have hm : r ∈ records := Slot.mem_of_find?_some hf
  have hl : (r.id : Int) < capacity := (hs _ _ _ hk).inRange r hm
  constructor
  case got =>
    intro κ _ keys settings
    have hi : Numeral.isWritable r.id := Numeral.isWritable_of_le (by omega) (by omega) hw
    have hl : Slot.lookup kind records capacity r.id = .ok r := Slot.lookup_ok_iff.mpr ⟨by omega, hl, hf⟩
    exact ⟨_, Command.run_get hk hl h.nonempty hi, rfl, rfl⟩
  case listed =>
    intro κ _ keys settings
    exact ⟨_, Command.run_list hk hw, rfl, List.mem_filter.mpr ⟨hm, by simp [h.nonempty]⟩⟩
  case kept =>
    intro κ _ keys settings broken c o hv hck ho hok
    subst hck
    have ⟨records', capacity', id, hk', hfe, hid⟩ := Command.takesFirst_of_add hv ho hok
    have hne := h.ne_of_firstEmpty hs hk' hfe
    rw [hid]
    exact fun he => hne (Int.ofNat_inj.mp (Option.some.inj he))

end Keyboard

namespace Command

theorem plan_of_gain (he : c.verb ≠ "edit") (hd : c.verb ≠ "delete") (hp : c.plan keys settings k ≠ []) :
    ∃ record records capacity, k.Reports c.kind records capacity ∧
      Slot.firstEmpty c.kind records capacity = .ok record.id ∧ c.plan keys settings k = [record] := by
  have ⟨_, hw⟩ := write_of_plan hp
  have ⟨request, records, capacity, hq, hr, hn, hpl, _⟩ := decide_write hw
  have ha := asks_of_request hq
  cases c
  case add | addKeyOverride | addCombo | addRecord =>
    obtain ⟨record, rfl, _⟩ := ha
    have ⟨id, hf, he⟩ := Request.plan_add hpl
    exact ⟨record.withId id, records, capacity, ⟨hr, hn⟩, by simpa using hf, he⟩
  case list =>
    cases ha
    exact (hp (Except.ok.inj hpl).symm).elim
  case get =>
    cases ha
    exact (hp (Request.plan_get hpl)).elim
  all_goals simp [verb] at he hd

theorem occupied_run (h : k.Occupied kind r) (hs : k.Sound) (he : c.verb ≠ "edit")
    (hd : c.verb ≠ "delete") : (c.run keys settings broken k).keyboard.Occupied kind r := by
  have ⟨written, hp, hk⟩ := run_keyboard keys settings broken k c
  rw [hk]
  cases written
  case nil => exact h
  case cons w written =>
    have ⟨record, records, capacity, hr, hf, hpl⟩ := plan_of_gain he hd (hp.ne_nil nofun)
    rw [hpl] at hp
    obtain ⟨rfl, rfl⟩ : w = record ∧ written = [] := by simpa using hp
    refine ⟨?_, h.nonempty⟩
    have ⟨records', hr', hfd⟩ := h.found
    by_cases hkc : kind = c.kind
    case neg => exact ⟨records', (Keyboard.records?_writeAll_of_ne hkc _).trans hr', hfd⟩
    case pos =>
      subst hkc
      have hne : (w.id : Int) ≠ r.id := by
        have := h.ne_of_firstEmpty hs hr hf
        omega
      exact ⟨_, Keyboard.records?_writeAll_self hr' [w], (Slot.find?_put_of_ne records' hne).trans hfd⟩

end Command

theorem Keyboard.Gains.occupied (hg : k.Gains k') (hs : k.Sound) (h : k.Occupied kind r) :
    k'.Sound ∧ k'.Occupied kind r ∧ k'.count? kind = k.count? kind := by
  induction hg
  case refl => exact ⟨hs, h, rfl⟩
  case run he hd hi =>
    have ⟨hs, h, hc⟩ := hi
    exact ⟨Command.sound_run hs, Command.occupied_run h hs he hd, (Command.count?_run ..).trans hc⟩

namespace Command

theorem writable_of_ok {plan : List Record} {reported : List Int}
    (hd : c.decide keys settings k = .write plan reported)
    (h : (c.run keys settings broken k).result = .ok o) (ho : o.ok = true) :
    ∀ n ∈ reported, Numeral.isWritable n := by
  have ⟨failure, s, hc, he⟩ := run_course keys settings broken k c
  rw [he] at h
  cases succeeded_of_conclude h ho
  cases hc
  case done _ _ hd' _ hw _ _ =>
    cases hd.symm.trans hd'
    exact hw

theorem nonempty_of_get {id : Int} (hr : k.records? kind = some records)
    (h : ((get kind id).run keys settings broken k).result = .ok o) (ho : o.ok = true) :
    ∃ r, Slot.find? records id = some r ∧ r.isEmpty = false := by
  have ⟨_, _, hd, _⟩ := write_of_ok h ho
  have ⟨_, _, _, hq, hr', _, hp, _⟩ := decide_write hd
  cases hq
  cases hr.symm.trans hr'
  have ⟨r, hl, hp⟩ := bind_ok_iff.mp hp
  split at hp
  case isTrue => contradiction
  case isFalse hn => exact ⟨r, (Slot.lookup_ok_iff.mp hl).right.right, by simpa using hn⟩

theorem writable_of_list (hc : k.count? kind = some capacity)
    (h : ((list kind).run keys settings broken k).result = .ok o) (ho : o.ok = true) :
    Numeral.isWritable capacity := by
  have ⟨_, _, hd, _⟩ := write_of_ok h ho
  have ⟨_, _, _, hq, _, hn, _, hs⟩ := decide_write hd
  cases hq
  cases hc.symm.trans hn
  exact writable_of_ok hd h ho _ (hs ▸ List.mem_singleton_self _)

theorem retrieves_iff (hs : k.Sound) (hk : k.Reports kind records capacity)
    (hf : Slot.find? records r.id = some r) :
    k.Retrieves kind r ↔ r.isEmpty = false ∧ Numeral.isWritable capacity := by
  constructor
  case mp =>
    intro h
    have ⟨_, hg, hgo, _⟩ := h.got KeyTable.blank {}
    have ⟨_, hl, hlo, _⟩ := h.listed KeyTable.blank {}
    have ⟨r', hf', he⟩ := nonempty_of_get hk.records hg hgo
    cases hf.symm.trans hf'
    exact ⟨he, writable_of_list hk.count hl hlo⟩
  case mpr =>
    rintro ⟨he, hw⟩
    have ho : k.Occupied kind r := ⟨⟨records, hk.records, hf⟩, he⟩
    exact ho.retrieves hs hk.count hw

theorem kind_of_isEmpty (hc : c.verb = "add") (hd : ∀ kind r, c ≠ addRecord kind r)
    (hq : c.request keys settings = .ok (.add record)) (he : record.isEmpty = true) :
    c.kind = .tapDance ∨ c.kind = .keyOverride := by
  cases c
  case add =>
    have ⟨r, hr, hq⟩ := map_ok_iff.mp hq
    cases hq
    exact Definition.kind_of_isEmpty hr he
  case addKeyOverride => exact .inr rfl
  case addCombo =>
    have ⟨_, hr, hq⟩ := map_ok_iff.mp hq
    cases hq
    simp [Definition.isEmpty_readCombo hr] at he
  case addRecord => exact (hd _ _ rfl).elim
  all_goals simp [verb] at hc

theorem found_of_add (hc : c.verb = "add") (h : (c.run keys settings broken k).result = .ok o)
    (ho : o.ok = true) :
    ∃ record records capacity, ∃ id : Nat, c.request keys settings = .ok (.add record) ∧
      o.slotId = some (id : Int) ∧ k.count? c.kind = some capacity ∧
      (c.run keys settings broken k).keyboard.Reports c.kind records capacity ∧
      Slot.find? records id = some (record.withId id) := by
  have ⟨record, records, capacity, slot, hq, hr, _, hs, hk⟩ := write_of_add hc h ho
  refine ⟨record, _, capacity, slot, hq, hs, hr.count, ⟨?_, ?_⟩, Slot.find?_put_withId record records slot⟩
  case refine_1 => rw [hk]; exact Keyboard.records?_write_self hr.records _
  case refine_2 => rw [count?_run, hr.count]

-- A record that was added can be read again, and for as long as commands only add and read, exactly if
-- it is not empty. A number of slots that is too long for a message keeps records from being listed.
theorem add_retrieves_iff (hs : k.Sound) (hc : c.verb = "add")
    (h : (c.run keys settings broken k).result = .ok o) (ho : o.ok = true) :
    ∃ record capacity, ∃ id : Nat, c.request keys settings = .ok (.add record) ∧
      o.slotId = some (id : Int) ∧ k.count? c.kind = some capacity ∧
      ((c.run keys settings broken k).keyboard.Retrieves c.kind (record.withId id) ↔
        record.isEmpty = false ∧ Numeral.isWritable capacity) ∧
      ((c.run keys settings broken k).keyboard.Retrieves c.kind (record.withId id) →
        ∀ k', (c.run keys settings broken k).keyboard.Gains k' →
          k'.Retrieves c.kind (record.withId id)) ∧
      ((∀ kind r, c ≠ addRecord kind r) → record.isEmpty = true →
        c.kind = .tapDance ∨ c.kind = .keyOverride) := by
  have ⟨record, records, capacity, id, hq, hi, hn, hr, hf⟩ := found_of_add hc h ho
  have hsound : (c.run keys settings broken k).keyboard.Sound := sound_run hs
  have hfd : Slot.find? records (record.withId id).id = some (record.withId id) := by
    rwa [Record.id_withId]
  have hiff := retrieves_iff hsound hr hfd
  rw [Record.isEmpty_withId] at hiff
  refine ⟨record, capacity, id, hq, hi, hn, hiff, fun ht k' hg => ?_, fun hd => kind_of_isEmpty hc hd hq⟩
  have ⟨he, hw⟩ := hiff.mp ht
  have hocc : (c.run keys settings broken k).keyboard.Occupied c.kind (record.withId id) :=
    ⟨⟨records, hr.records, hfd⟩, by rw [Record.isEmpty_withId, he]⟩
  have ⟨hs', ho', hc'⟩ := hg.occupied hsound hocc
  exact ho'.retrieves hs' (hc'.trans hr.count) hw

end Command

def KeyTable.idle : KeyTable where
  codes := [("KC_NO", 0), ("KC_A", 4)]
  names := [(0, "KC_NO"), (4, "KC_A")]

namespace Command

def addIdle : Command := add .tapDance "TAP(KC_NO)"
def addUseful : Command := add .tapDance "TAP(KC_A)"

theorem request_addIdle : addIdle.request KeyTable.idle {} = .ok (.add (.tapDance {})) := by
  have hc : "TAP(KC_NO)".toList = ['T', 'A', 'P', '(', 'K', 'C', '_', 'N', 'O', ')'] := by decide
  rw [addIdle, request, Definition.readRecord, Definition.readTapDance, hc]
  rfl

theorem request_addUseful : addUseful.request KeyTable.idle {} = .ok (.add (.tapDance { tap := 4 })) := by
  have hc : "TAP(KC_A)".toList = ['T', 'A', 'P', '(', 'K', 'C', '_', 'A', ')'] := by decide
  rw [addUseful, request, Definition.readRecord, Definition.readTapDance, hc]
  rfl

theorem addUseful_retrieves :
    ∃ o, (addUseful.run KeyTable.idle {} {} (.vacant .tapDance)).result = .ok o ∧ o.ok = true ∧
      (addUseful.run KeyTable.idle {} {} (.vacant .tapDance)).keyboard.Retrieves .tapDance
        (.tapDance { tap := 4 }) := by
  have ⟨o, h, ho, hs, _⟩ := run_vacant request_addUseful
  have ⟨record, capacity, id, hq, hi, hn, hiff, _⟩ :=
    add_retrieves_iff (Keyboard.sound_vacant .tapDance) rfl h ho
  cases request_addUseful.symm.trans hq
  cases hs.symm.trans hi
  cases (Keyboard.reports_vacant .tapDance).count.symm.trans hn
  exact ⟨o, h, ho, hiff.mpr ⟨by decide, by decide +kernel⟩⟩

-- A tap-dance that does nothing is added with success. But it cannot be read, and its slot counts as
-- free for the next one.
theorem addIdle_loses :
    ∃ o, (addIdle.run KeyTable.idle {} {} (.vacant .tapDance)).result = .ok o ∧ o.ok = true ∧
      o.slotId = some 0 ∧
      (∀ o', ((get .tapDance 0).run KeyTable.idle {} {}
        (addIdle.run KeyTable.idle {} {} (.vacant .tapDance)).keyboard).result = .ok o' → o'.ok = false) ∧
      (∃ o', ((list .tapDance).run KeyTable.idle {} {}
        (addIdle.run KeyTable.idle {} {} (.vacant .tapDance)).keyboard).result = .ok o' ∧ o'.ok = true ∧
          o'.records = []) ∧
      ∃ o', (addUseful.run KeyTable.idle {} {}
        (addIdle.run KeyTable.idle {} {} (.vacant .tapDance)).keyboard).result = .ok o' ∧ o'.ok = true ∧
          o'.slotId = some 0 := by
  have ⟨o, h, ho, hs, hr⟩ := run_vacant request_addIdle
  refine ⟨o, h, ho, hs, ?_, ?_, ?_⟩
  case refine_1 =>
    intro o' hg
    rw [← Bool.not_eq_true]
    intro ho'
    have ⟨r, hf, he⟩ := nonempty_of_get hr.records hg ho'
    cases hf
    contradiction
  case refine_2 => exact ⟨_, run_list hr (by decide +kernel), rfl, rfl⟩
  case refine_3 =>
    have hf : Slot.firstEmpty .tapDance [.tapDance {}] 1 = .ok 0 := rfl
    have ⟨o', h', ho', hs', _⟩ := run_add request_addUseful hr hf
    exact ⟨o', h', ho', hs'⟩

end Command
end KeySlots
