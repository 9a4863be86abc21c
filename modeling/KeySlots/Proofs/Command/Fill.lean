import KeySlots.Proofs.Command.Ending
import KeySlots.Proofs.Command.Retrieve
import KeySlots.Proofs.Slot.Occupied

namespace KeySlots

open Session Slot

variable {κ : Type} [KeyCodec κ]

structure Command.Adds (keys : κ) (settings : Settings) (kind : Kind) (c : Command)
    (record : Record) : Prop where
  kind     : c.kind = kind
  request  : c.request keys settings = .ok (.add record)
  nonempty : record.isEmpty = false

-- What is left of a run that was to add a record where these slots were free: it is in the first one, or
-- there was none, which is reported unless the number of slots is negative and too long.
structure Session.Ending.Places (e : Ending) (k : Keyboard) (kind : Kind) (capacity : Int)
    (free : List Nat) (record : Record) : Prop where
  placed    : ∀ slot ∈ free.head?, ∃ o, e.result = .ok o ∧ o.ok = true ∧ o.slotId = some (slot : Int)
  exhausted : free = [] →
    (Numeral.isWritable (min capacity 0) → e.FailsWith (.refused (.slotsExhausted kind capacity))) ∧
      (¬Numeral.isWritable (min capacity 0) → e.FailsWith (.faulted .unwritableNumber)) ∧
      e.keyboard = k

-- What the keyboard `k` has become, of which these slots were free, since records were added.
structure Keyboard.Filled (k' k : Keyboard) (kind : Kind) (capacity : Int) (free : List Nat)
    (added : List Record) : Prop where
  sound   : k'.Sound
  reports : ∃ records, k'.Reports kind records capacity ∧
    freeSlots records capacity = free.drop added.length
  kept    : ∀ other r, k.Occupied other r → k'.Occupied other r
  added   : ∀ (i slot : Nat) (record : Record), free[i]? = some slot → added[i]? = some record →
    k'.Occupied kind (record.withId slot)

variable {keys : κ} {settings : Settings} {k k' : Keyboard} {kind : Kind} {c : Command}
  {record : Record} {records added : List Record} {capacity : Int} {free : List Nat}

namespace Command

theorem run_full (hd : (records.map (·.id)).Nodup) (hk : k.Reports c.kind records capacity)
    (hq : c.request keys settings = .ok (.add record)) (hf : freeSlots records capacity = []) :
    (c.run keys settings {} k).FailsWith (Refusal.slotsExhausted c.kind capacity).failure ∧
      (c.run keys settings {} k).keyboard = k := by
  have hp : (Request.add record).plan c.kind records capacity =
      .error (Refusal.slotsExhausted c.kind capacity).failure := by
    rw [Request.plan, firstEmpty_of_nil hd hf]
    rfl
  have hr : c.decide keys settings k = .refused (Refusal.slotsExhausted c.kind capacity).failure := by
    rw [decide, hq]
    exact Request.decide_error hk.records hk.count hp
  have ho : Breakdowns.Opens {} := ⟨rfl, rfl⟩
  obtain ⟨_, he, hfw⟩ := run_of_refused hr ho
  exact ⟨hfw rfl, he⟩

theorem run_places (hs : k.Sound) (hk : k.Reports kind records capacity)
    (ha : c.Adds keys settings kind record) :
    (c.run keys settings {} k).Places k kind capacity (freeSlots records capacity) record ∧
      ∃ more, (c.run keys settings {} k).keyboard.Reports kind more capacity ∧
        freeSlots more capacity = (freeSlots records capacity).tail ∧
        ∀ slot ∈ (freeSlots records capacity).head?, find? more slot = some (record.withId slot) := by
  obtain ⟨rfl, hq, hne⟩ := ha
  have hd := (hs _ _ _ hk).distinct
  cases hf : freeSlots records capacity
  case nil =>
    obtain ⟨hx, he⟩ := run_full hd hk hq hf
    rw [failure_slotsExhausted_eq] at hx
    have hw (h : Numeral.isWritable (min capacity 0)) := if_pos h ▸ hx
    have hn (h : ¬Numeral.isWritable (min capacity 0)) := if_neg h ▸ hx
    exact ⟨⟨by simp, fun _ => ⟨hw, hn, he⟩⟩, records, by rwa [he], hf, by simp⟩
  case cons slot rest =>
    obtain ⟨o, ho, hok, hsl, hr⟩ := run_add hq hk (firstEmpty_of_cons hd hf)
    refine ⟨⟨?_, by simp⟩, _, ⟨hr, (count?_run ..).trans hk.count⟩, freeSlots_put_first hne hf, ?_⟩
    case refine_1 => simpa using ⟨o, ho, hok, hsl⟩
    case refine_2 => simpa using find?_put_withId record records slot

end Command

namespace Keyboard

theorem filled_self (hs : k.Sound) (hk : k.Reports kind records capacity) :
    k.Filled k kind capacity (freeSlots records capacity) [] where
  sound   := hs
  reports := ⟨records, hk, rfl⟩
  kept    := fun _ _ h => h
  added   := nofun

theorem Filled.run (h : k'.Filled k kind capacity free added) (ha : c.Adds keys settings kind record) :
    (c.run keys settings {} k').Places k' kind capacity (free.drop added.length) record ∧
      (c.run keys settings {} k').keyboard.Filled k kind capacity free (added ++ [record]) := by
  have ⟨records, hk, hf⟩ := h.reports
  have ⟨hp, more, hm, hfm, hr⟩ := Command.run_places h.sound hk ha
  rw [hf] at hp hfm hr
  have hv := Command.verb_of_add ha.request
  have hkept {other r} (ho : k'.Occupied other r) :
      (c.run keys settings {} k').keyboard.Occupied other r :=
    Command.occupied_run ho h.sound (by simp [hv]) (by simp [hv])
  refine ⟨hp, ?_⟩
  constructor
  case sound   => exact Command.sound_run h.sound
  case reports => exact ⟨more, hm, by simp [hfm]⟩
  case kept    => exact fun other r ho => hkept (h.kept other r ho)
  case added =>
    intro i slot r hi hr'
    by_cases hl : i < added.length
    case pos =>
      rw [List.getElem?_append_left hl] at hr'
      exact hkept (h.added i slot r hi hr')
    case neg =>
      rw [List.getElem?_append_right (Nat.le_of_not_lt hl)] at hr'
      obtain ⟨he, rfl⟩ : i - added.length = 0 ∧ record = r := by
        simpa [List.getElem?_singleton] using hr'
      have hh : (free.drop added.length).head? = some slot := by
        rw [List.head?_drop, ← hi]
        congr 1
        omega
      refine ⟨⟨more, hm.records, ?_⟩, by rw [Record.isEmpty_withId, ha.nonempty]⟩
      rw [Record.id_withId, hr slot hh]

-- By induction on the commands: each one finds the slots free that the ones before it left.
theorem Filled.after {adds : List (Command × Record)} (h : k'.Filled k kind capacity free added)
    (ha : ∀ add ∈ adds, add.1.Adds keys settings kind add.2) :
    (k'.after keys settings (adds.map fun add => ({}, add.1))).Filled k kind capacity free
      (added ++ adds.map (·.2)) := by
  induction adds generalizing k' added
  case nil => exact (List.append_nil added).symm ▸ h
  case cons add adds hi =>
    have ⟨had, ha⟩ := List.forall_mem_cons.mp ha
    rw [List.map_cons, List.map_cons, List.append_cons]
    exact hi (h.run had).right ha

end Keyboard

namespace Command

-- Commands that add records fill the free slots in order. Each record stays where it was put, and so do
-- those from before. When all slots are taken, commands are refused and leave the keyboard as it is; they
-- end with a fault instead if the number of slots is negative and too long to be reported.
theorem runs_fill {adds : List (Command × Record)} (hs : k.Sound) (hk : k.Reports kind records capacity)
    (ha : ∀ add ∈ adds, add.1.Adds keys settings kind add.2) (hc : c.Adds keys settings kind record) :
    let k' := k.after keys settings (adds.map fun add => ({}, add.1))
    let e := c.run keys settings {} k'
    let free := freeSlots records capacity
    (∀ slot, free[adds.length]? = some slot →
      ∃ o, e.result = .ok o ∧ o.ok = true ∧ o.slotId = some (slot : Int)) ∧
    (free.length ≤ adds.length →
      (Numeral.isWritable (min capacity 0) → e.FailsWith (.refused (.slotsExhausted kind capacity))) ∧
        (¬Numeral.isWritable (min capacity 0) → e.FailsWith (.faulted .unwritableNumber)) ∧
        e.keyboard = k') ∧
    (∀ other r, k.Occupied other r → e.keyboard.Occupied other r) ∧
    ∀ (i slot : Nat) (add : Command × Record), free[i]? = some slot →
      (adds ++ [(c, record)])[i]? = some add → e.keyboard.Occupied kind (add.2.withId slot) := by
  intro k' e free
  have hf : k'.Filled k kind capacity free (adds.map (·.2)) := (Keyboard.filled_self hs hk).after ha
  have ⟨hp, hr⟩ := hf.run hc
  rw [List.length_map] at hp
  refine ⟨fun slot hsl => hp.placed slot ?_, fun hl => hp.exhausted (List.drop_eq_nil_of_le hl), hr.kept,
    fun i slot add hi hadd => hr.added i slot add.2 hi ?_⟩
  case refine_1 => rwa [Option.mem_def, List.head?_drop]
  case refine_2 =>
    have hm : adds.map (·.2) ++ [record] = (adds ++ [(c, record)]).map (·.2) := by simp
    rw [hm, List.getElem?_map, hadd]
    rfl

end Command

namespace Keyboard

def patchy : Keyboard where
  counts := [(.keyMacro, some 4)]
  stored := [(.keyMacro,
    [.keyMacro { id := 3 }, .keyMacro { id := 2, actions := [.tap 4] },
      .keyMacro { actions := [.tap 5] }])]

theorem sound_patchy : patchy.Sound := by
  intro kind records capacity ⟨hr, hc⟩
  cases kind <;> cases hr
  cases hc
  constructor <;> simp [Record.id]

end Keyboard

namespace Command

theorem runs_fill_patchy :
    let k' := Keyboard.patchy.after KeyTable.blank {} [({}, addTap), ({}, addTap)]
    (addTap.run KeyTable.blank {} {} k').FailsWith (.refused (.slotsExhausted .keyMacro 4)) ∧
      (addTap.run KeyTable.blank {} {} k').keyboard = k' ∧
      k'.Occupied .keyMacro (.keyMacro { id := 1, actions := [.tap 5] }) ∧
      k'.Occupied .keyMacro (.keyMacro { id := 3, actions := [.tap 5] }) := by
  have hk : Keyboard.patchy.Reports .keyMacro _ 4 := ⟨rfl, rfl⟩
  have ha : addTap.Adds KeyTable.blank {} .keyMacro (.keyMacro { actions := [.tap 5] }) := ⟨rfl, rfl, rfl⟩
  have has : ∀ add ∈ List.replicate 2 (addTap, Record.keyMacro { actions := [.tap 5] }),
      add.1.Adds KeyTable.blank {} .keyMacro add.2 := by
    simpa using ha
  obtain ⟨-, hx, -, hr⟩ := runs_fill Keyboard.sound_patchy hk has ha
  obtain ⟨hf, -, he⟩ := hx (by decide)
  rw [he] at hr
  exact ⟨hf (by decide +kernel), he, hr 0 1 _ (by decide) rfl, hr 1 3 _ (by decide) rfl⟩

end Command
end KeySlots
