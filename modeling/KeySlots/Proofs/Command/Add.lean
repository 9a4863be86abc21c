import KeySlots.Proofs.Command.Reach

namespace KeySlots.Command

open Session

variable {κ : Type} [KeyCodec κ] {keys : κ} {settings : Settings} {broken : Breakdowns}
  {k : Keyboard} {c : Command}
  {o : Outcome}

theorem asks_add {request : Request} (hc : c.verb = "add") (ha : c.Asks request) :
    ∃ record, request = .add record ∧ record.kind = c.kind := by
  cases c
  case add | addKeyOverride | addCombo | addRecord => exact ha
  all_goals simp [verb] at hc

theorem verb_of_add {record : Record} (h : c.request keys settings = .ok (.add record)) :
    c.verb = "add" := by
  have ha := asks_of_request h
  cases c
  case add | addKeyOverride | addCombo | addRecord => rfl
  all_goals simp [Asks] at ha

-- A command that adds a record and succeeds has put it into the first free slot. It did so at no cost
-- if and only if look-up finds nothing or an empty record there, as it does if the slot is not repeated.
theorem add_spares_iff (hc : c.verb = "add") (h : (c.run keys settings broken k).result = .ok o)
    (ho : o.ok = true) :
    ∃ records capacity record, k.Reports c.kind records capacity ∧
      c.plan keys settings k = [record] ∧ o.committed = [(record.id : Int)] ∧
      Slot.firstEmpty c.kind records capacity = .ok record.id ∧
      (c.run keys settings broken k).keyboard.records? c.kind = some (Slot.put record records) ∧
      (∀ other, other ≠ c.kind →
        (c.run keys settings broken k).keyboard.records? other = k.records? other) ∧
      (Slot.Spares records record ↔ (Slot.find? records record.id).all (·.isEmpty)) ∧
      ((records.filter (·.id = record.id)).length ≤ 1 → Slot.Spares records record) := by
  have ⟨plan, reported, hd, hk, hm⟩ := write_of_ok h ho
  have ⟨request, records, capacity, hq, hr, hn, hp, _⟩ := decide_write hd
  obtain ⟨record, rfl, _⟩ := asks_add hc (asks_of_request hq)
  have ⟨id, hf, he⟩ := Request.plan_add hp
  subst he
  refine ⟨records, capacity, record.withId id, ⟨hr, hn⟩, ?_, by simpa using hm, by simpa using hf, ?_, ?_,
    Slot.spares_iff, fun hs => Slot.spares_iff.mpr ?_⟩
  case refine_1 => rw [Command.plan, hd]; rfl
  case refine_2 => rw [hk, Keyboard.records?_writeAll_self hr]; rfl
  case refine_3 => exact fun other hne => by rw [hk, Keyboard.records?_writeAll_of_ne hne]
  case refine_4 =>
    rw [← Slot.latest?_eq_find? hs, Record.id_withId]
    exact (Slot.firstEmpty_ok hf).right

theorem ok_of_write {record : Record} (h : c.decide keys settings k = .write [record] []) :
    ∃ o, (c.run keys settings {} k).result = .ok o ∧ o.ok = true ∧
      (c.run keys settings {} k).keyboard = k.write c.kind record := by
  have hb : Breakdowns.Opens {} := ⟨rfl, rfl⟩
  have ⟨_, s, hr, ho, hs⟩ := run_of_write h hb ⟨fun _ _ => rfl, fun _ _ => rfl⟩ nofun
  exact ⟨s.outcome, by rw [hr]; rfl, ho, by rw [hr, keyboard_conclude, hs.keyboard]; rfl⟩

def addTap : Command :=
  addRecord .keyMacro (.keyMacro { actions := [.tap 5] })

theorem single_add :
    ∃ o, (addTap.run KeyTable.blank {} {} .single).result = .ok o ∧ o.ok = true ∧ o.committed = [0] := by
  have hd : addTap.decide KeyTable.blank {} .single = .write [.keyMacro { actions := [.tap 5] }] [] := rfl
  have ⟨o, h, ho, _⟩ := ok_of_write hd
  have ⟨_, _, _, _, hp, hm, _⟩ := add_spares_iff rfl h ho
  rw [Command.plan, hd] at hp
  cases hp
  exact ⟨o, h, ho, hm⟩

-- Of two records in one slot, the first is lost if the second is empty.
theorem doubled_add_loses :
    ∃ o, (addTap.run KeyTable.blank {} {} .doubled).result = .ok o ∧ o.ok = true ∧
      Keyboard.doubled.records? .keyMacro =
        some [.keyMacro { actions := [.tap 4] }, .keyMacro {}] ∧
      (addTap.run KeyTable.blank {} {} .doubled).keyboard.records? .keyMacro =
        some [.keyMacro { actions := [.tap 5] }, .keyMacro {}] := by
  have hd : addTap.decide KeyTable.blank {} .doubled = .write [.keyMacro { actions := [.tap 5] }] [] := rfl
  have ⟨o, h, ho, hk⟩ := ok_of_write hd
  exact ⟨o, h, ho, rfl, by rw [hk]; rfl⟩

end KeySlots.Command
