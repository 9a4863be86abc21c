import KeySlots.Proofs.Command.Ending
import KeySlots.Proofs.Command.KeyOverride
import KeySlots.Proofs.Definition.Content
import KeySlots.Proofs.Record.Patched
import KeySlots.Proofs.Slot.Patch

namespace KeySlots

open Session

variable {κ : Type} [KeyCodec κ]

variable {kind : Kind} {record other new : Record}

-- The record after a redefinition: it stays in its slot, and a combo keeps its term and its switch.
def Record.redefined (record new : Record) : Record :=
  match record, new with
  | combo c, combo d => combo { d with id := c.id, term := c.term, enabled := c.enabled }
  | _, _ => new.withId record.id

theorem Record.kind_redefined (record new : Record) : (record.redefined new).kind = new.kind := by
  cases record <;> cases new <;> rfl

theorem Record.fields_redefined (h : record.kind = new.kind) :
    record.fields.merge (Command.redefinition new) = (record.redefined new).fields := by
  cases record <;> cases new <;> cases h <;> rfl

namespace Slot

theorem merge_redefinition (h : record.kind = new.kind) :
    merge record (Command.redefinition new) = .ok (record.redefined new) := by
  have hk : record.kind = (record.redefined new).kind := h.trans (record.kind_redefined new).symm
  rw [merge_ok_iff, Record.fields_redefined h, hk]
  exact (record.redefined new).check_toJson

theorem checkPatch_redefinition (id : Int) (new : Record) :
    checkPatch new.kind id (Command.redefinition new) = .ok () := by
  have hs : keepsSlot id (Command.redefinition new) := by cases new <;> rfl
  have he : Entries.erase (Command.redefinition new) "id" = Command.redefinition new := by
    cases new <;> rfl
  have hu : unknownFields new.kind (Command.redefinition new) = [] := by
    rw [unknownFields_eq_nil_iff, ← new.map_fst_fields]
    exact fun name hn => List.map_subset _ (List.filter_sublist.subset) hn
  rw [checkPatch_eq, if_pos hs, hu, he, merge_redefinition (Record.kind_sentinel ..)]
  rfl

end Slot

theorem Keyboard.write_write (k : Keyboard) (kind : Kind) (h : record.id = other.id) :
    (k.write kind record).write kind other = k.write kind other := by
  simp [write, records?, Entries.put_put, Slot.put_put h]

namespace Definition

variable {keys : κ} {settings : Settings} {first second : String} {maxTriggers : Given}
  {term : Nat} {c : Combo} {r : Record}

-- The term that a combo is read with is that of its record and decides on nothing else.
theorem readCombo_term (keys : κ) (definition : String) (maxTriggers : Given)
    (term other : Nat) :
    readCombo keys definition maxTriggers (.int other) =
      (readCombo keys definition maxTriggers (.int term)).map fun c => { c with term := other } := by
  simp only [readCombo, readTerm_ok]
  split
  case h_2 => rfl
  case h_1 group action _ =>
    split
    case isTrue => rfl
    case isFalse =>
      cases maxTriggers.isBelow (Text.pieces '+' group).length
      case error => rfl
      case ok below =>
        cases below
        case true => rfl
        case false =>
          cases (Text.pieces '+' group).mapM (readTrigger keys)
          case error => rfl
          case ok codes =>
            cases resolve keys .comboAction (String.ofList action)
            case error => rfl
            case ok action =>
              simp only [bind, Except.bind]
              cases Combo.Triggers.ofList? codes <;> rfl

theorem fresh_of_readCombo (h : readCombo keys first maxTriggers (.int term) = .ok c) :
    c.term = term ∧ c.enabled = true := by
  obtain ⟨_, _, _, _, _, _, _, _, _, ht, _, he⟩ := readCombo_ok_iff.mp h
  exact ⟨Except.ok.inj (ht.symm.trans (readTerm_ok term)), he⟩

theorem redefined_of_read (hk : kind ≠ .keyOverride)
    (hf : readRecord keys settings.context kind first = .ok record)
    (hs : readRecord keys settings.context kind second = .ok r) :
    ∃ new, readRecord keys { settings.context with comboTerm := .int 50 } kind second = .ok new ∧
      ∀ id, (record.withId id).redefined new = r.withId id := by
  cases kind
  case keyMacro | tapDance =>
    obtain ⟨_, _, he⟩ := map_ok_iff.mp hf
    obtain ⟨_, _, he'⟩ := map_ok_iff.mp hs
    subst he he'
    exact ⟨_, hs, fun id => rfl⟩
  case keyOverride => exact (hk rfl).elim
  case combo =>
    obtain ⟨c, hc, he⟩ := map_ok_iff.mp hf
    obtain ⟨d, hd, he'⟩ := map_ok_iff.mp hs
    subst he he'
    obtain ⟨hct, hce⟩ := fresh_of_readCombo hc
    obtain ⟨hdt, hde⟩ := fresh_of_readCombo hd
    refine ⟨.combo { d with term := 50 }, ?_, fun id => ?_⟩
    case refine_1 =>
      have hd' : readCombo keys second settings.context.maxTriggers (.int settings.comboTerm) = .ok d := hd
      change (readCombo keys second settings.context.maxTriggers (.int (50 : Nat))).map
        Record.combo = _
      rw [readCombo_term _ _ _ settings.comboTerm 50, hd']
      rfl
    case refine_2 => simp [Record.withId, Record.redefined, hct, hce, hdt, ← hde]

end Definition

namespace Command

variable {keys : κ} {settings : Settings} {broken : Breakdowns} {k : Keyboard} {c : Command}
  {first second : String} {kind : Kind} {record new r : Record} {records : List Record}
  {o : Outcome} {capacity id : Int}

theorem run_of_add {slot : Nat} (hq : c.request keys settings = .ok (.add r))
    (hk : k.Reports c.kind records capacity) (hf : Slot.firstEmpty c.kind records capacity = .ok slot) :
    (c.run keys settings {} k).keyboard = k.write c.kind (r.withId slot) := by
  have hp : (Request.add r).plan c.kind records capacity = .ok [r.withId slot] :=
    map_ok_iff.mpr ⟨slot, hf, rfl⟩
  rw [run_unbroken, plan_of_request hq hk hp]
  rfl

theorem request_editDefinition (id : Int) (hk : kind ≠ .keyOverride)
    (hn : Definition.readRecord keys { settings.context with comboTerm := .int 50 } kind second =
      .ok new) :
    (editDefinition kind id second).request keys settings = .ok (.edit id (redefinition new)) := by
  have hc := Slot.checkPatch_redefinition id new
  rw [Definition.kind_of_readRecord hn] at hc
  rw [request, if_neg hk]
  exact bind_ok_iff.mpr ⟨new, hn, bind_ok_iff.mpr ⟨(), hc, rfl⟩⟩

theorem run_of_redefinition (hq : c.request keys settings = .ok (.edit id (redefinition new)))
    (hk : k.Reports c.kind records capacity)
    (hl : Slot.lookup c.kind records capacity id = .ok record) (hn : record.kind = new.kind) :
    (c.run keys settings {} k).keyboard = k.write c.kind (record.redefined new) := by
  have hp : (Request.edit id (redefinition new)).plan c.kind records capacity =
      .ok [record.redefined new] :=
    bind_ok_iff.mpr ⟨record, hl, bind_ok_iff.mpr ⟨_, Slot.merge_redefinition hn, rfl⟩⟩
  rw [run_unbroken, plan_of_request hq hk hp]
  rfl

-- The last definition of a record counts. To add one and to redefine it comes to adding it as it is
-- defined last.
theorem run_add_editDefinition (hk : kind ≠ .keyOverride)
    (h : ((add kind first).run keys settings {} k).result = .ok o) (ho : o.ok = true)
    (hi : o.slotId = some id)
    (hs : Definition.readRecord keys settings.context kind second = .ok r) :
    let added := (add kind first).run keys settings {} k
    let redefined := (editDefinition kind id second).run keys settings {} added.keyboard
    redefined.keyboard = ((add kind second).run keys settings {} k).keyboard ∧
      ∃ slot : Nat, id = slot ∧ redefined.keyboard = k.write kind (r.withId slot) := by
  intro added redefined
  obtain ⟨record, records, capacity, slot, hq, hr, hf, hsl, hw⟩ := write_of_add rfl h ho
  simp only [Command.kind] at hr hf hw
  cases hsl.symm.trans hi
  obtain ⟨_, hrf, he⟩ := map_ok_iff.mp hq
  cases he
  obtain ⟨new, hrn, hre⟩ := Definition.redefined_of_read hk hrf hs
  have hqa : (add kind second).request keys settings = .ok (.add r) :=
    map_ok_iff.mpr ⟨r, hs, rfl⟩
  have hqe := request_editDefinition slot hk hrn
  have hrw : (k.write kind (record.withId slot)).Reports kind
      (Slot.put (record.withId slot) records) capacity :=
    ⟨Keyboard.records?_write_self hr.records _, hr.count⟩
  have hl : Slot.lookup kind (Slot.put (record.withId slot) records) capacity slot =
      .ok (record.withId slot) :=
    Slot.lookup_ok_iff.mpr ⟨by omega, (Slot.firstEmpty_ok hf).left, Slot.find?_put_withId ..⟩
  have hn : (record.withId slot).kind = new.kind := by
    rw [Record.kind_withId, Definition.kind_of_readRecord hrf, Definition.kind_of_readRecord hrn]
  have hd : redefined.keyboard = k.write kind (r.withId slot) := by
    simp only [redefined, added, hw, run_of_redefinition hqe hrw hl hn, hre]
    exact Keyboard.write_write k kind (by simp)
  exact ⟨hd.trans (run_of_add hqa hr hf).symm, slot, rfl, hd⟩

end Command

def Settings.brisk : Settings :=
  { Settings.lowest with comboTerm := 30 }

namespace Command

theorem readRecord_forth : Definition.readRecord KeyTable.pair Settings.brisk.context .combo "A B" =
    .ok (.combo { triggers := #v[4, 0, 0, 0], action := 5, term := 30 }) := by
  have hc : "A B".toList = ['A', ' ', 'B'] := by decide
  rw [Definition.readRecord, Definition.readCombo, hc]
  rfl

theorem readRecord_back : Definition.readRecord KeyTable.pair Settings.brisk.context .combo "A+B A" =
    .ok (.combo { triggers := #v[4, 5, 0, 0], action := 4, term := 30 }) := by
  have hc : "A+B A".toList = ['A', '+', 'B', ' ', 'A'] := by decide
  rw [Definition.readRecord, Definition.readCombo, hc]
  rfl

theorem run_add_editDefinition_brisk :
    let added := (add .combo "A B").run KeyTable.pair .brisk {} (.vacant .combo)
    let redefined := (editDefinition .combo 0 "A+B A").run KeyTable.pair .brisk {} added.keyboard
    redefined.keyboard = ((add .combo "A+B A").run KeyTable.pair .brisk {} (.vacant .combo)).keyboard ∧
      redefined.keyboard.records? .combo =
        some [.combo { triggers := #v[4, 5, 0, 0], action := 4, term := 30 }] := by
  intro added redefined
  have hq : (add .combo "A B").request KeyTable.pair .brisk = .ok (.add _) :=
    map_ok_iff.mpr ⟨_, readRecord_forth, rfl⟩
  obtain ⟨o, ho, hok, hi, _⟩ := run_vacant hq
  obtain ⟨he, slot, hs, hk⟩ := run_add_editDefinition (by decide) ho hok hi readRecord_back
  cases Int.ofNat_inj.mp hs
  have hr := congrArg (fun k : Keyboard => k.records? .combo) hk
  exact ⟨he, hr.trans rfl⟩

end Command
end KeySlots
