import KeySlots.Proofs.Record.Schema

namespace KeySlots

open Schema Checked

namespace Record

def patched (patch : Fields) : Record → Checked Record
  | keyMacro m =>
    keyMacro <$> (Macro.mk <$> optional patch "id" m.id natural <*>
      optional patch "actions" m.actions (array Action.check))
  | tapDance t =>
    tapDance <$> (TapDance.mk <$> optional patch "id" t.id natural <*>
      optional patch "tap" t.tap integer <*> optional patch "hold" t.hold integer <*>
      optional patch "doubletap" t.doubleTap integer <*>
      optional patch "taphold" t.tapHold integer <*> optional patch "term_ms" t.term natural)
  | keyOverride o =>
    keyOverride <$> (KeyOverride.mk <$> optional patch "id" o.id natural <*>
      optional patch "trigger" o.trigger integer <*>
      optional patch "replacement" o.replacement integer <*>
      optional patch "layers" o.layers (bits 16) <*>
      optional patch "trigger_mods" o.triggerMods (bits 8) <*>
      optional patch "negative_mods" o.negativeMods (bits 8) <*>
      optional patch "suppressed_mods" o.suppressedMods (bits 8) <*>
      optional patch "enabled" o.enabled boolean)
  | combo c =>
    combo <$> (Combo.mk <$> optional patch "id" c.id natural <*>
      optional patch "trigger_keys" c.triggers Combo.checkTriggers <*>
      optional patch "action_key" c.action integer <*> optional patch "term" c.term natural <*>
      optional patch "enabled" c.enabled boolean)

def default : Kind → Record
  | .keyMacro    => keyMacro {}
  | .tapDance    => tapDance {}
  | .keyOverride => keyOverride {}
  | .combo       => combo {}

theorem checkFields_eq (kind : Kind) (fields : Fields) :
    checkFields kind fields = (default kind).patched fields := by
  cases kind <;> rfl

end Record

namespace Schema

@[simp]
theorem integer_int (n : Int) : integer (.int n) = .accepted n :=
  rfl

@[simp]
theorem boolean_bool (b : Bool) : boolean (.bool b) = .accepted b :=
  rfl

theorem optional_merge {α : Type} {fields patch : Fields} {name : String} {v : Json} {own : α}
    {check : Check α} (hg : Entries.get? fields name = some v) (hc : check v = .accepted own) (dflt : α) :
    optional (fields.merge patch) name dflt check = optional (Entries.ofPairs patch) name own check := by
  rw [Schema.optional, Schema.optional, Entries.get?_merge, Entries.get?_ofPairs, hg]
  cases Entries.get? patch.reverse name
  case none => simp [hc, under]
  case some => rfl

end Schema

namespace Record

-- To dump a record, put a patch over its fields and read all of it anew comes to reading the patch alone.
theorem checkFields_merge (r : Record) (patch : Fields) :
    checkFields r.kind (r.fields.merge patch) = r.patched (Entries.ofPairs patch) := by
  cases r <;> simp only [kind, checkFields, patched]
  case keyMacro m =>
    rw [optional_merge rfl (natural_int m.id), optional_merge rfl (items_map Action.check_fields 0 m.actions)]
  case tapDance t =>
    rw [optional_merge rfl (natural_int t.id), optional_merge rfl (integer_int t.tap),
      optional_merge rfl (integer_int t.hold), optional_merge rfl (integer_int t.doubleTap),
      optional_merge rfl (integer_int t.tapHold), optional_merge rfl (natural_int t.term)]
  case keyOverride o =>
    rw [optional_merge rfl (natural_int o.id), optional_merge rfl (integer_int o.trigger),
      optional_merge rfl (integer_int o.replacement), optional_merge rfl (bits_int o.layers),
      optional_merge rfl (bits_int o.triggerMods), optional_merge rfl (bits_int o.negativeMods),
      optional_merge rfl (bits_int o.suppressedMods), optional_merge rfl (boolean_bool o.enabled)]
  case combo c =>
    rw [optional_merge rfl (natural_int c.id),
      optional_merge rfl (Combo.checkTriggers_toList c.triggers),
      optional_merge rfl (integer_int c.action), optional_merge rfl (natural_int c.term),
      optional_merge rfl (boolean_bool c.enabled)]

theorem patched_nil (r : Record) : r.patched [] = .accepted r := by
  cases r <;> rfl

theorem check_toJson (r : Record) : check r.kind r.toJson = .accepted r :=
  (r.checkFields_merge []).trans r.patched_nil

end Record

namespace Schema.Checked

variable {α β : Type}

def value? : Checked α → Option α
  | accepted a => some a
  | rejected _ => none

def IsAccepted (x : Checked α) : Prop :=
  x.Accepts fun _ => True

theorem isAccepted_map {g : α → β} {x : Checked α} : (g <$> x).IsAccepted ↔ x.IsAccepted :=
  accepts_map

theorem isAccepted_seq {g : Checked (α → β)} {x : Checked α} :
    (g <*> x).IsAccepted ↔ g.IsAccepted ∧ x.IsAccepted := by
  cases g <;> cases x <;> simp [IsAccepted, Accepts, Seq.seq, ap]

end Schema.Checked

namespace Schema

variable {α : Type} {fields more : Fields} {name : String} {own other a b : α} {check : Check α}

theorem isAccepted_optional :
    (optional fields name own check).IsAccepted ↔
      ∀ v, fields.get? name = some v → (check v).IsAccepted := by
  rw [Schema.optional]
  cases fields.get? name <;> simp [IsAccepted, Accepts]

-- What is shown of a field that was read is known from the value that is given for it or, if there is
-- none, from what was shown of it before. So it goes on from field to field.
theorem get?_shown_congr {key : String} {before before' after after' : Fields} (shown : α → Json)
    (ha : optional fields name own check = .accepted a) (hb : optional more name other check = .accepted b)
    (hg : fields.get? key = more.get? key)
    (ho : fields.get? key = none →
      Entries.get? ((name, shown own) :: before) key = Entries.get? ((name, shown other) :: before') key)
    (hn : (fields.get? key = none → Entries.get? before key = Entries.get? before' key) →
      Entries.get? after key = Entries.get? after' key) :
    Entries.get? ((name, shown a) :: after) key = Entries.get? ((name, shown b) :: after') key := by
  simp only [Entries.get?_cons] at ho ⊢
  split
  case isTrue h =>
    rw [Schema.optional, ← h] at ha hb
    rw [← hg] at hb
    cases hk : fields.get? key <;> simp only [hk, accepted.injEq, under_eq_accepted] at ha hb
    case none   => simpa only [h, if_pos, ha, hb] using ho hk
    case some v => rw [accepted.inj (ha.symm.trans hb)]
  case isFalse h => exact hn (by simpa only [if_neg h] using ho)

end Schema

namespace Record

variable {r s r' s' : Record} {patch other : Fields} {name : String}

theorem forall_single_iff {field : String} {P : Json → Prop} :
    (∀ name v, Entries.get? patch name = some v →
        ∀ w, Entries.get? [(name, v)] field = some w → P w) ↔
      ∀ v, Entries.get? patch field = some v → P v := by
  constructor
  case mp => exact fun h v hv => h field v hv v (by simp [Entries.get?_cons])
  case mpr =>
    intro h name v hv w hw
    rw [Entries.get?_cons] at hw
    split at hw
    case isTrue he =>
      cases hw
      exact h v (he ▸ hv)
    case isFalse => cases hw

theorem isAccepted_patched_iff :
    (r.patched patch).IsAccepted ↔
      ∀ name v, patch.get? name = some v → (checkFields r.kind [(name, v)]).IsAccepted := by
  cases r <;>
    simp only [checkFields_eq, kind, default, patched, isAccepted_map, isAccepted_seq, isAccepted_optional,
      imp_and, forall_and, forall_single_iff]

theorem get?_fields_congr (hk : r.kind = s.kind) (hr : r.patched patch = .accepted r')
    (hs : s.patched other = .accepted s') (hg : patch.get? name = other.get? name)
    (ho : patch.get? name = none → r.fields.get? name = s.fields.get? name) :
    r'.fields.get? name = s'.fields.get? name := by
  cases r <;> cases s <;> cases hk <;>
    simp only [patched, eq_accepted_iff, accepts_map, accepts_seq] at hr hs
  case keyMacro.keyMacro =>
    obtain ⟨id, hi, actions, ha, rfl⟩ := hr
    obtain ⟨id', hi', actions', ha', rfl⟩ := hs
    refine get?_shown_congr (fun n : Nat => .int n) hi hi' hg ho fun ho => ?_
    exact get?_shown_congr (fun actions : List Action => .array (actions.map fun a => .object a.fields))
      ha ha' hg ho fun _ => rfl
  case tapDance.tapDance =>
    obtain ⟨id, hi, tap, ht, hold, hh, double, hd, tapHold, hth, term, htm, rfl⟩ := hr
    obtain ⟨id', hi', tap', ht', hold', hh', double', hd', tapHold', hth', term', htm', rfl⟩ := hs
    refine get?_shown_congr (fun n : Nat => .int n) hi hi' hg ho fun ho => ?_
    refine get?_shown_congr .int ht ht' hg ho fun ho => ?_
    refine get?_shown_congr .int hh hh' hg ho fun ho => ?_
    refine get?_shown_congr .int hd hd' hg ho fun ho => ?_
    refine get?_shown_congr .int hth hth' hg ho fun ho => ?_
    exact get?_shown_congr (fun n : Nat => .int n) htm htm' hg ho fun _ => rfl
  case keyOverride.keyOverride =>
    obtain ⟨id, hi, trigger, ht, replacement, hp, layers, hl, mods, hm, negative, hn, suppressed, hu,
      enabled, he, rfl⟩ := hr
    obtain ⟨id', hi', trigger', ht', replacement', hp', layers', hl', mods', hm', negative', hn',
      suppressed', hu', enabled', he', rfl⟩ := hs
    refine get?_shown_congr (fun n : Nat => .int n) hi hi' hg ho fun ho => ?_
    refine get?_shown_congr .int ht ht' hg ho fun ho => ?_
    refine get?_shown_congr .int hp hp' hg ho fun ho => ?_
    refine get?_shown_congr (fun x : Layers => .int x.toNat) hl hl' hg ho fun ho => ?_
    refine get?_shown_congr (fun x : Modifiers => .int x.toNat) hm hm' hg ho fun ho => ?_
    refine get?_shown_congr (fun x : Modifiers => .int x.toNat) hn hn' hg ho fun ho => ?_
    refine get?_shown_congr (fun x : Modifiers => .int x.toNat) hu hu' hg ho fun ho => ?_
    exact get?_shown_congr .bool he he' hg ho fun _ => rfl
  case combo.combo =>
    obtain ⟨id, hi, triggers, ht, action, ha, term, htm, enabled, he, rfl⟩ := hr
    obtain ⟨id', hi', triggers', ht', action', ha', term', htm', enabled', he', rfl⟩ := hs
    refine get?_shown_congr (fun n : Nat => .int n) hi hi' hg ho fun ho => ?_
    refine get?_shown_congr (fun x : Combo.Triggers => .array (x.toList.map .int)) ht ht' hg ho fun ho => ?_
    refine get?_shown_congr .int ha ha' hg ho fun ho => ?_
    refine get?_shown_congr (fun n : Nat => .int n) htm htm' hg ho fun ho => ?_
    exact get?_shown_congr .bool he he' hg ho fun _ => rfl

end Record

namespace Slot

variable {r new : Record} {patch : Patch}

theorem merge_ok_iff_patched :
    merge r patch = .ok new ↔ r.patched (Entries.ofPairs patch) = .accepted new := by
  rw [merge_ok_iff, Record.checkFields_merge]

end Slot
end KeySlots
