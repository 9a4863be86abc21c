import KeySlots.Proofs.Command.Precheck
import KeySlots.Proofs.Command.Specialised

namespace KeySlots

open Session Schema Slot Checked
open scoped List

variable {κ : Type} [KeyCodec κ]

namespace Schema

theorem toNat_of_bits {width n : Nat} {x : BitVec width} (h : bits width (.int n) = .accepted x) :
    x.toNat = n := by
  simp only [bits, integerBetween, integer, Checked.andThen] at h
  split at h
  case isTrue => cases h
  case isFalse =>
    split at h
    case isTrue => cases h
    case isFalse hn =>
      have hn : n < 2 ^ width := by omega
      have hx : BitVec.ofInt width n = x := accepted.inj h
      rw [← hx, BitVec.ofInt_natCast, BitVec.toNat_ofNat]
      exact Nat.mod_eq_of_lt hn

variable {α β : Type} {fields : Fields} {name : String} {own x : β} {check : Check β}
  {v : Option Json}

theorem elim_given (ho : optional fields name own check = .accepted x) :
    (fields.get? name).elim (x = own) fun v => check v = .accepted x := by
  rw [Schema.optional] at ho
  cases hg : fields.get? name <;> simp only [hg] at ho
  case none => exact (accepted.inj ho).symm
  case some => exact under_eq_accepted.mp ho

theorem elim_of_optional {part : Option α} {is : α → Json → Prop} {P : α → Prop}
    (hr : Option.Rel is part v) (hg : fields.get? name = v)
    (ho : optional fields name own check = .accepted x)
    (hp : ∀ a v, is a v → check v = .accepted x → P a) : part.elim (x = own) P := by
  have ho := elim_given ho
  rw [hg] at ho
  cases hr
  case none   => exact ho
  case some h => exact hp _ _ h ho

end Schema

namespace Slot.Patch

theorem keys_changedSwitch_sublist (name : String) (v : Option Json) :
    (changedSwitch name v).map (·.1) <+ [name] := by
  cases v
  case none   => exact List.nil_sublist _
  case some v => exact List.Sublist.refl _

theorem get?_ofPairs_of_once {patch : Patch} (h : (patch.map (·.1)).Nodup) (name : String) :
    (Entries.ofPairs patch).get? name = patch.get? name := by
  rw [Entries.get?_ofPairs, Entries.get?_reverse h]

end Slot.Patch

namespace OverrideChange

variable {keys : κ} {change : OverrideChange} {patch : Slot.Patch} {field : String} {width : Int}

theorem of_changedKey {token : Option String} (h : changedKey keys field token = .ok patch) :
    ∃ v, Option.Rel (KeyIs keys) token v ∧ patch = changedSwitch field v := by
  cases token
  case none => exact ⟨none, .none, (Except.ok.inj h).symm⟩
  case some token =>
    rw [changedKey] at h
    split at h
    case h_1 code hc => exact ⟨some (.int code), .some ⟨code, hc, rfl⟩, (Except.ok.inj h).symm⟩
    case h_2 => cases h

theorem of_changedMask {given : Option Given} (h : changedMask width field given = .ok patch) :
    ∃ v, Option.Rel (MaskIs width field) given v ∧ patch = changedSwitch field v := by
  cases given
  case none => exact ⟨none, .none, (Except.ok.inj h).symm⟩
  case some given =>
    rw [changedMask] at h
    obtain ⟨mask, hm, he⟩ := bind_ok_iff.mp h
    exact ⟨some (.int mask), .some ⟨mask, hm, rfl⟩, (Except.ok.inj he).symm⟩

theorem resolvedBy_patch (h : change.patch keys = .ok patch) : change.ResolvedBy keys patch := by
  rw [OverrideChange.patch] at h
  obtain ⟨_, ht, h⟩ := bind_ok_iff.mp h
  obtain ⟨_, hr, h⟩ := bind_ok_iff.mp h
  obtain ⟨_, hl, h⟩ := bind_ok_iff.mp h
  obtain ⟨_, hm, h⟩ := bind_ok_iff.mp h
  obtain ⟨_, hn, h⟩ := bind_ok_iff.mp h
  obtain ⟨_, hs, h⟩ := bind_ok_iff.mp h
  obtain ⟨trigger, ht, rfl⟩ := of_changedKey ht
  obtain ⟨replacement, hr, rfl⟩ := of_changedKey hr
  obtain ⟨layers, hl, rfl⟩ := of_changedMask hl
  obtain ⟨mods, hm, rfl⟩ := of_changedMask hm
  obtain ⟨negative, hn, rfl⟩ := of_changedMask hn
  obtain ⟨suppressed, hs, rfl⟩ := of_changedMask hs
  cases h
  have hk : (changedSwitch "trigger" trigger ++ changedSwitch "replacement" replacement ++
      changedSwitch "layers" layers ++ changedSwitch "trigger_mods" mods ++
      changedSwitch "negative_mods" negative ++ changedSwitch "suppressed_mods" suppressed ++
      changedSwitch "enabled" change.enabled).map (·.1) <+ names := by
    simp only [List.map_append]
    exact (((((((Patch.keys_changedSwitch_sublist _ _).append
      (Patch.keys_changedSwitch_sublist _ _)).append (Patch.keys_changedSwitch_sublist _ _)).append
      (Patch.keys_changedSwitch_sublist _ _)).append (Patch.keys_changedSwitch_sublist _ _)).append
      (Patch.keys_changedSwitch_sublist _ _)).append (Patch.keys_changedSwitch_sublist _ _))
  constructor
  case once  => exact List.Nodup.sublist hk (by decide)
  case named => exact fun name hn => hk.subset hn
  case enabled => simp [Entries.get?_append, Patch.get?_changedSwitch]
  all_goals simpa [Entries.get?_append, Patch.get?_changedSwitch]

structure Turns (change : OverrideChange) (keys : κ) (old new : KeyOverride) : Prop where
  id             : new.id = old.id
  trigger        : change.trigger.elim (new.trigger = old.trigger) fun token =>
    KeyCodec.parse keys (Text.trimmed token) = some new.trigger
  replacement    : change.replacement.elim (new.replacement = old.replacement) fun token =>
    KeyCodec.parse keys (Text.trimmed token) = some new.replacement
  layers         : change.layers.elim (new.layers = old.layers) fun given =>
    Definition.readMask 16 "layers" given = .ok new.layers.toNat
  triggerMods    : change.triggerMods.elim (new.triggerMods = old.triggerMods) fun given =>
    Definition.readMask 8 "trigger_mods" given = .ok new.triggerMods.toNat
  negativeMods   : change.negativeMods.elim (new.negativeMods = old.negativeMods) fun given =>
    Definition.readMask 8 "negative_mods" given = .ok new.negativeMods.toNat
  suppressedMods : change.suppressedMods.elim (new.suppressedMods = old.suppressedMods) fun given =>
    Definition.readMask 8 "suppressed_mods" given = .ok new.suppressedMods.toNat
  enabled        : change.enabled.elim (new.enabled = old.enabled) fun v =>
    Schema.boolean v = .accepted new.enabled

theorem key_of_is {token : String} {v : Json} {code : KeyCode} (h : KeyIs keys token v)
    (hc : Schema.integer v = .accepted code) : KeyCodec.parse keys (Text.trimmed token) = some code := by
  obtain ⟨_, hp, rfl⟩ := h
  rw [hp, ← accepted.inj hc]

theorem mask_of_is {bitCount : Nat} {given : Given} {v : Json} {mask : BitVec bitCount}
    (h : MaskIs width field given v) (hc : Schema.bits bitCount v = .accepted mask) :
    Definition.readMask width field given = .ok mask.toNat := by
  obtain ⟨_, hm, rfl⟩ := h
  rw [hm, Schema.toNat_of_bits hc]

theorem turns_of_merge {o : KeyOverride} {new : Record} (h : change.patch keys = .ok patch)
    (hc : checkPatch .keyOverride o.id patch = .ok ()) (hm : merge (.keyOverride o) patch = .ok new) :
    ∃ n, new = .keyOverride n ∧ change.Turns keys o n := by
  have hr := resolvedBy_patch h
  have hi := id_of_merge hm (keepsSlot_of_checkPatch hc)
  have hg := Patch.get?_ofPairs_of_once hr.once
  have hp := merge_ok_iff_patched.mp hm
  rw [Record.patched] at hp
  simp only [eq_accepted_iff, accepts_map, accepts_seq] at hp
  obtain ⟨_, -, _, ht, _, hrp, _, hl, _, htm, _, hn, _, hs, _, he, rfl⟩ := hp
  refine ⟨_, rfl, ?_⟩
  constructor
  case id             => exact hi
  case trigger        => exact elim_of_optional hr.trigger (hg _) ht fun _ _ => key_of_is
  case replacement    => exact elim_of_optional hr.replacement (hg _) hrp fun _ _ => key_of_is
  case layers         => exact elim_of_optional hr.layers (hg _) hl fun _ _ => mask_of_is
  case triggerMods    => exact elim_of_optional hr.triggerMods (hg _) htm fun _ _ => mask_of_is
  case negativeMods   => exact elim_of_optional hr.negativeMods (hg _) hn fun _ _ => mask_of_is
  case suppressedMods => exact elim_of_optional hr.suppressedMods (hg _) hs fun _ _ => mask_of_is
  case enabled        => exact hr.enabled ▸ hg "enabled" ▸ elim_given he

end OverrideChange

namespace ComboChange

variable {keys : κ} {settings : Settings} {change : ComboChange} {patch : Slot.Patch}

def TriggersAre (keys : κ) (settings : Settings) (definition : String) (v : Json) : Prop :=
  ∃ c, Definition.readCombo keys definition (.int settings.maxTriggers) (.int 50) = .ok c ∧
    v = .array (c.triggers.toList.map .int)

def ActionIs (keys : κ) (settings : Settings) (definition : String) (v : Json) : Prop :=
  ∃ c, Definition.readCombo keys definition (.int settings.maxTriggers) (.int 50) = .ok c ∧
    v = .int c.action

def TermIs (given : Given) (v : Json) : Prop :=
  ∃ term : Nat, Definition.readTerm given = .ok term ∧ v = .int term

-- A patch holds just what a change gives, each field once.
structure ResolvedBy (change : ComboChange) (keys : κ) (settings : Settings) (patch : Slot.Patch) :
    Prop where
  once     : (patch.map (·.1)).Nodup
  triggers : Option.Rel (TriggersAre keys settings) change.definition (patch.get? "trigger_keys")
  action   : Option.Rel (ActionIs keys settings) change.definition (patch.get? "action_key")
  term     : Option.Rel TermIs change.term (patch.get? "term")
  enabled  : patch.get? "enabled" = change.enabled

theorem patch_ok (h : change.patch keys settings = .ok patch) :
    ∃ triggers action term, Option.Rel (TriggersAre keys settings) change.definition triggers ∧
      Option.Rel (ActionIs keys settings) change.definition action ∧
      Option.Rel TermIs change.term term ∧
      patch = changedSwitch "trigger_keys" triggers ++ changedSwitch "action_key" action ++
        changedSwitch "term" term ++ changedSwitch "enabled" change.enabled := by
  rw [ComboChange.patch] at h
  cases hd : change.definition <;> cases ht : change.term <;> simp only [hd, ht] at h
  case none.none => exact ⟨none, none, none, .none, .none, .none, (Except.ok.inj h).symm⟩
  case none.some given =>
    obtain ⟨term, hm, h⟩ := bind_ok_iff.mp (show Definition.readTerm given >>= _ = .ok patch from h)
    exact ⟨none, none, some _, .none, .none, .some ⟨term, hm, rfl⟩, (Except.ok.inj h).symm⟩
  case some.none text =>
    obtain ⟨c, hc, h⟩ := bind_ok_iff.mp h
    exact ⟨some _, some _, none, .some ⟨c, hc, rfl⟩, .some ⟨c, hc, rfl⟩, .none, (Except.ok.inj h).symm⟩
  case some.some text given =>
    obtain ⟨c, hc, h⟩ := bind_ok_iff.mp h
    obtain ⟨term, hm, h⟩ := bind_ok_iff.mp (show Definition.readTerm given >>= _ = .ok patch from h)
    exact ⟨some _, some _, some _, .some ⟨c, hc, rfl⟩, .some ⟨c, hc, rfl⟩, .some ⟨term, hm, rfl⟩,
      (Except.ok.inj h).symm⟩

theorem resolvedBy_patch (h : change.patch keys settings = .ok patch) :
    change.ResolvedBy keys settings patch := by
  obtain ⟨triggers, action, term, ht, ha, hm, rfl⟩ := patch_ok h
  have hk : (changedSwitch "trigger_keys" triggers ++ changedSwitch "action_key" action ++
      changedSwitch "term" term ++ changedSwitch "enabled" change.enabled).map (·.1) <+
      ["trigger_keys", "action_key", "term", "enabled"] := by
    simp only [List.map_append]
    exact (((Patch.keys_changedSwitch_sublist _ _).append (Patch.keys_changedSwitch_sublist _ _)).append
      (Patch.keys_changedSwitch_sublist _ _)).append (Patch.keys_changedSwitch_sublist _ _)
  constructor
  case once    => exact List.Nodup.sublist hk (by decide)
  case enabled => simp [Entries.get?_append, Patch.get?_changedSwitch]
  all_goals simpa [Entries.get?_append, Patch.get?_changedSwitch]

structure Turns (change : ComboChange) (keys : κ) (settings : Settings) (old new : Combo) : Prop where
  id      : new.id = old.id
  keys    : change.definition.elim (new.triggers = old.triggers ∧ new.action = old.action) fun text =>
    ∃ c, Definition.readCombo keys text (.int settings.maxTriggers) (.int 50) = .ok c ∧
      new.triggers = c.triggers ∧ new.action = c.action
  term    : change.term.elim (new.term = old.term) fun given =>
    Definition.readTerm given = .ok new.term
  enabled : change.enabled.elim (new.enabled = old.enabled) fun v =>
    Schema.boolean v = .accepted new.enabled

theorem triggers_of_are {definition : String} {v : Json} {triggers : Combo.Triggers}
    (h : TriggersAre keys settings definition v) (hc : Combo.checkTriggers v = .accepted triggers) :
    ∃ c, Definition.readCombo keys definition (.int settings.maxTriggers) (.int 50) = .ok c ∧
      triggers = c.triggers := by
  obtain ⟨c, hr, rfl⟩ := h
  exact ⟨c, hr, accepted.inj (hc.symm.trans (Combo.checkTriggers_toList _))⟩

theorem action_of_is {definition : String} {v : Json} {action : KeyCode}
    (h : ActionIs keys settings definition v) (hc : Schema.integer v = .accepted action) :
    ∃ c, Definition.readCombo keys definition (.int settings.maxTriggers) (.int 50) = .ok c ∧
      action = c.action := by
  obtain ⟨c, hr, rfl⟩ := h
  exact ⟨c, hr, (accepted.inj hc).symm⟩

theorem term_of_is {given : Given} {v : Json} {term : Nat} (h : TermIs given v)
    (hc : Schema.natural v = .accepted term) : Definition.readTerm given = .ok term := by
  obtain ⟨n, hr, rfl⟩ := h
  rw [hr, accepted.inj ((natural_int n).symm.trans hc)]

theorem turns_of_merge {c : Combo} {new : Record} (h : change.patch keys settings = .ok patch)
    (hc : checkPatch .combo c.id patch = .ok ()) (hm : merge (.combo c) patch = .ok new) :
    ∃ n, new = .combo n ∧ change.Turns keys settings c n := by
  have hr := resolvedBy_patch h
  have hi := id_of_merge hm (keepsSlot_of_checkPatch hc)
  have hg := Patch.get?_ofPairs_of_once hr.once
  have hp := merge_ok_iff_patched.mp hm
  rw [Record.patched] at hp
  simp only [eq_accepted_iff, accepts_map, accepts_seq] at hp
  obtain ⟨_, -, _, ht, _, ha, _, htm, _, he, rfl⟩ := hp
  have ht := elim_of_optional hr.triggers (hg _) ht fun _ _ => triggers_of_are
  have ha := elim_of_optional hr.action (hg _) ha fun _ _ => action_of_is
  refine ⟨_, rfl, ?_⟩
  constructor
  case id      => exact hi
  case term    => exact elim_of_optional hr.term (hg _) htm fun _ _ => term_of_is
  case enabled => exact hr.enabled ▸ hg "enabled" ▸ elim_given he
  case keys    =>
    -- The trigger keys and the action key come from one definition.
    cases hd : change.definition <;> simp only [hd] at ht ha ⊢
    case none => exact ⟨ht, ha⟩
    case some text =>
      obtain ⟨d, hr, ht⟩ := ht
      obtain ⟨d', hr', ha⟩ := ha
      cases hr.symm.trans hr'
      exact ⟨d, hr, ht, ha⟩

end ComboChange

structure Session.Ending.Changes (e : Ending) (k : Keyboard) (kind : Kind) (id : Int)
    (P : Record → Record → Prop) : Prop where
  stored : ∃ records out old new, k.records? kind = some records ∧
    e.keyboard.records? kind = some out ∧ (old.id : Int) = id ∧ Replaces records out old new ∧ P old new
  others : ∀ other, other ≠ kind → e.keyboard.records? other = k.records? other

theorem Session.Ending.Changes.mono {e : Ending} {k : Keyboard} {kind : Kind} {id : Int}
    {P Q : Record → Record → Prop} (h : e.Changes k kind id P) (hq : ∀ old new, P old new → Q old new) :
    e.Changes k kind id Q where
  stored :=
    have ⟨records, out, old, new, hr, ho, hi, hs, hp⟩ := h.stored
    ⟨records, out, old, new, hr, ho, hi, hs, hq old new hp⟩
  others := h.others

namespace Command

variable {keys : κ} {settings : Settings} {broken : Breakdowns} {k : Keyboard} {c : Command}
  {kind : Kind} {id : Int} {patch : Patch} {o : Outcome}

-- A command that changes a record and succeeds has put its patch over the record of the slot.
theorem changes_of_ok (ht : k.Typed) {P : Patch → Prop}
    (hq : ∀ request, c.request keys settings = .ok request →
      ∃ patch, request = .edit id patch ∧ checkPatch c.kind id patch = .ok () ∧ P patch)
    (h : (c.run keys settings broken k).result = .ok o) (ho : o.ok = true) :
    (c.run keys settings broken k).Changes k c.kind id fun old new =>
      ∃ patch, P patch ∧ old.kind = c.kind ∧ checkPatch old.kind old.id patch = .ok () ∧
        merge old patch = .ok new := by
  obtain ⟨plan, _, hd, hk, -⟩ := write_of_ok h ho
  obtain ⟨request, records, capacity, hr, hs, -, hp, -⟩ := decide_write hd
  obtain ⟨patch, rfl, hc, hP⟩ := hq request hr
  obtain ⟨old, new, hl, hm, rfl⟩ := Request.plan_edit hp
  obtain ⟨-, -, hf⟩ := lookup_ok_iff.mp hl
  have hi := find?_some_id hf
  have hkind := ht _ _ hs old (mem_of_find?_some hf)
  have hid : new.id = old.id := id_of_merge hm (hi ▸ keepsSlot_of_checkPatch hc)
  constructor
  case stored =>
    refine ⟨records, put new records, old, new, hs, ?_, hi, replaces_put hf hid, patch, hP, hkind, ?_, hm⟩
    · rw [hk, Keyboard.records?_writeAll_self hs]
      rfl
    · rw [hkind, hi, hc]
  case others =>
    intro other hn
    rw [hk, Keyboard.records?_writeAll_of_ne hn]

theorem changes_of_edit (ht : k.Typed)
    (h : ((edit kind id patch).run keys settings broken k).result = .ok o) (ho : o.ok = true) :
    ((edit kind id patch).run keys settings broken k).Changes k kind id
      fun old new => old.Edits patch new := by
  have hq : ∀ request, (edit kind id patch).request keys settings = .ok request →
      ∃ other, request = .edit id other ∧ checkPatch kind id other = .ok () ∧ other = patch := by
    intro request hr
    obtain ⟨rfl, hc⟩ := editSomeRequest_ok hr
    exact ⟨patch, rfl, hc, rfl⟩
  refine (changes_of_ok ht hq h ho).mono fun old new he => ?_
  obtain ⟨_, rfl, -, hc, hm⟩ := he
  exact edits_of_merge hc hm

theorem edit_of_change {change : Except Failure Patch} {request : Request}
    (h : change >>= editSomeRequest kind id = .ok request) :
    ∃ patch, request = .edit id patch ∧ checkPatch kind id patch = .ok () ∧ change = .ok patch := by
  obtain ⟨patch, hp, h⟩ := bind_ok_iff.mp h
  obtain ⟨rfl, hc⟩ := editSomeRequest_ok h
  exact ⟨patch, rfl, hc, hp⟩

theorem changes_of_editKeyOverride {change : OverrideChange} (ht : k.Typed)
    (h : ((editKeyOverride id change).run keys settings broken k).result = .ok o) (ho : o.ok = true) :
    ((editKeyOverride id change).run keys settings broken k).Changes k .keyOverride id
      fun old new => ∃ p q, old = .keyOverride p ∧ new = .keyOverride q ∧ change.Turns keys p q := by
  refine (changes_of_ok ht (fun _ => edit_of_change) h ho).mono fun old new he => ?_
  obtain ⟨patch, hp, hk, hc, hm⟩ := he
  cases old <;> cases hk
  case keyOverride p =>
    obtain ⟨q, rfl, hs⟩ := OverrideChange.turns_of_merge hp hc hm
    exact ⟨p, q, rfl, rfl, hs⟩

theorem changes_of_editCombo {change : ComboChange} (ht : k.Typed)
    (h : ((editCombo id change).run keys settings broken k).result = .ok o) (ho : o.ok = true) :
    ((editCombo id change).run keys settings broken k).Changes k .combo id
      fun old new => ∃ p q, old = .combo p ∧ new = .combo q ∧ change.Turns keys settings p q := by
  refine (changes_of_ok ht (fun _ => edit_of_change) h ho).mono fun old new he => ?_
  obtain ⟨patch, hp, hk, hc, hm⟩ := he
  cases old <;> cases hk
  case combo p =>
    obtain ⟨q, rfl, hs⟩ := ComboChange.turns_of_merge hp hc hm
    exact ⟨p, q, rfl, rfl, hs⟩

-- An edit that succeeds touches only what it names: the first record of its slot is replaced by one with
-- the fields that are given, as they are read, and with all other fields of the old one. It stays in its
-- slot, whatever is given for that, and no other record is changed.
theorem edit_changes_named (keys : κ) (settings : Settings) :
    (∀ kind records capacity id (patch : Patch) out, (∀ r ∈ records, r.kind = kind) →
      update kind records capacity id patch = .ok out →
        ∃ old new, (old.id : Int) = id ∧ Replaces records out old new ∧ old.Edits patch new) ∧
    ∀ broken (k : Keyboard) id o, k.Typed → o.ok = true →
      (∀ kind patch, ((edit kind id patch).run keys settings broken k).result = .ok o →
        ((edit kind id patch).run keys settings broken k).Changes k kind id
          fun old new => old.Edits patch new) ∧
      (∀ change : OverrideChange,
        ((editKeyOverride id change).run keys settings broken k).result = .ok o →
        ((editKeyOverride id change).run keys settings broken k).Changes k .keyOverride id
          fun old new => ∃ p q, old = .keyOverride p ∧ new = .keyOverride q ∧ change.Turns keys p q) ∧
      ∀ change : ComboChange, ((editCombo id change).run keys settings broken k).result = .ok o →
        ((editCombo id change).run keys settings broken k).Changes k .combo id
          fun old new => ∃ p q, old = .combo p ∧ new = .combo q ∧ change.Turns keys settings p q :=
  ⟨fun _ _ _ _ _ _ => edits_of_update, fun _ _ _ _ ht ho =>
    ⟨fun _ _ h => changes_of_edit ht h ho, fun _ h => changes_of_editKeyOverride ht h ho,
      fun _ h => changes_of_editCombo ht h ho⟩⟩

end Command

theorem Keyboard.typed_overriding : Keyboard.overriding.Typed := by
  intro kind records h
  cases kind <;> cases h
  decide

def ComboChange.retuning : ComboChange where
  definition := some "A+A A"
  term       := some (.text "40")

namespace Command

theorem edit_changes_named_chorded :
    (∃ old new, (old.id : Int) = 1 ∧
      Replaces [.combo { action := 4 }, .combo { id := 1, action := 5, term := 30 }]
        [.combo { action := 4 }, .combo
          { id := 1, triggers := #v[4, 0, 0, 0], action := 5, term := 30, enabled := false }] old new ∧
      old.Edits .muting new) ∧
    ((edit .combo 1 .muting).run KeyTable.pair .lowest {} .chorded).Changes .chorded .combo 1
      (fun old new => old.Edits .muting new) ∧
    ((editKeyOverride 0 .moving).run KeyTable.pair .lowest {} .overriding).Changes .overriding .keyOverride 0
      (fun old new => ∃ p q, old = .keyOverride p ∧ new = .keyOverride q ∧
        OverrideChange.moving.Turns KeyTable.pair p q) ∧
    ((editCombo 1 .retuning).run KeyTable.pair .lowest {} .chorded).Changes .chorded .combo 1
      (fun old new => ∃ p q, old = .combo p ∧ new = .combo q ∧
        ComboChange.retuning.Turns KeyTable.pair .lowest p q) := by
  obtain ⟨hu, hc⟩ := edit_changes_named KeyTable.pair .lowest
  refine ⟨hu .combo _ 2 1 .muting _ (by decide) (ok_of_toOption (by decide +kernel)), ?_, ?_, ?_⟩
  case refine_1 =>
    have h : ((edit .combo 1 .muting).run KeyTable.pair .lowest {} .chorded).result.toOption.map (·.ok) =
        some true := by decide +kernel
    obtain ⟨o, h, ho⟩ := Option.map_eq_some_iff.mp h
    exact (hc _ _ _ o Keyboard.typed_chorded ho).left _ _ (ok_of_toOption h)
  case refine_2 =>
    have h : ((editKeyOverride 0 .moving).run KeyTable.pair .lowest {} .overriding).result.toOption.map (·.ok) =
        some true := by decide +kernel
    obtain ⟨o, h, ho⟩ := Option.map_eq_some_iff.mp h
    exact (hc _ _ _ o Keyboard.typed_overriding ho).right.left _ (ok_of_toOption h)
  case refine_3 =>
    have h : ((editCombo 1 .retuning).run KeyTable.pair .lowest {} .chorded).result.toOption.map (·.ok) =
        some true := by decide +kernel
    obtain ⟨o, h, ho⟩ := Option.map_eq_some_iff.mp h
    exact (hc _ _ _ o Keyboard.typed_chorded ho).right.right _ (ok_of_toOption h)

end Command
end KeySlots
