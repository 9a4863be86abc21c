import KeySlots.Proofs.Command.KeyOverride
import KeySlots.Proofs.Slot.Patch

namespace KeySlots

open scoped List
open Session

variable {κ : Type} [KeyCodec κ]

def Slot.Patch.arranged (names : List String) (patch : Slot.Patch) : Slot.Patch :=
  names.flatMap fun name => changedSwitch name (patch.get? name)

namespace Slot.Patch

variable {names : List String} {patch : Slot.Patch} {name key : String} {v : Option Json}

theorem get?_changedSwitch : (changedSwitch name v).get? key = if key = name then v else none := by
  cases v
  case none   => simp [changedSwitch]
  case some v => simp [changedSwitch, Entries.get?_cons]

theorem get?_arranged :
    (arranged names patch).get? key = if key ∈ names then patch.get? key else none := by
  induction names
  case nil => rfl
  case cons name names hi =>
    have ha : arranged (name :: names) patch =
        changedSwitch name (patch.get? name) ++ arranged names patch := rfl
    rw [ha, Entries.get?_append, get?_changedSwitch, hi]
    by_cases hk : key = name
    case pos => cases h : patch.get? name <;> simp [hk, h]
    case neg => simp [hk]

theorem keys_arranged_sublist : (arranged names patch).map (·.1) <+ names := by
  induction names
  case nil => exact .slnil
  case cons name names hi =>
    have ha : arranged (name :: names) patch =
        changedSwitch name (patch.get? name) ++ arranged names patch := rfl
    rw [ha, List.map_append]
    cases patch.get? name
    case none   => exact hi.cons name
    case some v => exact hi.cons_cons name

-- A patch of fields with these names is the arranged one in some order.
theorem perm_arranged (hn : (patch.map (·.1)).Nodup) (hm : ∀ name ∈ patch.map (·.1), name ∈ names)
    (hd : names.Nodup) : patch ~ arranged names patch := by
  rw [Entries.perm_iff_get? hn (hd.sublist keys_arranged_sublist)]
  intro key
  rw [get?_arranged]
  split
  case isTrue    => rfl
  case isFalse h => exact Entries.get?_eq_none_iff.mpr fun hk => h (hm key hk)

end Slot.Patch

namespace OverrideChange

def KeyIs (keys : κ) (token : String) (v : Json) : Prop :=
  ∃ code, KeyCodec.parse keys (Text.trimmed token) = some code ∧ v = .int code

def MaskIs (width : Int) (field : String) (given : Given) (v : Json) : Prop :=
  ∃ mask : Nat, Definition.readMask width field given = .ok mask ∧ v = .int mask

def names : List String :=
  ["trigger", "replacement", "layers", "trigger_mods", "negative_mods", "suppressed_mods", "enabled"]

-- A patch holds just what a change gives: the codes of its keys, the numbers of its masks and its switch,
-- each once and in any order.
structure ResolvedBy (change : OverrideChange) (keys : κ) (patch : Slot.Patch) : Prop where
  once           : (patch.map (·.1)).Nodup
  named          : ∀ name ∈ patch.map (·.1), name ∈ names
  trigger        : Option.Rel (KeyIs keys) change.trigger (patch.get? "trigger")
  replacement    : Option.Rel (KeyIs keys) change.replacement (patch.get? "replacement")
  layers         : Option.Rel (MaskIs 16 "layers") change.layers (patch.get? "layers")
  triggerMods    : Option.Rel (MaskIs 8 "trigger_mods") change.triggerMods (patch.get? "trigger_mods")
  negativeMods   : Option.Rel (MaskIs 8 "negative_mods") change.negativeMods (patch.get? "negative_mods")
  suppressedMods : Option.Rel (MaskIs 8 "suppressed_mods") change.suppressedMods
    (patch.get? "suppressed_mods")
  enabled        : patch.get? "enabled" = change.enabled

variable {keys : κ} {change : OverrideChange} {patch : Slot.Patch} {field : String} {width : Int}
  {v : Option Json}

theorem changedKey_ok {token : Option String} (h : Option.Rel (KeyIs keys) token v) :
    changedKey keys field token = .ok (changedSwitch field v) := by
  cases h
  case none => rfl
  case some h =>
    obtain ⟨code, hc, rfl⟩ := h
    simp [changedKey, hc, changedSwitch]

theorem changedMask_ok {given : Option Given} (h : Option.Rel (MaskIs width field) given v) :
    changedMask width field given = .ok (changedSwitch field v) := by
  cases h
  case none => rfl
  case some h =>
    obtain ⟨mask, hm, rfl⟩ := h
    simp [changedMask, hm, changedSwitch, bind, Except.bind]

theorem ResolvedBy.patch_eq (h : change.ResolvedBy keys patch) :
    change.patch keys = .ok (Slot.Patch.arranged names patch) := by
  rw [OverrideChange.patch, changedKey_ok h.trigger, changedKey_ok h.replacement, changedMask_ok h.layers,
    changedMask_ok h.triggerMods, changedMask_ok h.negativeMods, changedMask_ok h.suppressedMods,
    ← h.enabled]
  simp [Slot.Patch.arranged, names, bind, Except.bind]

end OverrideChange

namespace Command

variable {keys : κ} {settings : Settings} {broken : Breakdowns} {k : Keyboard} {c d : Command}
  {kind : Kind} {definition : String} {patch other : Slot.Patch} {r : Record} {id : Int}

theorem run_eq_of_steps (hv : c.verb = d.verb) (hk : c.kind = d.kind)
    (hs : c.steps keys settings broken = d.steps keys settings broken) :
    c.run keys settings broken k = d.run keys settings broken k := by
  rw [run, run, hv, hk, hs]

theorem run_addCombo (definition : String) :
    (add .combo definition).run keys settings broken k =
      (addCombo definition none).run keys settings broken k := by
  refine run_eq_of_steps rfl rfl ?_
  have hs : (add .combo definition).steps keys settings broken = (do
      let r ← attempt ((Definition.readCombo keys definition (.int settings.maxTriggers)
        (.int settings.comboTerm)).map Record.combo)
      addStep broken .combo r) := rfl
  rw [hs, steps]
  dsimp only [Option.getD_none]
  cases Definition.readCombo keys definition (.int settings.maxTriggers) (.int settings.comboTerm) <;> rfl

theorem run_editCombo (id : Int) (definition : String) :
    (editDefinition .combo id definition).run keys settings broken k =
      (editCombo id { definition := some definition }).run keys settings broken k := by
  refine run_eq_of_steps rfl rfl ?_
  have hs : (editDefinition .combo id definition).steps keys settings broken = (do
      let r ← attempt ((Definition.readCombo keys definition (.int settings.maxTriggers) (.int 50)).map
        Record.combo)
      editStep broken .combo id (redefinition r)) := rfl
  rw [hs, steps, ComboChange.patch]
  dsimp only
  cases Definition.readCombo keys definition (.int settings.maxTriggers) (.int 50) <;> rfl

theorem run_addRecord (h : Definition.readRecord keys settings.context kind definition = .ok r) :
    (add kind definition).run keys settings broken k = (addRecord kind r).run keys settings broken k := by
  refine run_eq_of_steps rfl rfl ?_
  rw [steps, steps, h]
  rfl

theorem run_edit_perm (h : patch ~ other) (hn : (patch.map (·.1)).Nodup) :
    (edit kind id patch).run keys settings broken k = (edit kind id other).run keys settings broken k := by
  refine run_eq_of_steps rfl rfl ?_
  simp only [steps, editSome, editStep, h.isEmpty_eq, Slot.checkPatch_perm h hn, Slot.update_perm h hn]

theorem run_editKeyOverride {change : OverrideChange} (h : change.ResolvedBy keys patch) :
    (editKeyOverride id change).run keys settings broken k =
      (edit .keyOverride id patch).run keys settings broken k := by
  have hp : patch ~ Slot.Patch.arranged OverrideChange.names patch :=
    Slot.Patch.perm_arranged h.once h.named (by decide)
  rw [run_edit_perm hp h.once]
  refine run_eq_of_steps rfl rfl ?_
  rw [steps, steps, h.patch_eq]
  rfl

-- Each of these commands is another one in a special case: whatever is on the keyboard and whichever calls
-- fail, both end with the same outcome or fault, make the same calls and leave the same keyboard.
theorem run_specialised (keys : κ) (settings : Settings) (broken : Breakdowns) (k : Keyboard) :
    (∀ definition, (add .combo definition).run keys settings broken k =
      (addCombo definition none).run keys settings broken k) ∧
    (∀ id definition, (editDefinition .combo id definition).run keys settings broken k =
      (editCombo id { definition := some definition }).run keys settings broken k) ∧
    (∀ kind definition r, Definition.readRecord keys settings.context kind definition = .ok r →
      (add kind definition).run keys settings broken k =
        (addRecord kind r).run keys settings broken k) ∧
    ∀ id (change : OverrideChange) patch, change.ResolvedBy keys patch →
      (editKeyOverride id change).run keys settings broken k =
        (edit .keyOverride id patch).run keys settings broken k :=
  ⟨run_addCombo, run_editCombo, fun _ _ _ => run_addRecord, fun _ _ _ => run_editKeyOverride⟩

end Command

def Keyboard.overriding : Keyboard where
  counts := [(.keyOverride, some 1)]
  stored := [(.keyOverride, [.keyOverride { trigger := 5, replacement := 4 }])]

def OverrideChange.moving : OverrideChange where
  trigger := some "A"
  layers  := some (.int 3)
  enabled := some (.bool false)

namespace Command

theorem resolvedBy_moving : OverrideChange.moving.ResolvedBy KeyTable.pair
    [("enabled", .bool false), ("layers", .int 3), ("trigger", .int 4)] where
  once           := by decide
  named          := by decide
  trigger        := .some ⟨4, rfl, rfl⟩
  replacement    := .none
  layers         := .some ⟨3, rfl, rfl⟩
  triggerMods    := .none
  negativeMods   := .none
  suppressedMods := .none
  enabled        := rfl

theorem readRecord_tap :
    Definition.readRecord KeyTable.pair Settings.lowest.context .keyMacro "A" =
      .ok (.keyMacro { actions := [.tap 4] }) := by
  have hc : "A".toList = ['A'] := by decide
  rw [Definition.readRecord, Definition.readMacro, hc]
  rfl

theorem run_specialised_pair :
    let broken : Breakdowns := { save := some "busy" }
    let patch := [("enabled", .bool false), ("layers", .int 3), ("trigger", .int 4)]
    (add .keyMacro "A").run KeyTable.pair .lowest broken (.vacant .keyMacro) =
        (addRecord .keyMacro (.keyMacro { actions := [.tap 4] })).run KeyTable.pair .lowest broken
          (.vacant .keyMacro) ∧
      (editKeyOverride 0 .moving).run KeyTable.pair .lowest broken .overriding =
        (edit .keyOverride 0 patch).run KeyTable.pair .lowest broken .overriding ∧
      ((edit .keyOverride 0 patch).run KeyTable.pair .lowest broken .overriding).keyboard.stored =
        [(.keyOverride, [.keyOverride
          { trigger := 4, replacement := 4, layers := 3, enabled := false }])] := by
  intro broken patch
  obtain ⟨_, _, hr, _⟩ := run_specialised KeyTable.pair .lowest broken (.vacant .keyMacro)
  obtain ⟨_, _, _, hp⟩ := run_specialised KeyTable.pair .lowest broken .overriding
  exact ⟨hr .keyMacro "A" _ readRecord_tap, hp 0 .moving patch resolvedBy_moving, by decide +kernel⟩

end Command
end KeySlots
