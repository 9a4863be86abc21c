import KeySlots.Definition.Record
import KeySlots.Proofs.Definition.Call
import KeySlots.Proofs.Failure
import KeySlots.Proofs.Record.Schema

namespace KeySlots

open Schema Definition

inductive MaskField where
  | layers
  | triggerMods
  | negativeMods
  | suppressedMods

namespace MaskField

def field : MaskField → String
  | layers         => "layers"
  | triggerMods    => "trigger_mods"
  | negativeMods   => "negative_mod_mask"
  | suppressedMods => "suppressed_mods"

def name : MaskField → String
  | layers         => "layers"
  | triggerMods    => "trigger_mods"
  | negativeMods   => "negative_mods"
  | suppressedMods => "suppressed_mods"

def width : MaskField → Nat
  | layers => 16
  | triggerMods | negativeMods | suppressedMods => 8

def default : MaskField → Int
  | layers => 0xFFFF
  | triggerMods | negativeMods | suppressedMods => 0

def given (text : OverrideText) : MaskField → Given
  | layers         => text.layers
  | triggerMods    => text.triggerMods
  | negativeMods   => text.negativeMods
  | suppressedMods => text.suppressedMods

def checked (fields : OverrideFields) : MaskField → Given
  | layers         => fields.layers
  | triggerMods    => fields.triggerMods
  | negativeMods   => fields.negativeMods
  | suppressedMods => fields.suppressedMods

def bits (o : KeyOverride) : MaskField → Nat
  | layers         => o.layers.toNat
  | triggerMods    => o.triggerMods.toNat
  | negativeMods   => o.negativeMods.toNat
  | suppressedMods => o.suppressedMods.toNat

end MaskField

namespace Definition

variable {κ : Type} [KeyCodec κ] {keys : κ} {definition : String} {fields : Fields}
  {checked : OverrideFields} {text : OverrideText} {o : KeyOverride} {v : Json} {given : Given}

-- A value passes as a mask. Besides whole numbers and texts there are truth values and fractional numbers
-- that stand for a whole number.
inductive PassesAs : Json → Given → Prop where
  | int (n : Int) : PassesAs (.int n) (.int n)
  | text (s : String) : PassesAs (.text s) (.text s)
  | brokenText (s : String) : PassesAs (.brokenText s) (.text s)
  | bool (b : Bool) : PassesAs (.bool b) (.int (if b then 1 else 0))
  | float {x : Numeral.Binary64} {n : Int} (hf : x.isFinite) (hn : x.toInt? = some n) (hl : -wordBound < n)
      (hg : n < wordBound) : PassesAs (.float x) (.int n)

theorem checkMask_eq_accepted_iff : checkMask v = .accepted given ↔ PassesAs v given := by
  constructor
  case mpr =>
    rintro (_ | _ | _ | _ | ⟨hf, hn, hl, hg⟩)
    case float => simp [checkMask, Schema.integer, hf, hn, hl, hg, Checked.map, Checked.under]
    all_goals rfl
  case mp =>
    intro h
    cases v
    case int n => cases h; exact .int n
    case text s => cases h; exact .text s
    case brokenText s => cases h; exact .brokenText s
    case bool b => cases h; exact .bool b
    case float x =>
      simp only [checkMask, Schema.integer] at h
      split at h
      case isFalse => contradiction
      case isTrue hf =>
        split at h
        case h_2 => contradiction
        case h_1 n hn =>
          split at h
          case isFalse => contradiction
          case isTrue hb =>
            cases h
            simp only [Bool.and_eq_true, decide_eq_true_eq] at hb
            exact .float hf hn hb.left hb.right
    all_goals contradiction

structure CheckedFrom (fields : Fields) (checked : OverrideFields) : Prop where
  triggerKey     : optional fields "trigger_key" none (nullable Schema.text) = .accepted checked.triggerKey
  triggerKeyStr  :
    optional fields "trigger_key_str" none (nullable Schema.text) = .accepted checked.triggerKeyStr
  overrideKey    : optional fields "override_key" none (nullable Schema.text) = .accepted checked.overrideKey
  overrideKeyStr :
    optional fields "override_key_str" none (nullable Schema.text) = .accepted checked.overrideKeyStr
  masks          : ∀ m : MaskField,
    optional fields m.field (.int m.default) checkMask = .accepted (m.checked checked)
  enabled        : optional fields "enabled" true boolean = .accepted checked.enabled

theorem check_eq_accepted_iff :
    OverrideFields.check fields = .accepted checked ↔ CheckedFrom fields checked := by
  constructor
  case mp =>
    intro h
    simp only [OverrideFields.check, Checked.eq_accepted_iff, Checked.accepts_seq, Checked.accepts_map] at h
    obtain ⟨_, ht, _, hts, _, hr, _, hrs, _, hl, _, hm, _, hn, _, hs, _, he, rfl⟩ := h
    refine ⟨ht, hts, hr, hrs, fun m => ?_, he⟩
    cases m
    case layers         => exact hl
    case triggerMods    => exact hm
    case negativeMods   => exact hn
    case suppressedMods => exact hs
  case mpr =>
    intro h
    have hl : optional fields "layers" (.int 0xFFFF) checkMask = .accepted checked.layers := h.masks .layers
    have hm : optional fields "trigger_mods" (.int 0) checkMask = .accepted checked.triggerMods :=
      h.masks .triggerMods
    have hn : optional fields "negative_mod_mask" (.int 0) checkMask = .accepted checked.negativeMods :=
      h.masks .negativeMods
    have hs : optional fields "suppressed_mods" (.int 0) checkMask = .accepted checked.suppressedMods :=
      h.masks .suppressedMods
    simp only [OverrideFields.check, h.triggerKey, h.triggerKeyStr, h.overrideKey, h.overrideKeyStr, hl, hm,
      hn, hs, h.enabled]
    rfl

theorem readOverrideFields_ok_iff :
    readOverrideFields definition fields = .ok checked ↔ CheckedFrom fields checked := by
  rw [← check_eq_accepted_iff, readOverrideFields]
  cases OverrideFields.check fields <;> simp [refuseDefinition, refuse]

def OverrideFields.call (checked : OverrideFields) (trigger replacement : String) : OverrideText where
  trigger        := trigger
  replacement    := replacement
  layers         := checked.layers
  triggerMods    := checked.triggerMods
  negativeMods   := checked.negativeMods
  suppressedMods := checked.suppressedMods
  enabled        := .bool checked.enabled

@[simp]
theorem given_call (m : MaskField) (trigger replacement : String) :
    m.given (checked.call trigger replacement) = m.checked checked := by
  cases m <;> rfl

theorem readMask_lt {width : Nat} {name : String} {n : Nat} (h : readMask width name given = .ok n) :
    n < 2 ^ width := by
  obtain ⟨k, -, h⟩ := bind_ok_iff.mp h
  split at h
  case isTrue => cases h
  case isFalse =>
    split at h
    case isTrue => cases h
    case isFalse =>
      split at h
      case isFalse => cases h
      case isTrue hf =>
        cases h
        exact Numeral.fits_iff.mp hf

theorem valid_ok_iff {α : Type} {x : Checked α} {a : α} : valid x = .ok a ↔ x = .accepted a := by
  cases x <;> simp [valid, fault]

theorem readKeyOverride_ok_iff :
    readKeyOverride keys text = .ok o ↔
      KeyCodec.parse keys (Text.trimmed text.trigger) = some o.trigger ∧
        KeyCodec.parse keys (Text.trimmed text.replacement) = some o.replacement ∧
        (∀ m : MaskField, readMask m.width m.name (m.given text) = .ok (m.bits o)) ∧
        boolean text.enabled = .accepted o.enabled ∧ o.id = 0 := by
  have ho {width n : Nat} (h : n < 2 ^ width) : (BitVec.ofNat width n).toNat = n :=
    (BitVec.toNat_ofNat n width).trans (Nat.mod_eq_of_lt h)
  constructor
  case mp =>
    intro h
    rw [readKeyOverride] at h
    obtain ⟨trigger, ht, h⟩ := bind_ok_iff.mp h
    obtain ⟨replacement, hr, h⟩ := bind_ok_iff.mp h
    obtain ⟨layers, hl, h⟩ := bind_ok_iff.mp h
    obtain ⟨triggerMods, hm, h⟩ := bind_ok_iff.mp h
    obtain ⟨negativeMods, hn, h⟩ := bind_ok_iff.mp h
    obtain ⟨suppressedMods, hs, h⟩ := bind_ok_iff.mp h
    obtain ⟨enabled, he, h⟩ := bind_ok_iff.mp h
    cases h
    refine ⟨resolve_ok_iff.mp ht, resolve_ok_iff.mp hr, fun m => ?_,
      Checked.under_eq_accepted.mp (valid_ok_iff.mp he), rfl⟩
    cases m <;> dsimp only [MaskField.bits]
    case layers         => rw [ho (readMask_lt hl)]; exact hl
    case triggerMods    => rw [ho (readMask_lt hm)]; exact hm
    case negativeMods   => rw [ho (readMask_lt hn)]; exact hn
    case suppressedMods => rw [ho (readMask_lt hs)]; exact hs
  case mpr =>
    rintro ⟨ht, hr, hm, he, hi⟩
    have hl : readMask 16 "layers" text.layers = .ok o.layers.toNat := hm .layers
    have ht' : readMask 8 "trigger_mods" text.triggerMods = .ok o.triggerMods.toNat := hm .triggerMods
    have hn : readMask 8 "negative_mods" text.negativeMods = .ok o.negativeMods.toNat := hm .negativeMods
    have hs : readMask 8 "suppressed_mods" text.suppressedMods = .ok o.suppressedMods.toNat :=
      hm .suppressedMods
    rw [readKeyOverride, resolve_ok_iff.mpr ht, resolve_ok_iff.mpr hr, hl, ht', hn, hs,
      valid_ok_iff.mpr (Checked.under_eq_accepted.mpr he)]
    cases o
    cases hi
    simp [bind, Except.bind]

theorem readKeyOverrideJson_of_checked {trigger replacement : String}
    (hd : readObject definition = .ok fields) (hc : CheckedFrom fields checked)
    (ht : firstSpelling? checked.triggerKey checked.triggerKeyStr = some trigger)
    (hr : firstSpelling? checked.overrideKey checked.overrideKeyStr = some replacement) :
    readKeyOverrideJson keys definition = readKeyOverride keys (checked.call trigger replacement) := by
  rw [readKeyOverrideJson, hd]
  simp only [bind, Except.bind, readOverrideFields_ok_iff.mpr hc, ht, hr]
  rfl

-- An object that is read has fields that pass their checks, and comes to a call that is read alike.
theorem exists_call_of_json (hd : readObject definition = .ok fields)
    (h : readKeyOverrideJson keys definition = .ok o) :
    ∃ checked trigger replacement, CheckedFrom fields checked ∧
      readKeyOverride keys (checked.call trigger replacement) = .ok o := by
  rw [readKeyOverrideJson] at h
  obtain ⟨_, hf, h⟩ := bind_ok_iff.mp h
  cases hd.symm.trans hf
  obtain ⟨checked, hc, h⟩ := bind_ok_iff.mp h
  split at h
  case h_1 => cases h
  case h_2 trigger _ =>
    split at h
    case h_1 => cases h
    case h_2 replacement _ => exact ⟨checked, trigger, replacement, readOverrideFields_ok_iff.mp hc, h⟩

theorem readMask_of_json {m : MaskField} (hd : readObject definition = .ok fields)
    (h : readKeyOverrideJson keys definition = .ok o) (hv : fields.get? m.field = some v) :
    ∃ given, PassesAs v given ∧ readMask m.width m.name given = .ok (m.bits o) := by
  obtain ⟨checked, trigger, replacement, hc, h⟩ := exists_call_of_json hd h
  obtain ⟨-, -, hm, -⟩ := readKeyOverride_ok_iff.mp h
  have hp := hc.masks m
  rw [Schema.optional, hv] at hp
  refine ⟨m.checked checked, checkMask_eq_accepted_iff.mp (Checked.under_eq_accepted.mp hp), ?_⟩
  rw [← given_call m trigger replacement]
  exact hm m

end Definition
end KeySlots
