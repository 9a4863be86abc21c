import KeySlots.Command.Change
import KeySlots.Proofs.Definition.OverrideObject

namespace KeySlots

open Schema Definition

variable {κ : Type} [KeyCodec κ]

namespace Mask

def toJson : Mask → Json
  | number n => .int n
  | text s   => .text s

theorem isMask_toJson (m : Mask) : IsMask m.toJson m := by
  cases m
  case number n => exact .number n
  case text s   => exact .text s

end Mask

structure OverrideParts where
  trigger        : String
  replacement    : String
  layers         : Option Mask
  triggerMods    : Option Mask
  negativeMods   : Option Mask
  suppressedMods : Option Mask
  enabled        : Option Bool

namespace OverrideParts

variable {parts : OverrideParts} {fields : Fields}

def request (parts : OverrideParts) : OverrideRequest where
  trigger        := parts.trigger
  replacement    := parts.replacement
  layers         := parts.layers.map Mask.given
  triggerMods    := (parts.triggerMods.map Mask.given).getD (.int 0)
  negativeMods   := (parts.negativeMods.map Mask.given).getD (.int 0)
  suppressedMods := (parts.suppressedMods.map Mask.given).getD (.int 0)
  enabled        := .bool (parts.enabled.getD true)

def onEveryLayer (parts : OverrideParts) : OverrideParts :=
  { parts with layers := some (parts.layers.getD (.number 0xFFFF)) }

-- An object gives just these parts. It may have other fields, which count for nothing, but no second
-- spelling of a key.
structure GivenBy (parts : OverrideParts) (fields : Fields) : Prop where
  trigger        : fields.get? "trigger_key" = some (.text parts.trigger)
  triggerStr     : fields.get? "trigger_key_str" = none
  replacement    : fields.get? "override_key" = some (.text parts.replacement)
  replacementStr : fields.get? "override_key_str" = none
  layers         : fields.get? "layers" = parts.layers.map Mask.toJson
  triggerMods    : fields.get? "trigger_mods" = parts.triggerMods.map Mask.toJson
  negativeMods   : fields.get? "negative_mod_mask" = parts.negativeMods.map Mask.toJson
  suppressedMods : fields.get? "suppressed_mods" = parts.suppressedMods.map Mask.toJson
  enabled        : fields.get? "enabled" = parts.enabled.map Json.bool

def object (parts : OverrideParts) : OverrideObject where
  triggerKey     := some (some parts.trigger)
  triggerKeyStr  := none
  overrideKey    := some (some parts.replacement)
  overrideKeyStr := none
  masks
    | .layers         => parts.layers
    | .triggerMods    => parts.triggerMods
    | .negativeMods   => parts.negativeMods
    | .suppressedMods => parts.suppressedMods
  enabled        := parts.enabled

theorem GivenBy.heldBy (h : parts.GivenBy fields) : parts.object.HeldBy fields where
  triggerKey     := h.trigger ▸ .some (.text _)
  triggerKeyStr  := h.triggerStr ▸ .none
  overrideKey    := h.replacement ▸ .some (.text _)
  overrideKeyStr := h.replacementStr ▸ .none
  masks m := by
    have hr {v : Option Json} {mask : Option Mask} (hv : v = mask.map Mask.toJson) :
        Option.Rel IsMask v mask := by
      subst hv
      cases mask
      case none      => exact .none
      case some mask => exact .some mask.isMask_toJson
    cases m
    case layers         => exact hr h.layers
    case triggerMods    => exact hr h.triggerMods
    case negativeMods   => exact hr h.negativeMods
    case suppressedMods => exact hr h.suppressedMods
  enabled := by
    rw [h.enabled, object]
    cases parts.enabled
    case none   => exact .none
    case some b => exact .some rfl

theorem spelled_once (key : String) : OverrideObject.spelled (some (some key)) none = key := by
  by_cases h : key = "" <;> simp [OverrideObject.spelled, h]

theorem trigger_object (parts : OverrideParts) : parts.object.trigger = parts.trigger :=
  spelled_once parts.trigger

theorem replacement_object (parts : OverrideParts) : parts.object.replacement = parts.replacement :=
  spelled_once parts.replacement

theorem call_object (parts : OverrideParts) (settings : Settings) :
    parts.object.call = parts.onEveryLayer.request.definition settings := by
  have hm (mask : Option Mask) (start : Given) :
      mask.elim start Mask.given = (mask.map Mask.given).getD start := by
    cases mask <;> rfl
  have hl : parts.layers.elim (.int 0xFFFF) Mask.given = (parts.layers.getD (.number 0xFFFF)).given := by
    cases parts.layers <;> rfl
  have he : parts.enabled.elim (.bool true) Json.bool = .bool (parts.enabled.getD true) := by
    cases parts.enabled <;> rfl
  rw [OverrideObject.call, trigger_object, replacement_object]
  simp only [object, hl, hm, he]
  rfl

end OverrideParts

namespace Definition

theorem readMask_toNat {width : Nat} (name : String) (x : BitVec width) :
    readMask width name (.int x.toNat) = .ok x.toNat := by
  have hf : Numeral.fits width x.toNat = true := Numeral.fits_iff.mpr x.isLt
  simp only [readMask, readMaskNumber, bind, Except.bind, Int.toNat_natCast]
  rw [if_neg (by omega), if_neg (by omega), if_pos hf]

theorem readKeyOverride_layers (keys : κ) (given : OverrideText) (layers other : Layers) :
    readKeyOverride keys { given with layers := .int other.toNat } =
      (readKeyOverride keys { given with layers := .int layers.toNat }).map
        fun o => { o with layers := other } := by
  have hl : readMask 16 "layers" (.int layers.toNat) = .ok layers.toNat := readMask_toNat _ layers
  have ho : readMask 16 "layers" (.int other.toNat) = .ok other.toNat := readMask_toNat _ other
  simp only [readKeyOverride]
  cases resolve keys (.overrideTrigger given.trigger) (Text.trimmed given.trigger)
  case error => rfl
  cases resolve keys (.overrideReplacement given.replacement) (Text.trimmed given.replacement)
  case error => rfl
  simp only [hl, ho, bind, Except.bind]
  cases readMask 8 "trigger_mods" given.triggerMods
  case error => rfl
  cases readMask 8 "negative_mods" given.negativeMods
  case error => rfl
  cases readMask 8 "suppressed_mods" given.suppressedMods
  case error => rfl
  cases valid ((Schema.boolean given.enabled).under "enabled")
  case error => rfl
  case ok => simp [Except.map]

end Definition

theorem OverrideParts.GivenBy.readKeyOverrideJson {parts : OverrideParts} {fields : Fields}
    {definition : String} (h : parts.GivenBy fields) (hd : readObject definition = .ok fields)
    (ht : parts.trigger ≠ "") (hr : parts.replacement ≠ "") (keys : κ) (settings : Settings) :
    readKeyOverrideJson keys definition =
      readKeyOverride keys (parts.onEveryLayer.request.definition settings) := by
  rw [h.heldBy.readKeyOverrideJson_eq hd, OverrideParts.trigger_object, OverrideParts.replacement_object,
    if_neg ht, if_neg hr, OverrideParts.call_object]

end KeySlots
