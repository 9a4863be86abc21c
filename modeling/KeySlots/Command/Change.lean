import KeySlots.Settings
import KeySlots.Slot.Patch

namespace KeySlots

variable {κ : Type} [KeyCodec κ]

structure OverrideRequest where
  trigger        : String
  replacement    : String
  layers         : Option Given := none
  triggerMods    : Given := .int 0
  negativeMods   : Given := .int 0
  suppressedMods : Given := .int 0
  enabled        : Json := .bool true
  deriving Repr

structure OverrideChange where
  trigger        : Option String := none
  replacement    : Option String := none
  layers         : Option Given := none
  triggerMods    : Option Given := none
  negativeMods   : Option Given := none
  suppressedMods : Option Given := none
  enabled        : Option Json := none
  deriving Repr

structure ComboChange where
  definition : Option String := none
  term       : Option Given := none
  enabled    : Option Json := none
  deriving Repr

def OverrideRequest.definition (settings : Settings) (request : OverrideRequest) :
    Definition.OverrideText where
  trigger := request.trigger
  replacement := request.replacement
  layers := request.layers.getD (.int settings.layers.toNat)
  triggerMods := request.triggerMods
  negativeMods := request.negativeMods
  suppressedMods := request.suppressedMods
  enabled := request.enabled

def changedKey (keys : κ) (field : String) : Option String → Except Failure Slot.Patch
  | none => .ok []
  | some token =>
    match KeyCodec.parse keys (Text.trimmed token) with
    | some code => .ok [(field, .int code)]
    | none => refuse (.invalidKey (.overrideField field) token)

def changedMask (width : Int) (field : String) : Option Given → Except Failure Slot.Patch
  | none => .ok []
  | some given => do
    let mask ← Definition.readMask width field given
    .ok [(field, .int mask)]

def changedSwitch (field : String) : Option Json → Slot.Patch
  | none => []
  | some v => [(field, v)]

def OverrideChange.patch (keys : κ) (change : OverrideChange) :
    Except Failure Slot.Patch := do
  let trigger ← changedKey keys "trigger" change.trigger
  let replacement ← changedKey keys "replacement" change.replacement
  let layers ← changedMask 16 "layers" change.layers
  let triggerMods ← changedMask 8 "trigger_mods" change.triggerMods
  let negativeMods ← changedMask 8 "negative_mods" change.negativeMods
  let suppressedMods ← changedMask 8 "suppressed_mods" change.suppressedMods
  .ok (trigger ++ replacement ++ layers ++ triggerMods ++ negativeMods ++ suppressedMods ++
    changedSwitch "enabled" change.enabled)

def ComboChange.patch (keys : κ) (settings : Settings) (change : ComboChange) :
    Except Failure Slot.Patch := do
  let definition ← match change.definition with
    | none => .ok []
    | some definition => do
      let c ← Definition.readCombo keys definition (.int settings.maxTriggers) (.int 50)
      .ok [("trigger_keys", .array (c.triggers.toList.map .int)), ("action_key", .int c.action)]
  let term ← match change.term with
    | none => .ok []
    | some given => do
      let term ← Definition.readTerm given
      .ok [("term", .int term)]
  .ok (definition ++ term ++ changedSwitch "enabled" change.enabled)

end KeySlots
