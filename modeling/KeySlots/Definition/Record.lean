import KeySlots.Definition.Basic
import KeySlots.Definition.Sequence
import KeySlots.Json.Reader
import KeySlots.Schema.Scalar

namespace KeySlots.Definition

variable {κ : Type} [KeyCodec κ]

structure OverrideText where
  trigger        : String
  replacement    : String
  layers         : Given := .int 0xFFFF
  triggerMods    : Given := .int 0
  negativeMods   : Given := .int 0
  suppressedMods : Given := .int 0
  enabled        : Json := .bool true
  deriving Repr

def readKeyOverride (keys : κ) (given : OverrideText) : Except Failure KeyOverride := do
  let trigger ← resolve keys (.overrideTrigger given.trigger) (Text.trimmed given.trigger)
  let replacement ←
    resolve keys (.overrideReplacement given.replacement) (Text.trimmed given.replacement)
  let layers ← readMask 16 "layers" given.layers
  let triggerMods ← readMask 8 "trigger_mods" given.triggerMods
  let negativeMods ← readMask 8 "negative_mods" given.negativeMods
  let suppressedMods ← readMask 8 "suppressed_mods" given.suppressedMods
  let enabled ← valid ((Schema.boolean given.enabled).under "enabled")
  .ok {
    trigger, replacement, enabled
    layers := BitVec.ofNat 16 layers
    triggerMods := BitVec.ofNat 8 triggerMods
    negativeMods := BitVec.ofNat 8 negativeMods
    suppressedMods := BitVec.ofNat 8 suppressedMods }

structure OverrideFields where
  triggerKey     : Option String
  triggerKeyStr  : Option String
  overrideKey    : Option String
  overrideKeyStr : Option String
  layers         : Given
  triggerMods    : Given
  negativeMods   : Given
  suppressedMods : Given
  enabled        : Bool
  deriving DecidableEq, Repr

-- A mask in JSON: a text is kept for reading later, and anything else must be an integer.
def checkMask : Schema.Check Given
  | .text s | .brokenText s => .accepted (.text s)
  | v => (Schema.integer v).under "int" |>.map .int

def OverrideFields.check (fields : Fields) : Schema.Checked OverrideFields :=
  let key (name : String) := Schema.optional fields name none (Schema.nullable Schema.text)
  let mask (name : String) (default : Int) := Schema.optional fields name (.int default) checkMask
  OverrideFields.mk <$> key "trigger_key" <*> key "trigger_key_str" <*> key "override_key" <*>
    key "override_key_str" <*> mask "layers" 0xFFFF <*> mask "trigger_mods" 0 <*>
    mask "negative_mod_mask" 0 <*> mask "suppressed_mods" 0 <*>
    Schema.optional fields "enabled" true Schema.boolean

def firstSpelling? (first second : Option String) : Option String :=
  match first.filter (· ≠ "") with
  | some key => some key
  | none => second.filter (· ≠ "")

def readObject (definition : String) : Except Failure Fields :=
  match Json.read (some Numeral.maxDigits) definition.toList with
  | .ok (.object fields) => .ok fields
  | .ok v => refuseDefinition (.json s!"expected an object, got {v.typeName}" definition)
  | .error (.overlongNumeral digits) => fault (.overlongNumeral digits)
  | .error e => refuseDefinition (.json e.message definition)

def readOverrideFields (definition : String) (fields : Fields) : Except Failure OverrideFields :=
  match OverrideFields.check fields with
  | .accepted checked => .ok checked
  | .rejected issues =>
    refuseDefinition (.json ((issues.head?.map Schema.Issue.message).getD "") definition)

def readKeyOverrideJson (keys : κ) (definition : String) : Except Failure KeyOverride := do
  let fields ← readObject definition
  let given ← readOverrideFields definition fields
  match firstSpelling? given.triggerKey given.triggerKeyStr with
  | none => refuseDefinition (.jsonTrigger definition)
  | some trigger =>
    match firstSpelling? given.overrideKey given.overrideKeyStr with
    | none => refuseDefinition (.jsonReplacement definition)
    | some replacement =>
      readKeyOverride keys {
        trigger, replacement
        layers := given.layers
        triggerMods := given.triggerMods
        negativeMods := given.negativeMods
        suppressedMods := given.suppressedMods
        enabled := .bool given.enabled }

variable {κ : Type} [KeyCodec κ]

structure Context where
  tapDanceTerm : Json := .int 200
  maxTriggers  : Given := .int 4
  comboTerm    : Given := .int 50
  deriving Repr

def readRecord (keys : κ) (context : Context) (kind : Kind) (definition : String) :
    Except Failure Record :=
  match kind with
  | .keyMacro => (readMacro keys definition).map .keyMacro
  | .tapDance => (readTapDance keys definition context.tapDanceTerm).map .tapDance
  | .keyOverride => (readKeyOverrideJson keys definition).map .keyOverride
  | .combo => (readCombo keys definition context.maxTriggers context.comboTerm).map .combo

end KeySlots.Definition
