import KeySlots.Record.Basic
import KeySlots.Schema.Scalar

namespace KeySlots

def Action.fields : Action → Fields
  | tap key => [("kind", .text "tap"), ("key", .int key)]
  | down key => [("kind", .text "down"), ("key", .int key)]
  | up key => [("kind", .text "up"), ("key", .int key)]
  | delay ms => [("kind", .text "delay"), ("ms", .int ms)]
  | text s => [("kind", .text "text"), ("text", .text s)]

def Record.fields : Record → Fields
  | keyMacro m =>
    [("id", .int m.id), ("actions", .array (m.actions.map fun a => .object a.fields))]
  | tapDance t =>
    [("id", .int t.id), ("tap", .int t.tap), ("hold", .int t.hold), ("doubletap", .int t.doubleTap),
      ("taphold", .int t.tapHold), ("term_ms", .int t.term)]
  | keyOverride o =>
    [("id", .int o.id), ("trigger", .int o.trigger), ("replacement", .int o.replacement),
      ("layers", .int o.layers.toNat), ("trigger_mods", .int o.triggerMods.toNat),
      ("negative_mods", .int o.negativeMods.toNat),
      ("suppressed_mods", .int o.suppressedMods.toNat), ("enabled", .bool o.enabled)]
  | combo c =>
    [("id", .int c.id), ("trigger_keys", .array (c.triggers.toList.map .int)),
      ("action_key", .int c.action), ("term", .int c.term), ("enabled", .bool c.enabled)]

def Record.toJson (r : Record) : Json :=
  .object r.fields

open Schema

def Action.check : Check Action
  | .object fields =>
    match Entries.get? fields "kind" with
    | none => .problem .missingTag
    | some (.text "tap") => (tap <$> required fields "key" integer).under "tap"
    | some (.text "down") => (down <$> required fields "key" integer).under "down"
    | some (.text "up") => (up <$> required fields "key" integer).under "up"
    | some (.text "delay") => (delay <$> required fields "ms" natural).under "delay"
    | some (.text "text") => (text <$> required fields "text" Schema.text).under "text"
    | some tag => .problem (.unknownTag tag.plain)
  | _ => .problem .notTagged

def Combo.checkTriggers : Check Combo.Triggers := fun v =>
  (array integer v).andThen fun keys =>
    match Triggers.ofList? keys with
    | some triggers => .accepted triggers
    | none => .problem (.tooManyTriggers keys.length)

namespace Record

def checkFields (kind : Kind) (fields : Fields) : Checked Record :=
  let id := optional fields "id" 0 natural
  match kind with
  | .keyMacro =>
    keyMacro <$> (Macro.mk <$> id <*> optional fields "actions" [] (array Action.check))
  | .tapDance =>
    let key (name : String) := optional fields name KeyCode.none integer
    tapDance <$> (TapDance.mk <$> id <*> key "tap" <*> key "hold" <*> key "doubletap" <*>
      key "taphold" <*> optional fields "term_ms" 200 natural)
  | .keyOverride =>
    let key (name : String) := optional fields name KeyCode.none integer
    let mods (name : String) := optional fields name 0 (bits 8)
    keyOverride <$> (KeyOverride.mk <$> id <*> key "trigger" <*> key "replacement" <*>
      optional fields "layers" Layers.all (bits 16) <*> mods "trigger_mods" <*>
      mods "negative_mods" <*> mods "suppressed_mods" <*> optional fields "enabled" true boolean)
  | .combo =>
    combo <$> (Combo.mk <$> id <*>
      optional fields "trigger_keys" (Vector.replicate Combo.maxTriggers KeyCode.none)
        Combo.checkTriggers <*>
      optional fields "action_key" KeyCode.none integer <*> optional fields "term" 50 natural <*>
      optional fields "enabled" true boolean)

def check (kind : Kind) : Check Record :=
  model kind.recordName (checkFields kind)

def fieldNames (kind : Kind) : List String :=
  (sentinel kind 0).fields.map (·.1)

end Record
end KeySlots
