import KeySlots.Proofs.Definition.OverrideFields
import KeySlots.Proofs.Key.Token

namespace KeySlots

open Schema Definition

inductive Mask where
  | number (n : Int)
  | text (s : String)

def Mask.given : Mask → Given
  | number n => .int n
  | text s   => .text s

inductive IsKeyText : Json → Option String → Prop where
  | null : IsKeyText .null none
  | text (s : String) : IsKeyText (.text s) (some s)
  | brokenText (s : String) : IsKeyText (.brokenText s) (some s)

inductive IsMask : Json → Mask → Prop where
  | number (n : Int) : IsMask (.int n) (.number n)
  | text (s : String) : IsMask (.text s) (.text s)
  | brokenText (s : String) : IsMask (.brokenText s) (.text s)

theorem IsMask.passesAs {v : Json} {mask : Mask} (h : IsMask v mask) : PassesAs v mask.given := by
  cases h
  case number n     => exact .int n
  case text s       => exact .text s
  case brokenText s => exact .brokenText s

theorem Schema.optional_of_rel {α β : Type} {R : Json → β → Prop} {check : Check α} {f : β → α}
    {fields : Fields} {name : String} {b : Option β} (hc : ∀ v b, R v b → check v = .accepted (f b))
    (h : Option.Rel R (fields.get? name) b) (default : α) :
    optional fields name default check = .accepted (b.elim default f) := by
  rw [Schema.optional]
  generalize fields.get? name = v at h
  cases h
  case none       => rfl
  case some v b h => exact Checked.under_eq_accepted.mpr (hc v b h)

structure OverrideObject where
  triggerKey     : Option (Option String)
  triggerKeyStr  : Option (Option String)
  overrideKey    : Option (Option String)
  overrideKeyStr : Option (Option String)
  masks          : MaskField → Option Mask
  enabled        : Option Bool

namespace OverrideObject

variable {object : OverrideObject} {fields : Fields}

structure HeldBy (object : OverrideObject) (fields : Fields) : Prop where
  triggerKey     : Option.Rel IsKeyText (fields.get? "trigger_key") object.triggerKey
  triggerKeyStr  : Option.Rel IsKeyText (fields.get? "trigger_key_str") object.triggerKeyStr
  overrideKey    : Option.Rel IsKeyText (fields.get? "override_key") object.overrideKey
  overrideKeyStr : Option.Rel IsKeyText (fields.get? "override_key_str") object.overrideKeyStr
  masks          : ∀ m : MaskField, Option.Rel IsMask (fields.get? m.field) (object.masks m)
  enabled        : Option.Rel (fun v b => v = .bool b) (fields.get? "enabled") object.enabled

-- A key by its first spelling, or by its second one if the first one is missing or empty. It is empty if it
-- has neither.
def spelled (first second : Option (Option String)) : String :=
  if first.join.getD "" = "" then second.join.getD "" else first.join.getD ""

def trigger (object : OverrideObject) : String :=
  spelled object.triggerKey object.triggerKeyStr

def replacement (object : OverrideObject) : String :=
  spelled object.overrideKey object.overrideKeyStr

def call (object : OverrideObject) : OverrideText :=
  let start : OverrideText := { trigger := object.trigger, replacement := object.replacement }
  { start with
    layers         := (object.masks .layers).elim start.layers Mask.given
    triggerMods    := (object.masks .triggerMods).elim start.triggerMods Mask.given
    negativeMods   := (object.masks .negativeMods).elim start.negativeMods Mask.given
    suppressedMods := (object.masks .suppressedMods).elim start.suppressedMods Mask.given
    enabled        := object.enabled.elim start.enabled Json.bool }

def checked (object : OverrideObject) : OverrideFields where
  triggerKey     := object.triggerKey.join
  triggerKeyStr  := object.triggerKeyStr.join
  overrideKey    := object.overrideKey.join
  overrideKeyStr := object.overrideKeyStr.join
  layers         := (object.masks .layers).elim (.int 0xFFFF) Mask.given
  triggerMods    := (object.masks .triggerMods).elim (.int 0) Mask.given
  negativeMods   := (object.masks .negativeMods).elim (.int 0) Mask.given
  suppressedMods := (object.masks .suppressedMods).elim (.int 0) Mask.given
  enabled        := object.enabled.getD true

theorem optional_key {name : String} {key : Option (Option String)}
    (h : Option.Rel IsKeyText (fields.get? name) key) :
    optional fields name none (nullable Schema.text) = .accepted key.join := by
  have hc : ∀ v key, IsKeyText v key → nullable Schema.text v = .accepted (id key) := by
    rintro _ _ (_ | _ | _) <;> rfl
  rw [optional_of_rel hc h none]
  cases key <;> rfl

theorem HeldBy.checkedFrom (h : object.HeldBy fields) : CheckedFrom fields object.checked where
  triggerKey     := optional_key h.triggerKey
  triggerKeyStr  := optional_key h.triggerKeyStr
  overrideKey    := optional_key h.overrideKey
  overrideKeyStr := optional_key h.overrideKeyStr
  masks m := by
    have hc : ∀ v mask, IsMask v mask → checkMask v = .accepted mask.given :=
      fun v mask hv => checkMask_eq_accepted_iff.mpr hv.passesAs
    rw [optional_of_rel hc (h.masks m)]
    cases m <;> rfl
  enabled := by
    have hc : ∀ v b, v = .bool b → boolean v = .accepted (id b) := by
      rintro _ b rfl
      rfl
    rw [optional_of_rel hc h.enabled, checked]
    cases object.enabled <;> rfl

theorem firstSpelling?_join (first second : Option (Option String)) :
    firstSpelling? first.join second.join =
      if spelled first second = "" then none else some (spelled first second) := by
  have hf (key : Option String) :
      key.filter (· ≠ "") = if key.getD "" = "" then none else some (key.getD "") := by
    cases key
    case none     => rfl
    case some key => by_cases h : key = "" <;> simp [Option.filter, h]
  rw [firstSpelling?, hf, hf, spelled]
  by_cases h : first.join.getD "" = "" <;> simp [h]

variable {κ : Type} [KeyCodec κ] {keys : κ} {definition : String}

theorem HeldBy.readKeyOverrideJson_eq (h : object.HeldBy fields) (hd : readObject definition = .ok fields) :
    readKeyOverrideJson keys definition =
      if object.trigger = "" then refuseDefinition (.jsonTrigger definition)
      else if object.replacement = "" then refuseDefinition (.jsonReplacement definition)
      else readKeyOverride keys object.call := by
  have hr : readOverrideFields definition fields = .ok object.checked :=
    readOverrideFields_ok_iff.mpr h.checkedFrom
  have hc : object.call = object.checked.call object.trigger object.replacement := by
    rw [call, checked]
    cases object.enabled <;> rfl
  have ht : firstSpelling? object.checked.triggerKey object.checked.triggerKeyStr =
      if object.trigger = "" then none else some object.trigger :=
    firstSpelling?_join object.triggerKey object.triggerKeyStr
  have hs : firstSpelling? object.checked.overrideKey object.checked.overrideKeyStr =
      if object.replacement = "" then none else some object.replacement :=
    firstSpelling?_join object.overrideKey object.overrideKeyStr
  simp only [readKeyOverrideJson, hd, hc, hr, ht, hs, bind, Except.bind]
  by_cases object.trigger = ""
  case pos h => simp only [h, if_true]
  case neg h =>
    simp only [h, if_false]
    by_cases object.replacement = ""
    case pos h => simp only [h, if_true]
    case neg h =>
      simp only [h, if_false]
      rfl

end OverrideObject

namespace Definition

variable {κ : Type} [KeyCodec κ] {fields : Fields} {definition : String} {object : OverrideObject}
  {o : KeyOverride} {v : Json}

-- An object needs a spelling of either key. With both it is read just as the call with what it gives.
theorem readKeyOverrideJson_of_heldBy (keys : κ) (hd : readObject definition = .ok fields)
    (ho : object.HeldBy fields) :
    (object.trigger = "" →
      readKeyOverrideJson keys definition = .error (.refused (.definition (.jsonTrigger definition)))) ∧
      (object.trigger ≠ "" → object.replacement = "" →
        readKeyOverrideJson keys definition = .error (.refused (.definition (.jsonReplacement definition)))) ∧
      (object.trigger ≠ "" → object.replacement ≠ "" →
        readKeyOverrideJson keys definition = readKeyOverride keys object.call) := by
  rw [ho.readKeyOverrideJson_eq hd]
  refine ⟨?trigger, ?replacement, ?call⟩
  case trigger =>
    intro ht
    rw [if_pos ht]
    rfl
  case replacement =>
    intro ht hr
    rw [if_neg ht, if_pos hr]
    rfl
  case call =>
    intro ht hr
    rw [if_neg ht, if_neg hr]

theorem parse_basic_letters :
    KeyCodec.parse KeyTable.basic "KC_A" = some 4 ∧ KeyCodec.parse KeyTable.basic "KC_B" = some 5 := by
  have ha : "KC_A" = KeyTable.basic.stringify 4 := by
    rw [KeyTable.stringify_basic]
    decide +kernel
  have hb : "KC_B" = KeyTable.basic.stringify 5 := by
    rw [KeyTable.stringify_basic]
    decide +kernel
  rw [ha, hb]
  exact ⟨KeyTable.parse_stringify KeyTable.regular_basic (by decide) (by decide),
    KeyTable.parse_stringify KeyTable.regular_basic (by decide) (by decide)⟩

theorem readKeyOverride_letters {layers : Given} {mask : Layers}
    (h : readMask 16 "layers" layers = .ok mask.toNat) :
    readKeyOverride KeyTable.basic { trigger := "KC_A", replacement := "KC_B", layers } =
      .ok { trigger := 4, replacement := 5, layers := mask } := by
  have ht : Text.trimmed "KC_A" = "KC_A" := by decide +kernel
  have hr : Text.trimmed "KC_B" = "KC_B" := by decide +kernel
  rw [readKeyOverride_ok_iff, ht, hr]
  refine ⟨parse_basic_letters.left, parse_basic_letters.right, fun m => ?_, rfl, rfl⟩
  cases m
  case layers => exact h
  all_goals rfl

theorem readKeyOverrideJson_of_heldBy_spelled :
    readKeyOverrideJson KeyTable.basic ("\x7b\"trigger_key\":\"\",\"trigger_key_str\":\"KC_A\"," ++
        "\"override_key\":\"KC_B\",\"layers\":\"0xF\",\"note\":null\x7d") =
      .ok { trigger := 4, replacement := 5, layers := 15 } := by
  let object : OverrideObject := {
    triggerKey     := some (some "")
    triggerKeyStr  := some (some "KC_A")
    overrideKey    := some (some "KC_B")
    overrideKeyStr := none
    masks          := fun m => match m with | .layers => some (.text "0xF") | _ => none
    enabled        := none }
  let fields : Fields := [("trigger_key", .text ""), ("trigger_key_str", .text "KC_A"),
    ("override_key", .text "KC_B"), ("layers", .text "0xF"), ("note", .null)]
  have hd : readObject ("\x7b\"trigger_key\":\"\",\"trigger_key_str\":\"KC_A\"," ++
      "\"override_key\":\"KC_B\",\"layers\":\"0xF\",\"note\":null\x7d") = .ok fields := by
    rw [readObject]
    simp only [String.reduceAppend, String.reduceToList]
    rfl
  have ho : object.HeldBy fields := by
    refine ⟨.some (.text _), .some (.text _), .some (.text _), .none, fun m => ?_, .none⟩
    cases m
    case layers => exact .some (.text _)
    all_goals exact .none
  have hc : object.call = { trigger := "KC_A", replacement := "KC_B", layers := .text "0xF" } := rfl
  obtain ⟨-, -, h⟩ := readKeyOverrideJson_of_heldBy KeyTable.basic hd ho
  rw [h (by decide) (by decide), hc]
  exact readKeyOverride_letters rfl

theorem exists_isMask_iff {given : Given} (h : PassesAs v given) :
    (∃ mask, IsMask v mask ∧ mask.given = given) ↔ (∀ b, v ≠ .bool b) ∧ ∀ x, v ≠ .float x := by
  constructor
  case mp => rintro ⟨_, _ | _ | _, -⟩ <;> simp
  case mpr =>
    rintro ⟨hb, hx⟩
    cases h
    case int n        => exact ⟨.number n, .number n, rfl⟩
    case text s       => exact ⟨.text s, .text s, rfl⟩
    case brokenText s => exact ⟨.text s, .brokenText s, rfl⟩
    case bool b       => exact absurd rfl (hb b)
    case float        => exact absurd rfl (hx _)

-- A mask that an object gives is in the record as the number that the value passes for. That is the number
-- which the mask is read as by itself just if the value is neither a truth value nor a fractional number.
theorem readKeyOverrideJson_mask_iff {keys : κ} {m : MaskField} (hd : readObject definition = .ok fields)
    (h : readKeyOverrideJson keys definition = .ok o) (hv : fields.get? m.field = some v) :
    (∃ given, PassesAs v given ∧ readMask m.width m.name given = .ok (m.bits o)) ∧
      ((∃ mask, IsMask v mask ∧ readMask m.width m.name mask.given = .ok (m.bits o)) ↔
        (∀ b, v ≠ .bool b) ∧ ∀ x, v ≠ .float x) := by
  obtain ⟨given, hp, hm⟩ := readMask_of_json hd h hv
  refine ⟨⟨given, hp, hm⟩, ?_⟩
  rw [← exists_isMask_iff hp]
  constructor
  case mp =>
    rintro ⟨mask, hi, -⟩
    have ha := checkMask_eq_accepted_iff.mpr hi.passesAs
    rw [checkMask_eq_accepted_iff.mpr hp] at ha
    exact ⟨mask, hi, (Checked.accepted.inj ha).symm⟩
  case mpr =>
    rintro ⟨mask, hi, rfl⟩
    exact ⟨mask, hi, hm⟩

def switchText : String :=
  "\x7b\"trigger_key\":\"KC_A\",\"override_key\":\"KC_B\",\"layers\":true\x7d"

def switchFields : Fields :=
  [("trigger_key", .text "KC_A"), ("override_key", .text "KC_B"), ("layers", .bool true)]

theorem readObject_switchText : readObject switchText = .ok switchFields := by
  rw [readObject, switchText]
  simp only [String.reduceToList]
  rfl

theorem readKeyOverrideJson_switchText : readKeyOverrideJson KeyTable.basic switchText =
    .ok { trigger := 4, replacement := 5, layers := 1 } := by
  let checked : OverrideFields := ⟨some "KC_A", none, some "KC_B", none, .int 1, .int 0, .int 0, .int 0, true⟩
  have hc : CheckedFrom switchFields checked := check_eq_accepted_iff.mp rfl
  rw [readKeyOverrideJson_of_checked readObject_switchText hc rfl rfl]
  exact readKeyOverride_letters rfl

theorem readKeyOverrideJson_mask_true :
    (∃ given, PassesAs (.bool true) given ∧ readMask 16 "layers" given = .ok 1) ∧
      ¬∃ mask, IsMask (.bool true) mask ∧ readMask 16 "layers" mask.given = .ok 1 := by
  have hv : switchFields.get? MaskField.layers.field = some (.bool true) := rfl
  have ⟨hp, hi⟩ := readKeyOverrideJson_mask_iff readObject_switchText readKeyOverrideJson_switchText hv
  exact ⟨hp, fun h => (hi.mp h).left true rfl⟩

-- The object is read, and the mask that it gives is refused by itself.
theorem readKeyOverrideJson_true_for_mask :
    readObject switchText = .ok switchFields ∧ switchFields.get? "layers" = some (.bool true) ∧
      readKeyOverrideJson KeyTable.basic switchText = .ok { trigger := 4, replacement := 5, layers := 1 } ∧
      readMask 16 "layers" (.bool true) = .error (.refused (.definition (.mask "layers" (.bool true)))) :=
  ⟨readObject_switchText, rfl, readKeyOverrideJson_switchText, rfl⟩

end Definition
end KeySlots
