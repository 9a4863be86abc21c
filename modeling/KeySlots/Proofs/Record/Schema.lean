import KeySlots.Proofs.Entries
import KeySlots.Record.Schema
import KeySlots.Slot.Patch

namespace KeySlots

namespace Schema.Checked

variable {α β : Type}

-- The check accepts a value of which `P` holds. Checks put together from others come apart this way.
def Accepts (x : Checked α) (P : α → Prop) : Prop :=
  ∃ a, x = accepted a ∧ P a

theorem eq_accepted_iff {x : Checked α} {a : α} : x = accepted a ↔ x.Accepts (· = a) := by
  simp [Accepts]

theorem accepts_accepted {a : α} {P : α → Prop} : (accepted a).Accepts P ↔ P a := by
  simp [Accepts]

theorem accepts_map {g : α → β} {x : Checked α} {P : β → Prop} :
    (g <$> x).Accepts P ↔ x.Accepts fun a => P (g a) := by
  cases x <;> simp [Accepts, Functor.map, map]

theorem accepts_seq {g : Checked (α → β)} {x : Checked α} {P : β → Prop} :
    (g <*> x).Accepts P ↔ g.Accepts fun h => x.Accepts fun a => P (h a) := by
  cases g <;> cases x <;> simp [Accepts, Seq.seq, ap]

theorem accepts_andThen {x : Checked α} {check : α → Checked β} {P : β → Prop} :
    (x.andThen check).Accepts P ↔ x.Accepts fun a => (check a).Accepts P := by
  cases x <;> simp [Accepts, andThen]

@[simp]
theorem under_eq_accepted {step : String} {x : Checked α} {a : α} :
    x.under step = accepted a ↔ x = accepted a := by
  cases x <;> simp [under]

end Schema.Checked

open Schema Checked

theorem Schema.natural_of_isNumber {v : Json} {id : Int} {n : Nat} (hv : v.isNumber id)
    (h : natural v = .accepted n) : (n : Int) = id := by
  rw [natural, eq_accepted_iff, accepts_andThen] at h
  have ⟨m, hm, hn⟩ := h
  have he : m = id := by
    cases v <;> simp [Json.isNumber] at hv
    case bool b => simpa [integer, hv] using hm.symm
    case int k => simpa [integer, hv] using hm.symm
    case float x =>
      simp only [integer, hv] at hm
      split at hm
      case isTrue =>
        split at hm
        case isTrue => simpa using hm.symm
        case isFalse => cases hm
      case isFalse => cases hm
  dsimp only at hn
  split at hn
  case isTrue => simp [Accepts, problem] at hn
  case isFalse =>
    have := accepts_accepted.mp hn
    omega

namespace Schema

variable {α β : Type} {fields : Fields} {name : String} {check : Check α} {v : Json} {a : α}

theorem required_accepted (hv : Entries.get? fields name = some v) (hc : check v = .accepted a) :
    required fields name check = .accepted a := by
  rw [required, hv]
  exact under_eq_accepted.mpr hc

theorem optional_accepted (hv : Entries.get? fields name = some v) (hc : check v = .accepted a)
    (dflt : α) : Schema.optional fields name dflt check = .accepted a := by
  rw [Schema.optional, hv]
  exact under_eq_accepted.mpr hc

@[simp]
theorem natural_int (n : Nat) : natural (.int n) = .accepted n := by
  simp only [natural, integer, andThen]
  rw [if_neg (by omega), Int.toNat_natCast]

@[simp]
theorem bits_int {width : Nat} (x : BitVec width) : bits width (.int x.toNat) = .accepted x := by
  have hx : (x.toNat : Int) < (2 ^ width : Nat) := by
    have := x.isLt
    exact_mod_cast this
  simp only [bits, integerBetween, integer, andThen]
  rw [if_neg (by omega), if_neg (by omega)]
  simp [Checked.map]

theorem items_map {g : β → Json} {check : Check β} (h : ∀ b, check (g b) = .accepted b) (n : Nat)
    (bs : List β) : items check n (bs.map g) = .accepted bs := by
  induction bs generalizing n
  case nil => rfl
  case cons b bs hi =>
    rw [List.map_cons, items, hi, under_eq_accepted.mpr (h b)]
    rfl

end Schema

theorem Action.check_fields (a : Action) : Action.check (.object a.fields) = .accepted a := by
  cases a
  case delay ms =>
    have hk : Entries.get? (delay ms).fields "kind" = some (.text "delay") := rfl
    have hm : required (delay ms).fields "ms" natural = accepted ms :=
      required_accepted rfl (natural_int ms)
    simp only [Action.check, hk, hm]
    rfl
  all_goals rfl

theorem Combo.checkTriggers_toList (triggers : Combo.Triggers) :
    Combo.checkTriggers (.array (triggers.toList.map .int)) = .accepted triggers := by
  have ha : array integer (.array (triggers.toList.map .int)) = .accepted triggers.toList :=
    items_map (g := Json.int) (fun _ => rfl) 0 _
  have ht : Combo.Triggers.ofList? triggers.toList = some triggers := by
    simp [Combo.Triggers.ofList?, Vector.toList]
  rw [Combo.checkTriggers, ha, andThen, ht]

namespace Record

theorem kind_of_checkFields {kind : Kind} {fields : Fields} {r : Record}
    (h : checkFields kind fields = .accepted r) : r.kind = kind := by
  cases kind <;> rw [checkFields, eq_accepted_iff, accepts_map] at h <;> obtain ⟨_, _, rfl⟩ := h <;> rfl

theorem id_of_checkFields {kind : Kind} {fields : Fields} {r : Record}
    (h : checkFields kind fields = .accepted r) : optional fields "id" 0 natural = .accepted r.id := by
  cases kind <;> simp only [checkFields, eq_accepted_iff, accepts_map, accepts_seq] at h
  case keyMacro    => obtain ⟨id, hi, _, _, rfl⟩ := h; exact hi
  case tapDance    => obtain ⟨id, hi, _, _, _, _, _, _, _, _, _, _, rfl⟩ := h; exact hi
  case keyOverride => obtain ⟨id, hi, _, _, _, _, _, _, _, _, _, _, _, _, _, _, rfl⟩ := h; exact hi
  case combo       => obtain ⟨id, hi, _, _, _, _, _, _, _, _, rfl⟩ := h; exact hi

theorem map_fst_fields (r : Record) : r.fields.map (·.1) = fieldNames r.kind := by
  cases r <;> rfl

theorem get?_id_fields (r : Record) : Entries.get? r.fields "id" = some (.int r.id) := by
  cases r <;> rfl

-- The numbers that a record shows are within their bounds, and a combo has all of its trigger keys.
structure Bounded (r : Record) : Prop where
  delays   : ∀ actions, r.fields.get? "actions" = some (.array actions) →
    ∀ fields ms, .object fields ∈ actions → Entries.get? fields "ms" = some (.int ms) → 0 ≤ ms
  terms    : ∀ name ∈ ["term", "term_ms"], ∀ n, r.fields.get? name = some (.int n) → 0 ≤ n
  layers   : ∀ n, r.fields.get? "layers" = some (.int n) → 0 ≤ n ∧ n < 65536
  masks    : ∀ name ∈ ["trigger_mods", "negative_mods", "suppressed_mods"],
    ∀ n, r.fields.get? name = some (.int n) → 0 ≤ n ∧ n < 256
  triggers : ∀ keys, r.fields.get? "trigger_keys" = some (.array keys) → keys.length = 4

theorem bounded (r : Record) : r.Bounded := by
  cases r <;> constructor
  case keyMacro.delays m =>
    intro actions ha fields ms hf hm
    cases ha
    have ⟨a, _, he⟩ := List.mem_map.mp hf
    cases he
    cases a
    case delay d _ =>
      have : ms = d := by simpa [Action.fields, Entries.get?_cons, eq_comm] using hm
      omega
    all_goals simp [Action.fields, Entries.get?_cons] at hm
  case keyOverride.layers o =>
    have := o.layers.isLt
    simp [fields, Entries.get?_cons]
    omega
  case keyOverride.masks o =>
    have := o.triggerMods.isLt
    have := o.negativeMods.isLt
    have := o.suppressedMods.isLt
    simp [fields, Entries.get?_cons]
    omega
  case combo.triggers c =>
    have : c.triggers.toList.length = 4 := c.triggers.size_toArray
    simpa [fields, Entries.get?_cons]
  all_goals simp [fields, Entries.get?_cons]

end Record

namespace Slot

theorem merge_ok_iff {r patched : Record} {patch : Patch} :
    merge r patch = .ok patched ↔
      Record.checkFields r.kind (r.fields.merge patch) = .accepted patched := by
  simp only [merge, Record.check, model]
  cases Record.checkFields r.kind (r.fields.merge patch) <;> simp [refuseDefinition, refuse]

theorem kind_of_merge {r patched : Record} {patch : Patch} (h : merge r patch = .ok patched) :
    patched.kind = r.kind :=
  Record.kind_of_checkFields (merge_ok_iff.mp h)

theorem id_of_merge {r patched : Record} {patch : Patch} (h : merge r patch = .ok patched)
    (hk : keepsSlot r.id patch) : patched.id = r.id := by
  have hi := Record.id_of_checkFields (merge_ok_iff.mp h)
  rw [Schema.optional, Entries.get?_merge, Record.get?_id_fields] at hi
  cases hg : Entries.get? patch.reverse "id" <;>
    simp only [hg, Option.none_or, Option.some_or, under_eq_accepted] at hi
  case none => exact Int.ofNat_inj.mp (natural_of_isNumber (by simp [Json.isNumber]) hi)
  case some v =>
    simp only [keepsSlot, List.all_eq_true] at hk
    have hv := hk _ (List.mem_reverse.mp (Entries.mem_of_get? hg))
    exact Int.ofNat_inj.mp (natural_of_isNumber (by simpa using hv) hi)

end Slot
end KeySlots
