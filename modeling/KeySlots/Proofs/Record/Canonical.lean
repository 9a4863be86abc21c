import KeySlots.Proofs.Record.Patched
import Mathlib.Data.Set.List

namespace KeySlots

inductive Action.Canonical : Json → Prop
  | tap (key : Int) : Canonical (.object [("kind", .text "tap"), ("key", .int key)])
  | down (key : Int) : Canonical (.object [("kind", .text "down"), ("key", .int key)])
  | up (key : Int) : Canonical (.object [("kind", .text "up"), ("key", .int key)])
  | delay {ms : Int} (h : 0 ≤ ms) : Canonical (.object [("kind", .text "delay"), ("ms", .int ms)])
  | text (s : String) : Canonical (.object [("kind", .text "text"), ("text", .text s)])

theorem Action.canonical_iff {v : Json} : Canonical v ↔ ∃ a : Action, .object a.fields = v := by
  constructor
  case mp =>
    intro h
    cases h
    case tap key   => exact ⟨.tap key, rfl⟩
    case down key  => exact ⟨.down key, rfl⟩
    case up key    => exact ⟨.up key, rfl⟩
    case delay ms h =>
      obtain ⟨n, rfl⟩ := Int.eq_ofNat_of_zero_le h
      exact ⟨.delay n, rfl⟩
    case text s => exact ⟨.text s, rfl⟩
  case mpr =>
    rintro ⟨a, rfl⟩
    cases a
    case tap key   => exact .tap key
    case down key  => exact .down key
    case up key    => exact .up key
    case delay ms  => exact .delay (Int.natCast_nonneg ms)
    case text s    => exact .text s

theorem Action.exists_map_fields {actions : List Json} (h : ∀ v ∈ actions, Canonical v) :
    ∃ as : List Action, as.map (fun a => .object a.fields) = actions := by
  have hm : actions ∈ Set.range (List.map fun a : Action => Json.object a.fields) := by
    rw [Set.range_list_map]
    exact fun v hv => canonical_iff.mp (h v hv)
  exact hm

namespace Record

variable {kind : Kind} {v data : Json} {r : Record}

inductive Canonical : Kind → Json → Prop
  | keyMacro {id : Int} {actions : List Json} (hi : 0 ≤ id) (ha : ∀ a ∈ actions, Action.Canonical a) :
    Canonical .keyMacro (.object [("id", .int id), ("actions", .array actions)])
  | tapDance {id tap hold doubleTap tapHold term : Int} (hi : 0 ≤ id) (ht : 0 ≤ term) :
    Canonical .tapDance (.object [("id", .int id), ("tap", .int tap), ("hold", .int hold),
      ("doubletap", .int doubleTap), ("taphold", .int tapHold), ("term_ms", .int term)])
  | keyOverride {id trigger replacement layers mods negative suppressed : Int} {enabled : Bool}
    (hi : 0 ≤ id) (hl : 0 ≤ layers ∧ layers ≤ 0xFFFF) (hm : 0 ≤ mods ∧ mods ≤ 0xFF)
    (hn : 0 ≤ negative ∧ negative ≤ 0xFF) (hs : 0 ≤ suppressed ∧ suppressed ≤ 0xFF) :
    Canonical .keyOverride (.object [("id", .int id), ("trigger", .int trigger),
      ("replacement", .int replacement), ("layers", .int layers), ("trigger_mods", .int mods),
      ("negative_mods", .int negative), ("suppressed_mods", .int suppressed), ("enabled", .bool enabled)])
  | combo {id action term : Int} {triggers : List Int} {enabled : Bool} (hi : 0 ≤ id)
    (ht : triggers.length = 4) (hm : 0 ≤ term) :
    Canonical .combo (.object [("id", .int id), ("trigger_keys", .array (triggers.map .int)),
      ("action_key", .int action), ("term", .int term), ("enabled", .bool enabled)])

theorem canonical_toJson (r : Record) : Canonical r.kind r.toJson := by
  cases r
  case keyMacro m =>
    refine .keyMacro (Int.natCast_nonneg m.id) ?_
    exact List.forall_mem_map.mpr fun a _ => Action.canonical_iff.mpr ⟨a, rfl⟩
  case tapDance t => exact .tapDance (Int.natCast_nonneg t.id) (Int.natCast_nonneg t.term)
  case keyOverride o =>
    have hl := o.layers.isLt
    have hm := o.triggerMods.isLt
    have hn := o.negativeMods.isLt
    have hs := o.suppressedMods.isLt
    exact .keyOverride (Int.natCast_nonneg o.id) (by omega) (by omega) (by omega) (by omega)
  case combo c =>
    exact .combo (Int.natCast_nonneg c.id) c.triggers.size_toArray (Int.natCast_nonneg c.term)

theorem exists_bits {width : Nat} {n : Int} (h₀ : 0 ≤ n) (h : n < (2 ^ width : Nat)) :
    ∃ x : BitVec width, (x.toNat : Int) = n := by
  obtain ⟨m, rfl⟩ := Int.eq_ofNat_of_zero_le h₀
  have hm : m < 2 ^ width := Int.ofNat_lt.mp h
  exact ⟨BitVec.ofNatLT m hm, rfl⟩

-- Whatever has the form of a dump is the dump of a record.
theorem Canonical.exists_toJson (h : Canonical kind v) : ∃ r : Record, r.kind = kind ∧ r.toJson = v := by
  cases h
  case keyMacro id actions hi ha =>
    obtain ⟨n, rfl⟩ := Int.eq_ofNat_of_zero_le hi
    obtain ⟨actions, rfl⟩ := Action.exists_map_fields ha
    exact ⟨.keyMacro ⟨n, actions⟩, rfl, rfl⟩
  case tapDance id tap hold doubleTap tapHold term hi ht =>
    obtain ⟨n, rfl⟩ := Int.eq_ofNat_of_zero_le hi
    obtain ⟨t, rfl⟩ := Int.eq_ofNat_of_zero_le ht
    exact ⟨.tapDance ⟨n, tap, hold, doubleTap, tapHold, t⟩, rfl, rfl⟩
  case keyOverride id trigger replacement layers mods negative suppressed enabled hi hl hm hn hs =>
    have hb {n : Int} (h : 0 ≤ n ∧ n ≤ 0xFF) : ∃ x : Modifiers, (x.toNat : Int) = n :=
      exists_bits h.left (Int.lt_of_le_of_lt h.right (by decide))
    obtain ⟨n, rfl⟩ := Int.eq_ofNat_of_zero_le hi
    obtain ⟨layers, rfl⟩ : ∃ x : Layers, (x.toNat : Int) = layers :=
      exists_bits hl.left (Int.lt_of_le_of_lt hl.right (by decide))
    obtain ⟨triggerMods, rfl⟩ := hb hm
    obtain ⟨negativeMods, rfl⟩ := hb hn
    obtain ⟨suppressedMods, rfl⟩ := hb hs
    exact ⟨.keyOverride ⟨n, trigger, replacement, layers, triggerMods, negativeMods, suppressedMods,
      enabled⟩, rfl, rfl⟩
  case combo id action term triggers enabled hi ht hm =>
    obtain ⟨n, rfl⟩ := Int.eq_ofNat_of_zero_le hi
    obtain ⟨t, rfl⟩ := Int.eq_ofNat_of_zero_le hm
    exact ⟨.combo ⟨n, ⟨triggers.toArray, ht⟩, action, t, enabled⟩, rfl, rfl⟩

theorem kind_of_check (h : check kind data = .accepted r) : r.kind = kind := by
  cases data <;> simp only [check, Schema.model] at h
  case object fields => exact kind_of_checkFields h
  all_goals cases h

-- The values that the check leaves as they are, are the dumps.
theorem canonical_iff : Canonical kind v ↔ ∃ r, check kind v = .accepted r ∧ r.toJson = v := by
  constructor
  case mp =>
    intro h
    obtain ⟨r, rfl, rfl⟩ := h.exists_toJson
    exact ⟨r, r.check_toJson, rfl⟩
  case mpr =>
    rintro ⟨r, h, rfl⟩
    exact kind_of_check h ▸ r.canonical_toJson

-- A record that was accepted, however it was written, keeps to all bounds of its fields. Its dump is
-- accepted as the same record, and it is the same after it is dumped and merged with nothing.
theorem check_idempotent (h : check kind data = .accepted r) :
    Canonical kind r.toJson ∧ check kind r.toJson = .accepted r ∧ Slot.merge r [] = .ok r := by
  cases kind_of_check h
  refine ⟨r.canonical_toJson, r.check_toJson, ?_⟩
  exact Slot.merge_ok_iff_patched.mpr r.patched_nil

def laxCombo : Json :=
  .object [("id", .text " 3 "), ("trigger_keys", .array [.bool true, .float (.finite false 8 (-1))]),
    ("action_key", .text "+0_7.0"), ("colour", .null), ("enabled", .text "Off")]

def strictCombo : Record :=
  .combo { id := 3, triggers := #v[1, 4, 0, 0], action := 7, enabled := false }

theorem check_idempotent_laxCombo :
    check .combo laxCombo = .accepted strictCombo ∧ Canonical .combo strictCombo.toJson ∧
      check .combo strictCombo.toJson = .accepted strictCombo ∧
      Slot.merge strictCombo [] = .ok strictCombo := by
  have h : check .combo laxCombo = .accepted strictCombo := rfl
  exact ⟨h, check_idempotent h⟩

end Record
end KeySlots
