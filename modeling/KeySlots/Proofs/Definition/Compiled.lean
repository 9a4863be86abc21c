import KeySlots.Proofs.Definition.Combo
import KeySlots.Proofs.Definition.Failure
import KeySlots.Proofs.Definition.Spelling
import KeySlots.Proofs.Definition.TapDance
import KeySlots.Proofs.Record.Canonical

namespace KeySlots

open Text (HasDigits)

def Action.codes : Action → List KeyCode
  | tap key | down key | up key => [key]
  | delay _ | text _ => []

def Record.codes : Record → List KeyCode
  | keyMacro m    => m.actions.flatMap Action.codes
  | tapDance t    => [t.tap, t.hold, t.doubleTap, t.tapHold]
  | keyOverride o => [o.trigger, o.replacement]
  | combo c       => c.action :: c.triggers.toList

variable {κ : Type} [KeyCodec κ] {keys : κ} {definition : String} {r : Record} {kind : Kind}
  {tappingTerm maxTriggers comboTerm : Nat}

-- The code is that of a token, or of the key that does nothing.
def KeyCodec.Knows (keys : κ) (code : KeyCode) : Prop :=
  code = KeyCode.none ∨ ∃ token, KeyCodec.parse keys token = some code

open KeyCodec (Knows)

namespace Definition

open TapDanceClause

theorem knows_of_resolve {use : KeyUse} {token : String} {code : KeyCode}
    (h : resolve keys use token = .ok code) : Knows keys code :=
  .inr ⟨token, resolve_ok_iff.mp h⟩

theorem knows_of_readAction {piece : List Char} {a : Action} (h : readAction keys piece = .ok a) :
    ∀ code ∈ a.codes, Knows keys code := by
  have ht (h : tapOfPiece keys piece = .ok a) : ∀ code ∈ a.codes, Knows keys code := by
    obtain ⟨code, hc, rfl⟩ := map_ok_iff.mp h
    exact List.forall_mem_singleton.mpr (knows_of_resolve hc)
  rw [readAction] at h
  split at h
  case h_1 => exact ht h
  case h_2 call _ =>
    split at h
    case isTrue =>
      obtain ⟨ms, -, rfl⟩ := map_ok_iff.mp h
      exact List.forall_mem_nil _
    case isFalse =>
      split at h
      case isTrue =>
        cases h
        exact List.forall_mem_nil _
      case isFalse =>
        split at h
        case h_2 => exact ht h
        case h_1 action _ _ hn _ =>
          obtain ⟨code, hc, rfl⟩ := map_ok_iff.mp h
          have hk : Knows keys code := knows_of_resolve hc
          obtain ⟨-, rfl⟩ | ⟨-, rfl⟩ | ⟨-, rfl⟩ := keyAction?_eq_some_iff.mp hn <;>
            exact List.forall_mem_singleton.mpr hk

theorem knows_of_readMacro {m : Macro} (h : readMacro keys definition = .ok m) :
    ∀ code ∈ (Record.keyMacro m).codes, Knows keys code := by
  obtain ⟨ha, -, -⟩ := readMacro_ok_iff.mp h
  intro code hc
  obtain ⟨a, hm, hc⟩ := List.mem_flatMap.mp hc
  obtain ⟨piece, -, hr⟩ := exists_of_forall₂ (mapM_ok_iff.mp ha) a hm
  exact knows_of_readAction hr code hc

theorem knows_of_readTapDanceClause {piece : List Char} {press : Press} {code : KeyCode}
    (h : readTapDanceClause keys piece = .ok (.key press code)) : Knows keys code := by
  rw [readTapDanceClause] at h
  split at h
  case h_1 => cases h
  case h_2 =>
    split at h
    case isTrue =>
      obtain ⟨ms, -, he⟩ := map_ok_iff.mp h
      cases he
    case isFalse =>
      split at h
      case h_2 => cases h
      case h_1 =>
        obtain ⟨other, hc, he⟩ := map_ok_iff.mp h
        cases he
        exact knows_of_resolve hc

theorem mem_of_lastCode {press : Press} {clauses : List TapDanceClause} {code : KeyCode}
    (h : lastCode press clauses = some code) : .key press code ∈ clauses := by
  obtain ⟨clause, hm, hc⟩ := List.mem_filterMap.mp (List.mem_of_getLast? h)
  cases clause
  case term => cases hc
  case key other _ =>
    rw [code?] at hc
    split at hc
    case isTrue hp =>
      cases hc
      exact hp ▸ hm
    case isFalse => cases hc

theorem knows_of_readTapDance {t : TapDance} (h : readTapDance keys definition (.int tappingTerm) = .ok t) :
    t.id = 0 ∧ ∀ code ∈ (Record.tapDance t).codes, Knows keys code := by
  rw [readTapDance_eq, bind_ok_iff] at h
  obtain ⟨clauses, hr, h⟩ := h
  have hl (press : Press) : Knows keys ((lastCode press clauses).getD KeyCode.none) := by
    cases hc : lastCode press clauses
    case none => exact .inl rfl
    case some code =>
      obtain ⟨piece, -, hp⟩ := exists_of_forall₂ (mapM_ok_iff.mp hr) _ (mem_of_lastCode hc)
      exact knows_of_readTapDanceClause hp
  split at h
  case isFalse => cases h
  case isTrue =>
    cases h
    have hc := changedBy_foldl clauses { term := tappingTerm }
    refine ⟨hc.id, ?_⟩
    simp only [Record.codes, List.forall_mem_cons, hc.tap, hc.hold, hc.doubleTap, hc.tapHold]
    exact ⟨hl .tap, hl .hold, hl .doubleTap, hl .tapHold, by simp⟩

theorem knows_of_readKeyOverrideJson {o : KeyOverride} (h : readKeyOverrideJson keys definition = .ok o) :
    o.id = 0 ∧ ∀ code ∈ (Record.keyOverride o).codes, Knows keys code := by
  obtain ⟨fields, hd, -⟩ := bind_ok_iff.mp h
  obtain ⟨checked, trigger, replacement, -, h⟩ := exists_call_of_json hd h
  obtain ⟨ht, hr, -, -, hi⟩ := readKeyOverride_ok_iff.mp h
  exact ⟨hi, List.forall_mem_cons.mpr ⟨.inr ⟨_, ht⟩, List.forall_mem_singleton.mpr (.inr ⟨_, hr⟩)⟩⟩

theorem knows_of_saysCombo {codes : List KeyCode} {c : Combo} (h : SaysCombo keys definition codes c.action)
    (hc : c.TriggeredBy codes) :
    (∀ code ∈ codes, code ≠ KeyCode.none) ∧ ∀ code ∈ (Record.combo c).codes, Knows keys code := by
  obtain ⟨group, token, -, hs, ha⟩ := h
  have hm : ∀ code ∈ codes, KeyCodec.Knows keys code ∧ code ≠ KeyCode.none := by
    intro code hm
    obtain ⟨name, -, hp, hn⟩ := exists_of_forall₂ hs code hm
    exact ⟨.inr ⟨_, hp⟩, hn⟩
  refine ⟨fun code hc => (hm code hc).right, List.forall_mem_cons.mpr ⟨.inr ⟨_, ha⟩, ?_⟩⟩
  rw [hc]
  refine List.forall_mem_append.mpr ⟨fun code hc => (hm code hc).left, fun code hc => ?_⟩
  exact .inl (List.mem_replicate.mp hc).right

end Definition

namespace Record

def Filled (maxTriggers : Nat) : Record → Prop
  | keyMacro m => m.actions ≠ []
  | combo c    => ∃ codes, c.TriggeredBy codes ∧ 1 ≤ codes.length ∧ codes.length ≤ maxTriggers ∧
    ∀ code ∈ codes, code ≠ KeyCode.none
  | tapDance _ | keyOverride _ => True

-- What a record that comes of a definition keeps to. It has no slot yet, and its keys have codes of 16 bits.
structure Compiled (kind : Kind) (maxTriggers : Nat) (r : Record) : Prop where
  ofKind   : r.kind = kind
  unplaced : r.id = 0
  codes    : ∀ code ∈ r.codes, 0 ≤ code ∧ code ≤ 0xFFFF
  bounds   : Canonical kind r.toJson
  filled   : r.Filled maxTriggers
  checked  : check kind r.toJson = .accepted r

end Record

namespace Definition

theorem content_of_readRecord
    (h : readRecord keys ⟨.int tappingTerm, .int maxTriggers, .int comboTerm⟩ kind definition = .ok r) :
    r.id = 0 ∧ (∀ code ∈ r.codes, Knows keys code) ∧ r.Filled maxTriggers := by
  cases kind
  case keyMacro =>
    obtain ⟨m, hm, rfl⟩ := map_ok_iff.mp h
    obtain ⟨-, hn, hi⟩ := readMacro_ok_iff.mp hm
    exact ⟨hi, knows_of_readMacro hm, hn⟩
  case tapDance =>
    obtain ⟨t, ht, rfl⟩ := map_ok_iff.mp h
    obtain ⟨hi, hk⟩ := knows_of_readTapDance ht
    exact ⟨hi, hk, trivial⟩
  case keyOverride =>
    obtain ⟨o, ho, rfl⟩ := map_ok_iff.mp h
    obtain ⟨hi, hk⟩ := knows_of_readKeyOverrideJson ho
    exact ⟨hi, hk, trivial⟩
  case combo =>
    obtain ⟨c, hc, rfl⟩ := map_ok_iff.mp h
    obtain ⟨codes, hs, hn, hl, ht, -, hi, -⟩ := readCombo_iff_said.mp hc
    obtain ⟨hz, hk⟩ := knows_of_saysCombo hs ht
    exact ⟨hi, hk, codes, ht, hn, hl, hz⟩

-- With a table of 16-bit codes every record that is read keeps to all of this. If none is read, the
-- definition is refused or has too long a numeral, and never is it a check of a record that fails.
theorem readRecord_compiled {table : KeyTable}
    (ht : ∀ entry ∈ table.codes, 0 ≤ entry.snd ∧ entry.snd ≤ 0xFFFF) (hm : maxTriggers ≤ 4)
    (tappingTerm comboTerm : Nat) (kind : Kind) (definition : String) :
    let context : Context := ⟨.int tappingTerm, .int maxTriggers, .int comboTerm⟩
    (∀ r, readRecord table context kind definition = .ok r → r.Compiled kind maxTriggers) ∧
      (∀ f, readRecord table context kind definition = .error f →
        (∃ refusal, f = .refused refusal) ∨
          ∃ digits, Numeral.maxDigits < digits ∧ HasDigits digits definition.toList ∧
            f = .faulted (.overlongNumeral digits)) ∧
      ∀ issues, readRecord table context kind definition ≠ .error (.faulted (.invalid issues)) := by
  intro context
  have hb {code : KeyCode} (hk : Knows table code) : 0 ≤ code ∧ code ≤ 0xFFFF := by
    obtain rfl | ⟨token, hp⟩ := hk
    case inl => decide
    case inr => exact KeyTable.parse_bounds ht hp
  have hf : FailsOnly (fun f => (∃ refusal, f = .refused refusal) ∨
      ∃ digits, Numeral.maxDigits < digits ∧ HasDigits digits definition.toList ∧
        f = .faulted (.overlongNumeral digits)) (readRecord table context kind definition) := by
    refine readRecord_admits ⟨?_, ?_⟩ hm
    case refine_1 => exact fun r _ => .inl ⟨r, rfl⟩
    case refine_2 => exact fun digits hl hd => .inr ⟨digits, hl, hd, rfl⟩
  refine ⟨fun r h => ?_, hf, fun issues h => ?_⟩
  case refine_1 =>
    obtain ⟨hi, hk, hn⟩ := content_of_readRecord h
    have hr : r.kind = kind := kind_of_readRecord h
    exact ⟨hr, hi, fun code hm => hb (hk code hm), hr ▸ r.canonical_toJson, hn, hr ▸ r.check_toJson⟩
  case refine_2 =>
    obtain ⟨_, he⟩ | ⟨_, _, _, he⟩ := hf _ h <;> cases he

end Definition

open Definition

def KeyTable.aliased : KeyTable where
  codes := [("FIRST", 4), ("B", 0xFFFF), ("A", 4)]
  names := [(0xFFFF, "B"), (4, "A")]

theorem Definition.readRecord_compiled_aliased :
    let keys := KeyTable.aliased
    let context : Context := ⟨.int (200 : Nat), .int (2 : Nat), .int (50 : Nat)⟩
    let combo := Record.combo { triggers := #v[4, 0xFFFF, 0, 0], action := 0x7FFF }
    KeyTable.build [("A", 4), ("b", 0xFFFF)] [("first", "a")] = .ok keys ∧
      (∀ entry ∈ keys.codes, 0 ≤ entry.snd ∧ entry.snd ≤ 0xFFFF) ∧
      readRecord keys context .combo " FIRST++b 0x7fff " = .ok combo ∧ combo.Compiled .combo 2 := by
  intro keys context combo
  have hb : KeyTable.build [("A", 4), ("b", 0xFFFF)] [("first", "a")] = .ok keys := by rfl
  have ht : ∀ entry ∈ keys.codes, 0 ≤ entry.snd ∧ entry.snd ≤ 0xFFFF :=
    KeyTable.forall_codes_build (P := fun code => 0 ≤ code ∧ code ≤ 0xFFFF) (by decide) hb
  have hr : readRecord keys context .combo " FIRST++b 0x7fff " = .ok combo := by rfl
  exact ⟨hb, ht, hr, (readRecord_compiled ht (by decide) 200 50 .combo _).left _ hr⟩

end KeySlots
