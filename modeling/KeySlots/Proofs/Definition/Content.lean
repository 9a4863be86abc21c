import KeySlots.Definition.Record
import KeySlots.Proofs.Failure

namespace KeySlots.Definition

variable {κ : Type} [KeyCodec κ] {keys : κ} {definition : String}

theorem isEmpty_readMacro {m : Macro} (h : readMacro keys definition = .ok m) :
    (Record.keyMacro m).isEmpty = false := by
  have ⟨actions, _, h⟩ := bind_ok_iff.mp h
  split at h
  case isTrue => simp [refuseDefinition, refuse] at h
  case isFalse he =>
    cases h
    simpa [Record.isEmpty] using he

theorem readTrigger_ok_iff {name : List Char} {code : KeyCode} :
    readTrigger keys name = .ok code ↔
      KeyCodec.parse keys (String.ofList name) = some code ∧ code ≠ KeyCode.none := by
  rw [readTrigger]
  cases KeyCodec.parse keys (String.ofList name)
  case none => simp [refuse]
  case some found =>
    by_cases h : found = KeyCode.none
    case pos => simp [refuse, h, eq_comm]
    case neg =>
      simp only [h, if_false, Except.ok.injEq, Option.some.injEq]
      exact ⟨fun he => ⟨he, he ▸ h⟩, And.left⟩

theorem mem_triggers {codes : List KeyCode} {triggers : Combo.Triggers} {code : KeyCode}
    (h : Combo.Triggers.ofList? codes = some triggers) (hm : code ∈ codes) : code ∈ triggers := by
  rw [Combo.Triggers.ofList?] at h
  split at h
  case isTrue =>
    cases h
    simp [Vector.mem_mk, hm]
  case isFalse => contradiction

theorem exists_trigger {names : List (List Char)} {codes : List KeyCode} (hn : names ≠ [])
    (h : names.mapM (readTrigger keys) = .ok codes) : ∃ code ∈ codes, code ≠ KeyCode.none := by
  cases names
  case nil => exact (hn rfl).elim
  case cons name names =>
    rw [List.mapM_cons] at h
    have ⟨code, hc, h⟩ := bind_ok_iff.mp h
    have ⟨rest, _, h⟩ := bind_ok_iff.mp h
    cases h
    exact ⟨code, List.mem_cons_self, (readTrigger_ok_iff.mp hc).right⟩

theorem readCombo_ok_iff {maxTriggers term : Given} {c : Combo} :
    readCombo keys definition maxTriggers term = .ok c ↔
      ∃ group token codes, Text.words definition.toList = [group, token] ∧
        (Text.pieces '+' group).isEmpty = false ∧
        maxTriggers.isBelow (Text.pieces '+' group).length = .ok false ∧
        (Text.pieces '+' group).mapM (readTrigger keys) = .ok codes ∧
        resolve keys .comboAction (String.ofList token) = .ok c.action ∧
        Combo.Triggers.ofList? codes = some c.triggers ∧ readTerm term = .ok c.term ∧ c.id = 0 ∧
        c.enabled = true := by
  constructor
  case mp =>
    intro h
    rw [readCombo] at h
    split at h
    case h_2 => cases h
    case h_1 group token hw =>
      dsimp only at h
      split at h
      case isTrue => cases h
      case isFalse hn =>
        obtain ⟨below, hl, h⟩ := bind_ok_iff.mp h
        split at h
        case isTrue => cases h
        case isFalse hb =>
          rw [Bool.eq_false_iff.mpr hb] at hl
          obtain ⟨codes, hc, h⟩ := bind_ok_iff.mp h
          obtain ⟨action, ha, h⟩ := bind_ok_iff.mp h
          obtain ⟨ms, hm, h⟩ := bind_ok_iff.mp h
          split at h
          case h_2 => cases h
          case h_1 triggers ht =>
            cases h
            exact ⟨group, token, codes, hw, by simpa using hn, hl, hc, ha, ht, hm, rfl, rfl⟩
  case mpr =>
    rintro ⟨group, token, codes, hw, hn, hl, hc, ha, ht, hm, hi, he⟩
    rw [readCombo, hw]
    dsimp only
    rw [hn, hl, hc, ha, hm]
    simp only [bind, Except.bind, ht]
    cases c
    cases hi
    cases he
    rfl

theorem isEmpty_readCombo {maxTriggers term : Given} {c : Combo}
    (h : readCombo keys definition maxTriggers term = .ok c) : (Record.combo c).isEmpty = false := by
  have ⟨_, _, _, _, hn, _, hc, _, ht, _⟩ := readCombo_ok_iff.mp h
  have ⟨code, hm, hne⟩ := exists_trigger (List.isEmpty_eq_false_iff.mp hn) hc
  have ⟨i, hi, he⟩ := Vector.mem_iff_getElem.mp (mem_triggers ht hm)
  simp only [Record.isEmpty, Bool.and_eq_false_imp, Vector.all_eq_false]
  exact fun _ => ⟨i, hi, by simpa [he] using hne⟩

theorem kind_of_isEmpty {context : Context} {kind : Kind} {r : Record}
    (h : readRecord keys context kind definition = .ok r) (he : r.isEmpty = true) :
    kind = .tapDance ∨ kind = .keyOverride := by
  cases kind
  case tapDance    => exact .inl rfl
  case keyOverride => exact .inr rfl
  case keyMacro =>
    have ⟨m, hm, hr⟩ := map_ok_iff.mp h
    simp [← hr, isEmpty_readMacro hm] at he
  case combo =>
    have ⟨c, hc, hr⟩ := map_ok_iff.mp h
    simp [← hr, isEmpty_readCombo hc] at he

end KeySlots.Definition
