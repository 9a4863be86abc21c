import KeySlots.Definition.Record
import KeySlots.Proofs.Definition.OverrideFields
import KeySlots.Proofs.Json.Reader

namespace KeySlots

theorem Numeral.isWritable_of_word {n : Int} (h : n.natAbs < 0x10000000000000000) : isWritable n := by
  have hw : 0x10000000000000000 ≤ 10 ^ 20 := by decide
  have hm : 10 ^ 20 ≤ 10 ^ maxDigits := Nat.pow_le_pow_right (by decide) (by decide)
  rw [isWritable, decide_eq_true_eq]
  exact Nat.lt_of_lt_of_le h (Nat.le_trans hw hm)

namespace Definition

variable {κ : Type} [KeyCodec κ] {keys : κ} {definition : String} {given : Given}

def Writable (given : Given) : Prop :=
  ∀ n ∈ given.numbers, Numeral.isWritable n

structure Plain (given : Given) : Prop where
  writable : Writable given
  whole    : ∀ x, given ≠ .float x

theorem plain_of_checkMask {v : Json} (hv : v.Within Numeral.maxDigits)
    (h : checkMask v = .accepted given) : Plain given := by
  refine ⟨?_, fun x he => by cases checkMask_eq_accepted_iff.mp h <;> cases he⟩
  have hw (n : Int) (hn : n.natAbs < 0x10000000000000000) : Writable (.int n) := by
    intro m hm
    cases List.mem_singleton.mp hm
    exact Numeral.isWritable_of_word hn
  cases checkMask_eq_accepted_iff.mp h
  case text | brokenText => exact nofun
  case int n =>
    intro m hm
    cases List.mem_singleton.mp hm
    exact decide_eq_true (hv n (List.mem_singleton_self _))
  case bool b => exact hw _ (by cases b <;> decide)
  case float x n _ _ hl hg =>
    have hb : Schema.wordBound = 0x8000000000000000 := rfl
    exact hw _ (by omega)

theorem plain_of_mask {fields : Fields} {name : String} {default : Int}
    (hf : Json.WithinFields Numeral.maxDigits fields) (hd : Numeral.isWritable default)
    (h : Schema.optional fields name (.int default) checkMask = .accepted given) : Plain given := by
  rw [Schema.optional] at h
  split at h
  case h_1 v hv =>
    obtain ⟨_, _, he, _⟩ := List.lookup_eq_some_iff.mp hv
    have hm : (name, v) ∈ fields := by simp [he]
    exact plain_of_checkMask (hf _ hm) (Schema.Checked.under_eq_accepted.mp h)
  case h_2 =>
    cases h
    refine ⟨List.forall_mem_singleton.mpr hd, fun x hx => ?_⟩
    cases hx

theorem masks_of_check {fields : Fields} {given : OverrideFields}
    (hf : Json.WithinFields Numeral.maxDigits fields)
    (h : OverrideFields.check fields = .accepted given) :
    Plain given.layers ∧ Plain given.triggerMods ∧ Plain given.negativeMods ∧
      Plain given.suppressedMods := by
  have hm (m : MaskField) : Plain (m.checked given) := by
    refine plain_of_mask hf (Numeral.isWritable_of_word ?_) ((check_eq_accepted_iff.mp h).masks m)
    cases m <;> decide
  exact ⟨hm .layers, hm .triggerMods, hm .negativeMods, hm .suppressedMods⟩

theorem within_readObject {fields : Fields} (h : readObject definition = .ok fields) :
    Json.WithinFields Numeral.maxDigits fields := by
  rw [readObject] at h
  split at h
  case h_1 hr =>
    cases h
    exact Json.within_object_iff.mp (Json.read_within hr)
  all_goals cases h

def delay (digits : List Char) : String :=
  String.ofList ('D' :: 'E' :: 'L' :: 'A' :: 'Y' :: '(' :: (digits ++ [')']))

theorem readNatural_overlong {digits : List Char} {e : DefinitionError} (hd : digits.all Char.isDigit)
    (hl : Numeral.maxDigits < digits.length) :
    readNatural digits e = .error (.faulted (.overlongNumeral digits.length)) := by
  have ht : Text.trim digits = digits :=
    Text.trim_eq_self fun c hc => Text.isBlank_of_isDigit (List.all_eq_true.mp hd c hc)
  have hn : Numeral.isNatural digits := by
    have : digits ≠ [] := List.ne_nil_of_length_pos (by omega)
    simp [Numeral.isNatural, hd, this]
  simp only [readNatural, ht, hn, hl, if_true]
  rfl

theorem readMacro_delay {digits : List Char} (hd : digits.all Char.isDigit)
    (hl : Numeral.maxDigits < digits.length) :
    readMacro keys (delay digits) = .error (.faulted (.overlongNumeral digits.length)) := by
  have hc : Calls "DELAY" digits (delay digits).toList :=
    ⟨"DELAY".toList, by decide, by simp [delay]⟩
  have hm : ',' ∉ digits := fun h => absurd (List.all_eq_true.mp hd ',' h) (by decide)
  have hp : Text.pieces ',' (delay digits).toList = [(delay digits).toList] :=
    Text.pieces_eq_self (by simp [delay]) (comma_notMem_of_calls (by decide) hm hc)
      (trim_of_calls (by decide) hc)
  have ha : readAction keys (delay digits).toList =
      .error (.faulted (.overlongNumeral digits.length)) := by
    simp only [readAction, ofText?_of_calls (by decide) hc, if_true, readNatural_overlong hd hl]
    rfl
  rw [readMacro, hp, List.mapM_cons, ha]
  rfl

end Definition
end KeySlots
