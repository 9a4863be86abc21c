import KeySlots.Text.Basic
import KeySlots.Text.Uppercase

namespace KeySlots.Text

variable {c : Char} {cs : List Char}

theorem isUpper_iff : c.isUpper ↔ 65 ≤ c.toNat ∧ c.toNat ≤ 90 :=
  decide_eq_true_iff

theorem isLower_iff : c.isLower ↔ 97 ≤ c.toNat ∧ c.toNat ≤ 122 := by
  delta Char.isLower
  rw [Bool.and_eq_true, decide_eq_true_iff, decide_eq_true_iff]
  exact Iff.rfl

theorem isAlpha_iff :
    c.isAlpha ↔ (65 ≤ c.toNat ∧ c.toNat ≤ 90) ∨ (97 ≤ c.toNat ∧ c.toNat ≤ 122) := by
  rw [← isUpper_iff, ← isLower_iff, ← Bool.or_eq_true]
  exact Iff.rfl

theorem toUpper_of_not (h : ¬(97 ≤ c.toNat ∧ c.toNat ≤ 122)) : c.toUpper = c :=
  dif_neg h

theorem toNat_toUpper (h : 97 ≤ c.toNat ∧ c.toNat ≤ 122) : c.toUpper.toNat = c.toNat - 32 := by
  have hd : ('A'.val - 'a'.val).toNat = 4294967264 := rfl
  have hc : c.val.toNat = c.toNat := rfl
  have hl : 'a'.val ≤ c.val ∧ c.val ≤ 'z'.val := h
  delta Char.toUpper
  rw [dif_pos hl]
  change (c.val + ('A'.val - 'a'.val)).toNat = _
  rw [UInt32.toNat_add]
  omega

theorem isAlpha_toUpper (c : Char) : c.toUpper.isAlpha = c.isAlpha := by
  rw [Bool.eq_iff_iff, isAlpha_iff, isAlpha_iff]
  by_cases h : 97 ≤ c.toNat ∧ c.toNat ≤ 122
  case pos =>
    rw [toNat_toUpper h]
    omega
  case neg => rw [toUpper_of_not h]

theorem isBlank_of_isAlpha (h : c.isAlpha) : isBlank c = false := by
  rw [isAlpha_iff] at h
  simp [isBlank, blankRanges]
  omega

theorem upper_eq_map (h : ∀ c ∈ cs, c.toNat < 0x80) : upper cs = cs.map Char.toUpper := by
  induction cs
  case nil => rfl
  case cons c cs hi =>
    obtain ⟨hc, h⟩ := List.forall_mem_cons.mp h
    simpa [upper, upperChar, hc] using hi h

end KeySlots.Text
