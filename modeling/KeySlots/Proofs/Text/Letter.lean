import KeySlots.Proofs.Text.Ascii
import KeySlots.Proofs.Text.Piece

namespace KeySlots.Text

variable {cs ds : List Char}

-- A text in other cases of its ASCII letters and with blanks around it.
def Respells (cs ds : List Char) : Prop :=
  ∃ before middle after, cs = before ++ middle ++ after ∧ (∀ c ∈ before, isBlank c) ∧
    (∀ c ∈ after, isBlank c) ∧ middle.map Char.toUpper = ds.map Char.toUpper

theorem toUpper_cases (c : Char) : c.toUpper = c ∨ (c.toUpper.isAlpha ∧ c.isAlpha) := by
  by_cases h : c.isAlpha
  case pos => exact .inr ⟨(isAlpha_toUpper c).trans h, h⟩
  case neg =>
    rw [isAlpha_iff, not_or] at h
    exact .inl (toUpper_of_not h.right)

theorem toUpper_toUpper (c : Char) : c.toUpper.toUpper = c.toUpper := by
  by_cases h : 97 ≤ c.toNat ∧ c.toNat ≤ 122
  case pos =>
    refine toUpper_of_not ?_
    rw [toNat_toUpper h]
    omega
  case neg => rw [toUpper_of_not h, toUpper_of_not h]

theorem isBlank_toUpper (c : Char) : isBlank c.toUpper = isBlank c := by
  obtain h | ⟨hu, hc⟩ := toUpper_cases c
  case inl => rw [h]
  case inr => rw [isBlank_of_isAlpha hu, isBlank_of_isAlpha hc]

theorem upperChar_of_isAlpha {c : Char} (h : c.isAlpha) : upperChar c = [c.toUpper] := by
  have hc : c.toNat < 0x80 := by
    rw [isAlpha_iff] at h
    omega
  rw [upperChar, if_pos hc]

theorem upperChar_toUpper (c : Char) : upperChar c.toUpper = upperChar c := by
  obtain h | ⟨hu, hc⟩ := toUpper_cases c
  case inl => rw [h]
  case inr => rw [upperChar_of_isAlpha hu, upperChar_of_isAlpha hc, toUpper_toUpper]

theorem upper_map_toUpper (cs : List Char) : upper (cs.map Char.toUpper) = upper cs := by
  simp only [upper, List.flatMap_map, upperChar_toUpper]

theorem trim_map_toUpper (cs : List Char) : trim (cs.map Char.toUpper) = (trim cs).map Char.toUpper := by
  have hb : isBlank ∘ Char.toUpper = isBlank := funext isBlank_toUpper
  rw [trim, trimOf, List.dropWhile_map, hb, ← List.map_reverse, List.dropWhile_map, hb, ← List.map_reverse]
  rfl

theorem Respells.map_trim (h : Respells cs ds) : (trim cs).map Char.toUpper = (trim ds).map Char.toUpper := by
  obtain ⟨before, middle, after, rfl, hb, ha, hm⟩ := h
  rw [trim_pad hb ha, ← trim_map_toUpper, hm, trim_map_toUpper]

theorem Respells.upper_trim (h : Respells cs ds) : upper (trim cs) = upper (trim ds) := by
  rw [← upper_map_toUpper (trim cs), h.map_trim, upper_map_toUpper]

end KeySlots.Text
