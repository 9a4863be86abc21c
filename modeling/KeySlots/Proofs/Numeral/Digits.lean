import KeySlots.Numeral.Basic

namespace KeySlots.Numeral

variable {cs : List Char} {n : Nat} {value : Char → Option Nat} {digits : List Nat}

theorem toList_decimalText (n : Nat) : (decimalText n).toList = Nat.toDigits 10 n := by
  simp [decimalText]

theorem isNatural_toDigits (n : Nat) : isNatural (Nat.toDigits 10 n) := by
  have hn : Nat.toDigits 10 n ≠ [] := Nat.toDigits_ne_nil
  have hd : (Nat.toDigits 10 n).all Char.isDigit :=
    List.all_eq_true.mpr fun _ hc => Nat.isDigit_of_mem_toDigits (by decide) (by decide) hc
  simp [isNatural, hn, hd]

theorem naturalValue_toDigits (n : Nat) : naturalValue (Nat.toDigits 10 n) = n :=
  Nat.ofDigitChars_ten_toDigits

theorem moreDigits_of_map (hu : value '_' = none) (h : cs.map value = digits.map some) :
    moreDigits value cs = some digits := by
  induction cs generalizing digits
  case nil =>
    cases List.map_eq_nil_iff.mp h.symm
    rfl
  case cons c cs hi =>
    obtain ⟨d, rest, rfl, hd, hr⟩ := List.map_eq_cons_iff.mp h.symm
    have hne : c ≠ '_' := by
      rintro rfl
      simp [hu] at hd
    rw [moreDigits]
    case x_1 => exact fun _ _ he => absurd he hne
    simp [← hd, hi hr.symm]

theorem groupedDigits_of_map (hu : value '_' = none) (hn : cs ≠ []) (h : cs.map value = digits.map some) :
    groupedDigits value cs = some digits := by
  obtain ⟨c, cs, rfl⟩ := List.exists_cons_of_ne_nil hn
  obtain ⟨d, rest, rfl, hd, hr⟩ := List.map_eq_cons_iff.mp h.symm
  simp [groupedDigits, ← hd, moreDigits_of_map hu hr.symm]

theorem ofDigits_concat (base : Nat) (digits : List Nat) (d : Nat) :
    ofDigits base (digits ++ [d]) = ofDigits base digits * base + d := by
  simp [ofDigits]

theorem ofDigits_zeros (base zeros : Nat) (digits : List Nat) :
    ofDigits base (List.replicate zeros 0 ++ digits) = ofDigits base digits := by
  induction zeros
  case zero => rfl
  case succ zeros hi => simpa [ofDigits, List.replicate_succ] using hi

theorem hexValue?_digitChar {d : Nat} (h : d < 16) : hexValue? d.digitChar.toUpper = some d := by
  revert d
  decide

-- The digits of a number, with zeros in front of them, are read as digits that count the number.
theorem exists_digits (value : Char → Option Nat) {base : Nat} (hb : 1 < base)
    (h : ∀ d < base, value d.digitChar = some d) (zeros n : Nat) :
    ∃ digits, (List.replicate zeros '0' ++ Nat.toDigits base n).map value = digits.map some ∧
      ofDigits base digits = n := by
  have hd (n : Nat) :
      ∃ digits, (Nat.toDigits base n).map value = digits.map some ∧ ofDigits base digits = n := by
    induction n using Nat.strongRecOn
    case ind n hi =>
      rw [Nat.toDigits_eq_if hb]
      split
      case isTrue hn => exact ⟨[n], by simp [h n hn], by simp [ofDigits]⟩
      case isFalse hn =>
        obtain ⟨digits, hd, hv⟩ := hi (n / base) (Nat.div_lt_self (by omega) hb)
        refine ⟨digits ++ [n % base], by simp [hd, h _ (Nat.mod_lt n (by omega))], ?_⟩
        rw [ofDigits_concat, hv, Nat.div_add_mod']
  have hz : value '0' = some 0 := h 0 (by omega)
  obtain ⟨digits, hd, hv⟩ := hd n
  exact ⟨List.replicate zeros 0 ++ digits, by simp [hz, hd], by rw [ofDigits_zeros, hv]⟩

theorem toList_hexField (n : Nat) : (hexField n).toList = (hexDigits 4 n).map Char.toUpper := by
  rw [hexField, if_neg (by omega), String.toList_ofList, Int.natAbs_natCast]

theorem forall_toDigits {p : Char → Prop} {base : Nat} (hb : 1 < base) (h : ∀ d < base, p d.digitChar)
    (n : Nat) : ∀ c ∈ Nat.toDigits base n, p c := by
  induction n using Nat.strongRecOn
  case ind n hi =>
    rw [Nat.toDigits_eq_if hb]
    split
    case isTrue hn => exact List.forall_mem_singleton.mpr (h n hn)
    case isFalse hn =>
      have hm : n % base < base := Nat.mod_lt n (by omega)
      exact List.forall_mem_append.mpr
        ⟨hi (n / base) (Nat.div_lt_self (by omega) hb), List.forall_mem_singleton.mpr (h (n % base) hm)⟩

theorem forall_hexDigits {p : Char → Prop} (h : ∀ d < 16, p (Nat.digitChar d)) (width n : Nat) :
    ∀ c ∈ hexDigits width n, p c := by
  intro c hc
  obtain hc | hc := List.mem_append.mp hc
  case inl => exact (List.mem_replicate.mp hc).right ▸ h 0 (by decide)
  case inr => exact forall_toDigits (by decide) h n c hc

theorem hexadecimal?_of_map (hn : cs ≠ []) (h : cs.map hexValue? = digits.map some) :
    hexadecimal? cs = some (ofDigits 16 digits) := by
  have hu : hexValue? '_' = none := by decide
  have hs (rest : List Char) : cs ≠ '_' :: rest := by
    rintro rfl
    obtain ⟨_, _, _, hd, _⟩ := List.map_eq_cons_iff.mp h.symm
    simp [hu] at hd
  rw [hexadecimal?]
  case x_1 => exact hs
  rw [groupedDigits_of_map hu hn h, Option.map_some]

theorem hexadecimal?_minus (cs : List Char) : hexadecimal? ('-' :: cs) = none := by
  have hv : hexValue? '-' = none := by decide
  simp [hexadecimal?, groupedDigits, hv]

theorem hexadecimal?_hexDigits (width n : Nat) :
    hexadecimal? ((hexDigits width n).map Char.toUpper) = some n := by
  obtain ⟨digits, hd, hv⟩ := exists_digits (fun c => hexValue? c.toUpper) (by decide)
    (fun _ => hexValue?_digitChar) (width - (Nat.toDigits 16 n).length) n
  have hm : ((hexDigits width n).map Char.toUpper).map hexValue? = digits.map some :=
    (List.map_map ..).trans hd
  have hn : (hexDigits width n).map Char.toUpper ≠ [] := by
    simp [hexDigits, padZeros, Nat.toDigits_ne_nil]
  rw [hexadecimal?_of_map hn hm, hv]

end KeySlots.Numeral
