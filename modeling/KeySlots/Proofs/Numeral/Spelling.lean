import KeySlots.Proofs.Numeral.Digits
import KeySlots.Proofs.Text.Letter

namespace KeySlots

open Text (Respells)

variable {cs ds : List Char} {c : Char} {m : Nat}

namespace Text

theorem toUpper_of_isDigit (h : c.toUpper.isDigit) : c.toUpper = c := by
  obtain hc | ⟨ha, -⟩ := toUpper_cases c
  case inl => exact hc
  case inr =>
    have hd : 48 ≤ c.toUpper.toNat ∧ c.toUpper.toNat ≤ 57 := Char.isDigit_iff_toNat.mp h
    rw [isAlpha_iff] at ha
    omega

theorem eq_of_map_toUpper (hd : ∀ d ∈ ds, d.isDigit) (h : cs.map Char.toUpper = ds.map Char.toUpper) :
    cs = ds := by
  have hs : ds.map Char.toUpper = ds := by
    refine (List.map_congr_left fun d hm => toUpper_of_not ?_).trans (List.map_id ds)
    have hd : 48 ≤ d.toNat ∧ d.toNat ≤ 57 := Char.isDigit_iff_toNat.mp (hd d hm)
    omega
  rw [hs] at h
  refine Eq.trans ?_ h
  refine ((List.map_congr_left fun c hm => toUpper_of_isDigit ?_).trans (List.map_id cs)).symm
  exact hd _ (h ▸ List.mem_map_of_mem hm)

end Text

namespace Numeral

-- The text spells a number. In decimal it has as many digits as a numeral may have.
inductive Spells (m : Nat) (cs : List Char) : Prop
  | decimal {zeros : Nat} (h : Respells cs (List.replicate zeros '0' ++ Nat.toDigits 10 m))
    (hl : zeros + (Nat.toDigits 10 m).length ≤ maxDigits)
  | hexadecimal {zeros : Nat}
    (h : Respells cs ('0' :: 'x' :: (List.replicate zeros '0' ++ Nat.toDigits 16 m)))

theorem digitValue?_digitChar {d : Nat} (h : d < 10) : Text.digitValue? d.digitChar = some d := by
  revert d
  decide

theorem digitValue?_of_isAlpha (h : c.isAlpha) : Text.digitValue? c = none := by
  have ho : ∀ origin ∈ Text.digitZeros, origin = 0x30 ∨ 0x660 ≤ origin := by decide
  rw [Text.isAlpha_iff] at h
  rw [Text.digitValue?, Option.map_eq_none_iff, List.find?_eq_none]
  intro origin hm
  have := ho origin hm
  simp
  omega

theorem hexValue?_eq (c : Char) : hexValue? c =
    if 97 ≤ c.toNat ∧ c.toNat ≤ 102 then some (c.toNat - 97 + 10)
    else if 65 ≤ c.toNat ∧ c.toNat ≤ 70 then some (c.toNat - 65 + 10) else Text.digitValue? c := by
  have hc (a b : Char) : a ≤ b ↔ a.toNat ≤ b.toNat := Iff.rfl
  simp only [hexValue?, Bool.and_eq_true, decide_eq_true_eq, hc]
  rfl

theorem hexValue?_toUpper (c : Char) : hexValue? c.toUpper = hexValue? c := by
  by_cases h : 97 ≤ c.toNat ∧ c.toNat ≤ 122
  case neg => rw [Text.toUpper_of_not h]
  case pos =>
    have ha : c.isAlpha := Text.isAlpha_iff.mpr (.inr h)
    have hu : c.toUpper.isAlpha := (Text.isAlpha_toUpper c).trans ha
    rw [hexValue?_eq, hexValue?_eq, digitValue?_of_isAlpha ha, digitValue?_of_isAlpha hu,
      Text.toNat_toUpper h]
    grind

theorem map_hexValue?_toUpper (cs : List Char) : (cs.map Char.toUpper).map hexValue? = cs.map hexValue? := by
  simp [Function.comp_def, hexValue?_toUpper]

theorem decimal?_of_map {digits : List Nat} (hn : cs ≠ [])
    (h : cs.map Text.digitValue? = digits.map some) (hl : cs.length ≤ maxDigits) :
    decimal? cs = some (Int.ofNat (ofDigits 10 digits)) := by
  have hs : splitSign cs = (false, cs) := by
    unfold splitSign
    split
    case h_3 => rfl
    all_goals
      obtain ⟨_, _, _, hd, _⟩ := List.map_eq_cons_iff.mp h.symm
      cases hd
  have hu : Text.digitValue? '_' = none := by decide
  have hd : digits.length ≤ maxDigits := by
    have := congrArg List.length h
    simp at this
    omega
  simp [decimal?, hs, groupedDigits_of_map hu hn h, hd, signed]

theorem integer?_of_hexadecimal {x : Char} (hx : x.toUpper = 'X') (h : Text.trim cs = '0' :: x :: ds) :
    integer? cs = (hexadecimal? ds).map Int.ofNat := by
  have hx : x = 'x' ∨ x = 'X' := by
    by_cases hl : 97 ≤ x.toNat ∧ x.toNat ≤ 122
    case neg => exact .inr ((Text.toUpper_of_not hl).symm.trans hx)
    case pos =>
      have hn : x.toNat - 32 = 88 := (Text.toNat_toUpper hl).symm.trans (congrArg Char.toNat hx)
      have hn : x.toNat = 'x'.toNat := (by omega : x.toNat = 120)
      exact .inl (Char.toNat_inj.mp hn)
  rw [integer?, h]
  obtain rfl | rfl := hx <;> rfl

theorem integer?_of_digits (hd : ∀ d ∈ ds, d.isDigit) (h : Text.trim cs = ds) :
    integer? cs = decimal? ds := by
  rw [integer?, h]
  split
  case h_3 => rfl
  all_goals
    rename_i hz
    have hx := hd _ (List.mem_cons_of_mem _ List.mem_cons_self)
    cases hx

theorem integer?_decimal {zeros : Nat} (h : Respells cs (List.replicate zeros '0' ++ Nat.toDigits 10 m))
    (hl : zeros + (Nat.toDigits 10 m).length ≤ maxDigits) : integer? cs = some (m : Int) := by
  have hd : ∀ d ∈ List.replicate zeros '0' ++ Nat.toDigits 10 m, d.isDigit :=
    List.forall_mem_append.mpr ⟨fun d hd => (List.mem_replicate.mp hd).right ▸ rfl,
      forall_toDigits (by decide) (by decide) m⟩
  have hn : List.replicate zeros '0' ++ Nat.toDigits 10 m ≠ [] := by simp [Nat.toDigits_ne_nil]
  have ht := h.map_trim
  rw [Text.trim_eq_self fun d hm => Text.isBlank_of_isDigit (hd d hm)] at ht
  obtain ⟨digits, hv, hm⟩ := exists_digits Text.digitValue? (by decide) (fun _ => digitValue?_digitChar)
    zeros m
  rw [integer?_of_digits hd (Text.eq_of_map_toUpper hd ht), decimal?_of_map hn hv (by simpa using hl), hm]
  rfl

theorem integer?_hexadecimal {zeros : Nat}
    (h : Respells cs ('0' :: 'x' :: (List.replicate zeros '0' ++ Nat.toDigits 16 m))) :
    integer? cs = some (m : Int) := by
  have hb : ∀ d ∈ '0' :: 'x' :: (List.replicate zeros '0' ++ Nat.toDigits 16 m), Text.isBlank d = false := by
    have hz : ∀ d ∈ List.replicate zeros '0', Text.isBlank d = false :=
      fun d hd => (List.mem_replicate.mp hd).right ▸ by decide
    refine List.forall_mem_cons.mpr ⟨by decide, List.forall_mem_cons.mpr ⟨by decide, ?_⟩⟩
    exact List.forall_mem_append.mpr ⟨hz, forall_toDigits (by decide) (by decide) m⟩
  have ht := h.map_trim
  rw [Text.trim_eq_self hb] at ht
  -- what is left without the blanks is a zero, an `x` in either case and the digits in any case
  obtain ⟨z, rest, hr, hz, ht⟩ := List.map_eq_cons_iff.mp ht
  obtain ⟨x, rest, rfl, hx, ht⟩ := List.map_eq_cons_iff.mp ht
  have hz : z = '0' := (Text.toUpper_of_isDigit (by rw [hz]; decide)).symm.trans hz
  subst hz
  have hn : rest ≠ [] := by
    rintro rfl
    simp [Nat.toDigits_ne_nil] at ht
  obtain ⟨digits, hv, hm⟩ := exists_digits hexValue? (by decide)
    (fun _ hd => (hexValue?_toUpper _).symm.trans (hexValue?_digitChar hd)) zeros m
  have hd : rest.map hexValue? = digits.map some := by
    rw [← map_hexValue?_toUpper, ht, map_hexValue?_toUpper, hv]
  rw [integer?_of_hexadecimal hx hr, hexadecimal?_of_map hn hd, hm]
  rfl

theorem integer?_of_spells (h : Spells m cs) : integer? cs = some (m : Int) := by
  cases h
  case decimal h hl  => exact integer?_decimal h hl
  case hexadecimal h => exact integer?_hexadecimal h

end Numeral
end KeySlots
