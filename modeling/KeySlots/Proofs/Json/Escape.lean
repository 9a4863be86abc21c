import KeySlots.Json.Printer
import KeySlots.Json.Reader
import KeySlots.Proofs.Numeral.Digits

namespace KeySlots

variable {c : Char} {cs : List Char} {rest : List Char} {unit : Nat}

namespace Numeral

theorem hexDigits_succ (width n : Nat) :
    hexDigits (width + 2) n = hexDigits (width + 1) (n / 16) ++ [(n % 16).digitChar] := by
  simp only [hexDigits, padZeros]
  rw [Nat.toDigits_eq_if (by decide)]
  split
  case isTrue h =>
    have hd : n / 16 = 0 := Nat.div_eq_of_lt h
    have hm : n % 16 = n := Nat.mod_eq_of_lt h
    simp [hd, hm, ← List.replicate_succ']
  case isFalse h => simp

theorem hexDigits_four (h : unit < 65536) :
    hexDigits 4 unit = [(unit / 4096).digitChar, (unit / 256 % 16).digitChar, (unit / 16 % 16).digitChar,
      (unit % 16).digitChar] := by
  have hd : unit / 16 / 16 / 16 = unit / 4096 := by omega
  have hm : unit / 16 / 16 = unit / 256 := by omega
  have hl : hexDigits 1 (unit / 4096) = [(unit / 4096).digitChar] := by
    simp [hexDigits, padZeros, Nat.toDigits_of_lt_base (show unit / 4096 < 16 by omega)]
  rw [hexDigits_succ, hexDigits_succ, hexDigits_succ, hd, hm, hl]
  rfl

end Numeral

namespace Json

open Printer (escape unitEscape)
open Reader (chars joinUnits isHighSurrogate isLowSurrogate)

def units (c : Char) : List Nat :=
  if c.toNat ≤ 0xFFFF then [c.toNat]
  else [0xD800 + (c.toNat - 0x10000) / 0x400, 0xDC00 + (c.toNat - 0x10000) % 0x400]

theorem hexValue?_digitChar {d : Nat} (h : d < 16) : Reader.hexValue? d.digitChar = some d := by
  revert d
  decide

-- An escape by number is read as the unit, as long as the string goes on or ends after it.
theorem chars_unitEscape (h : unit < 65536) (hr : rest ≠ []) :
    chars (unitEscape unit ++ rest) = (chars rest).map fun (us, after) => (unit :: us, after) := by
  obtain ⟨e, rest, rfl⟩ := List.exists_cons_of_ne_nil hr
  have hu : Reader.codeUnit? (unit / 4096).digitChar (unit / 256 % 16).digitChar
      (unit / 16 % 16).digitChar (unit % 16).digitChar = some unit := by
    rw [Reader.codeUnit?, hexValue?_digitChar (by omega), hexValue?_digitChar (by omega),
      hexValue?_digitChar (by omega), hexValue?_digitChar (by omega)]
    simp only [Option.bind_eq_bind, Option.bind_some, Option.some_inj]
    omega
  rw [unitEscape, Numeral.hexDigits_four h]
  simp only [List.cons_append, List.nil_append, chars, hu]

theorem chars_cons (hq : c ≠ '"') (hb : c ≠ '\\') (hc : 0x20 ≤ c.toNat) :
    chars (c :: rest) = (chars rest).map fun (us, after) => (c.toNat :: us, after) := by
  rw [chars, if_neg (Nat.not_lt.mpr hc)]
  case x_1 => exact hq
  case x_2 => exact fun h _ => hb h
  case x_3 => exact fun _ _ _ _ _ _ h _ => hb h
  case x_4 => exact fun _ _ h _ => hb h

theorem chars_letter {e : Char} (h : Reader.escapeChar? e = some c) :
    chars ('\\' :: e :: rest) = (chars rest).map fun (us, after) => (c.toNat :: us, after) := by
  have hu : e ≠ 'u' := by
    rintro rfl
    cases h
  rw [chars, if_neg hu, h]
  case x_1 => exact fun _ _ _ _ _ _ he _ => hu he

theorem toNat_cases (c : Char) : c.toNat < 0xD800 ∨ (0xDFFF < c.toNat ∧ c.toNat < 0x110000) :=
  c.valid

theorem units_lt (c : Char) : ∀ unit ∈ units c, unit < 65536 := by
  have := toNat_cases c
  rw [units]
  split
  case isTrue =>
    rw [List.forall_mem_singleton]
    omega
  case isFalse =>
    rw [List.forall_mem_cons, List.forall_mem_singleton]
    omega

-- A character is printed by a letter after a backslash, as itself, or by the numbers of its units.
theorem escape_cases (c : Char) :
    (∃ e, Reader.escapeChar? e = some c ∧ e.toNat < 0x80 ∧ units c = [c.toNat] ∧ escape c = ['\\', e]) ∨
      (c ≠ '"' ∧ c ≠ '\\' ∧ 0x20 ≤ c.toNat ∧ c.toNat < 0x80 ∧ units c = [c.toNat] ∧ escape c = [c]) ∨
      escape c = (units c).flatMap unitEscape := by
  rw [escape]
  split
  case isTrue h =>
    obtain rfl | rfl : c = '"' ∨ c = '\\' := by simpa using h
    case inl => exact .inl ⟨'"', rfl, by decide, rfl, rfl⟩
    case inr => exact .inl ⟨'\\', rfl, by decide, rfl, rfl⟩
  case isFalse hn =>
    split
    case isTrue h => exact .inl ⟨'n', h ▸ rfl, by decide, h ▸ rfl, rfl⟩
    split
    case isTrue h => exact .inl ⟨'r', h ▸ rfl, by decide, h ▸ rfl, rfl⟩
    split
    case isTrue h => exact .inl ⟨'t', h ▸ rfl, by decide, h ▸ rfl, rfl⟩
    split
    case isTrue h => exact .inl ⟨'b', h ▸ rfl, by decide, h ▸ rfl, rfl⟩
    split
    case isTrue h => exact .inl ⟨'f', h ▸ rfl, by decide, h ▸ rfl, rfl⟩
    split
    case isTrue h =>
      have hc : 0x20 ≤ c.toNat ∧ c.toNat ≤ 0x7E := by simpa using h
      have hq : c ≠ '"' ∧ c ≠ '\\' := by simpa using hn
      exact .inr (.inl ⟨hq.left, hq.right, hc.left, by omega, if_pos (by omega), rfl⟩)
    case isFalse =>
      refine .inr (.inr ?_)
      rw [units]
      split <;> simp

theorem chars_unitEscapes {us : List Nat} (h : ∀ unit ∈ us, unit < 65536) (hr : rest ≠ []) :
    chars (us.flatMap unitEscape ++ rest) = (chars rest).map fun (more, after) => (us ++ more, after) := by
  induction us
  case nil => cases hc : chars rest <;> simp [hc, Except.map]
  case cons unit us hi =>
    obtain ⟨hu, h⟩ := List.forall_mem_cons.mp h
    rw [List.flatMap_cons, List.append_assoc, chars_unitEscape hu (by simp [hr]), hi h]
    cases chars rest <;> rfl

theorem chars_escape (c : Char) (hr : rest ≠ []) :
    chars (escape c ++ rest) = (chars rest).map fun (us, after) => (units c ++ us, after) := by
  obtain ⟨e, he, -, hu, hp⟩ | ⟨hq, hb, hc, -, hu, hp⟩ | hp := escape_cases c
  case inl =>
    rw [hp, hu]
    exact chars_letter he
  case inr.inl =>
    rw [hp, hu]
    exact chars_cons hq hb hc
  case inr.inr =>
    rw [hp]
    exact chars_unitEscapes (units_lt c) hr

theorem chars_string (cs rest : List Char) :
    chars (cs.flatMap escape ++ '"' :: rest) = .ok (cs.flatMap units, rest) := by
  induction cs
  case nil => rfl
  case cons c cs hi =>
    rw [List.flatMap_cons, List.append_assoc, chars_escape c (by simp), hi]
    rfl

theorem joinUnits_cons (h : unit < 0xD800 ∨ 0xDFFF < unit) (us : List Nat) :
    joinUnits (unit :: us) = some (Char.ofNat unit) :: joinUnits us := by
  have hh : isHighSurrogate unit = false := by
    simp [isHighSurrogate]
    omega
  have hl : isLowSurrogate unit = false := by
    simp [isLowSurrogate]
    omega
  cases us <;> simp [joinUnits, hh, hl]

theorem joinUnits_pair {high low : Nat} (hh : isHighSurrogate high) (hl : isLowSurrogate low)
    (us : List Nat) :
    joinUnits (high :: low :: us) = some (Reader.joinSurrogates high low) :: joinUnits us := by
  simp [joinUnits, hh, hl]

theorem joinUnits_units (c : Char) (us : List Nat) : joinUnits (units c ++ us) = some c :: joinUnits us := by
  have hc := toNat_cases c
  rw [units]
  split
  case isTrue =>
    rw [List.singleton_append, joinUnits_cons (by omega), Char.ofNat_toNat]
  case isFalse h =>
    have hh : isHighSurrogate (0xD800 + (c.toNat - 0x10000) / 0x400) := by
      simp [isHighSurrogate]
      omega
    have hl : isLowSurrogate (0xDC00 + (c.toNat - 0x10000) % 0x400) := by
      simp [isLowSurrogate]
      omega
    have hj : 0x10000 + (0xD800 + (c.toNat - 0x10000) / 0x400 - 0xD800) * 0x400 +
        (0xDC00 + (c.toNat - 0x10000) % 0x400 - 0xDC00) = c.toNat := by
      omega
    rw [List.cons_append, List.singleton_append, joinUnits_pair hh hl, Reader.joinSurrogates, hj,
      Char.ofNat_toNat]

theorem joinUnits_flatMap (cs : List Char) : joinUnits (cs.flatMap units) = cs.map some := by
  induction cs
  case nil => rfl
  case cons c cs hi => rw [List.flatMap_cons, joinUnits_units, hi, List.map_cons]

theorem stringText_units (s : String) : Reader.stringText (s.toList.flatMap units) = s := by
  simp [Reader.stringText, joinUnits_flatMap, Function.comp_def]

theorem stringValue_units (s : String) : Reader.stringValue (s.toList.flatMap units) = .text s := by
  rw [Reader.stringValue, stringText_units, joinUnits_flatMap]
  simp

theorem ascii_string (cs : List Char) : ∀ c ∈ Printer.string cs, c.toNat < 0x80 := by
  have hu (unit : Nat) : ∀ c ∈ unitEscape unit, c.toNat < 0x80 := by
    refine List.forall_mem_cons.mpr ⟨by decide, List.forall_mem_cons.mpr ⟨by decide, ?_⟩⟩
    exact Numeral.forall_hexDigits (by decide) 4 unit
  have he : ∀ c ∈ cs.flatMap escape, c.toNat < 0x80 := by
    intro d hd
    obtain ⟨c, -, hd⟩ := List.mem_flatMap.mp hd
    obtain ⟨e, -, ha, -, hp⟩ | ⟨-, -, -, ha, -, hp⟩ | hp := escape_cases c <;> rw [hp] at hd
    case inl =>
      obtain rfl | rfl : d = '\\' ∨ d = e := by simpa using hd
      case inl => decide
      case inr => exact ha
    case inr.inl => exact List.mem_singleton.mp hd ▸ ha
    case inr.inr =>
      obtain ⟨unit, -, hd⟩ := List.mem_flatMap.mp hd
      exact hu unit d hd
  rw [Printer.string, List.forall_mem_append, List.forall_mem_cons, List.forall_mem_singleton]
  exact ⟨⟨by decide, he⟩, by decide⟩

end Json
end KeySlots
