import KeySlots.Proofs.Definition.Numeral
import KeySlots.Proofs.Numeral.Spelling

namespace KeySlots.Definition

variable {name : String} {given : Given} {m : Nat}

-- What is given stands for a number: it is the number, or a text that spells it.
inductive StandsFor (m : Nat) : Given → Prop
  | int : StandsFor m (.int m)
  | text {s : String} (h : Numeral.Spells m s.toList) : StandsFor m (.text s)

theorem readMaskNumber_of_standsFor (h : StandsFor m given) : readMaskNumber name given = .ok (m : Int) := by
  cases h
  case int    => rfl
  case text h => rw [readMaskNumber, Numeral.integer?_of_spells h]

theorem refused_of_writable {α : Type} {e : DefinitionError} (h : ∀ n ∈ e.numbers, Numeral.isWritable n) :
    (refuseDefinition e : Except Failure α) = .error (.refused (.definition e)) :=
  congrArg Except.error (Refusal.failure_of_writable h)

theorem readMaskNumber_error {f : Failure} (hw : Writable given) (h : readMaskNumber name given = .error f) :
    f = .refused (.definition (.mask name given)) ∨
      (∃ x, given = .float x) ∧ f = .faulted .fractionAsText := by
  have hr : (refuseDefinition (.mask name given) : Except Failure Int) = _ := refused_of_writable hw
  cases given <;> simp only [readMaskNumber] at h
  case int     => cases h
  case bool    => exact .inl (Except.error.inj (hr.symm.trans h)).symm
  case float x => exact .inr ⟨⟨x, rfl⟩, (Except.error.inj h).symm⟩
  case text =>
    split at h
    case h_1 => cases h
    case h_2 => exact .inl (Except.error.inj (hr.symm.trans h)).symm

theorem readMask_of_number {n : Int} (width : Nat) (hw : Writable given)
    (h : readMaskNumber name given = .ok n) :
    readMask width name given =
      if 0 ≤ n ∧ n.toNat < 2 ^ width then .ok n.toNat
      else .error (.refused (.definition (.maskWidth name given width))) := by
  have hr : (refuseDefinition (.maskWidth name given width) : Except Failure Nat) = _ :=
    refused_of_writable hw
  have hl : ¬(width : Int) < 0 := by omega
  simp only [readMask, h, bind, Except.bind, hr, Int.toNat_natCast, Numeral.fits_iff, if_neg hl]
  by_cases hn : n < 0
  case pos => rw [if_pos hn, if_neg (by omega)]
  case neg => simp only [if_neg hn, Int.not_lt.mp hn, true_and]

-- All that stands for a number of as many digits as can be written comes to the same: to the number, if it
-- has no more bits than the mask is wide, and else to a refusal. Of any number of that size and of any text,
-- whatever it says, comes a mask that fits the width or a refusal; a fractional number is a fault.
theorem readMask_spellings (width : Nat) (name : String) :
    (∀ (m : Nat) (given : Given), Numeral.isWritable m → StandsFor m given →
      readMask width name given =
        if m < 2 ^ width then .ok m
        else .error (.refused (.definition (.maskWidth name given width)))) ∧
      ∀ given, Writable given →
        (∃ m < 2 ^ width, readMask width name given = .ok m) ∨
          (∃ e, (e = .mask name given ∨ e = .maskWidth name given width) ∧
            readMask width name given = .error (.refused (.definition e))) ∨
          (∃ x, given = .float x) ∧ readMask width name given = .error (.faulted .fractionAsText) := by
  refine ⟨fun m given hm h => ?_, fun given hw => ?_⟩
  case refine_1 =>
    have hw : Writable given := by
      cases h
      case int  => exact List.forall_mem_singleton.mpr hm
      case text => exact List.forall_mem_nil _
    rw [readMask_of_number width hw (readMaskNumber_of_standsFor h)]
    simp
  case refine_2 =>
    cases hn : readMaskNumber name given
    case ok n =>
      rw [readMask_of_number width hw hn]
      split
      case isTrue h  => exact .inl ⟨n.toNat, h.right, rfl⟩
      case isFalse h => exact .inr <| .inl ⟨_, .inr rfl, rfl⟩
    case error f =>
      have he : readMask width name given = .error f := by rw [readMask, hn]; rfl
      obtain rfl | ⟨hx, rfl⟩ := readMaskNumber_error hw hn
      case inl => exact .inr <| .inl ⟨_, .inl rfl, he⟩
      case inr => exact .inr <| .inr ⟨hx, he⟩

theorem readMask_spellings_beef :
    let hexadecimal : Given := .text "\t0X00bEeF "
    let decimal : Given := .text " 048879\n"
    Numeral.isWritable (0xBEEF : Nat) ∧ StandsFor 0xBEEF hexadecimal ∧ StandsFor 0xBEEF decimal ∧
      readMask 16 "layers" hexadecimal = .ok 0xBEEF ∧ readMask 16 "layers" decimal = .ok 0xBEEF ∧
      readMask 8 "mods" decimal = .error (.refused (.definition (.maskWidth "mods" decimal 8))) ∧
      Writable (.text "0x_") ∧
      ((∃ m < 0x100, readMask 8 "mods" (.text "0x_") = .ok m) ∨
        ∃ e, (e = .mask "mods" (.text "0x_") ∨ e = .maskWidth "mods" (.text "0x_") 8) ∧
          readMask 8 "mods" (.text "0x_") = .error (.refused (.definition e))) := by
  intro hexadecimal decimal
  have hm : Numeral.isWritable (0xBEEF : Nat) := by decide +kernel
  have hx : Text.Respells "\t0X00bEeF ".toList
      ('0' :: 'x' :: (List.replicate 2 '0' ++ Nat.toDigits 16 0xBEEF)) := by
    refine ⟨['\t'], ['0', 'X', '0', '0', 'b', 'E', 'e', 'F'], [' '], by decide, ?_, ?_, by decide⟩
    all_goals exact List.forall_mem_singleton.mpr (by decide)
  have hd : Text.Respells " 048879\n".toList (List.replicate 1 '0' ++ Nat.toDigits 10 0xBEEF) := by
    refine ⟨[' '], ['0', '4', '8', '8', '7', '9'], ['\n'], by decide, ?_, ?_, by decide⟩
    all_goals exact List.forall_mem_singleton.mpr (by decide)
  have hx : StandsFor 0xBEEF hexadecimal := .text (.hexadecimal hx)
  have hd : StandsFor 0xBEEF decimal := .text (.decimal hd (by decide))
  have hw : Writable (.text "0x_") := List.forall_mem_nil _
  exact ⟨hm, hx, hd, (readMask_spellings 16 "layers").left 0xBEEF hexadecimal hm hx,
    (readMask_spellings 16 "layers").left 0xBEEF decimal hm hd,
    (readMask_spellings 8 "mods").left 0xBEEF decimal hm hd, hw,
    ((readMask_spellings 8 "mods").right (.text "0x_") hw).imp_right (·.resolve_right nofun)⟩

end KeySlots.Definition
