import Mathlib.Data.List.TakeDrop
import KeySlots.Json.Reader
import KeySlots.Proofs.Text.Part

namespace KeySlots

open Text (HasDigits)

namespace Numeral

theorem naturalValue_lt {cs : List Char} (h : cs.all Char.isDigit) :
    naturalValue cs < 10 ^ cs.length := by
  induction cs
  case nil => exact Nat.one_pos
  case cons c cs hi =>
    have ⟨hc, hcs⟩ : c.isDigit ∧ cs.all Char.isDigit := by simpa using h
    have hv : naturalValue (c :: cs) = 10 ^ cs.length * (c.toNat - '0'.toNat) + naturalValue cs := by
      rw [naturalValue, Nat.ofDigitChars_cons, Nat.ofDigitChars_eq_ofDigitChars_zero]
      simp [naturalValue]
    have hd : c.toNat - '0'.toNat ≤ 9 := by
      have : c.toNat ≤ 57 := (Char.isDigit_iff_toNat.mp hc).right
      have : '0'.toNat = 48 := rfl
      omega
    calc naturalValue (c :: cs)
      _ < 10 ^ cs.length * (c.toNat - '0'.toNat) + 10 ^ cs.length := by
        have := hi hcs
        omega
      _ ≤ 10 ^ cs.length * 9 + 10 ^ cs.length :=
        Nat.add_le_add_right (Nat.mul_le_mul_left _ hd) _
      _ = 10 ^ (c :: cs).length := by
        rw [List.length_cons, Nat.pow_succ]
        omega

theorem natAbs_signed (negative : Bool) (n : Nat) : (signed negative n).natAbs = n := by
  cases negative <;> simp [signed]

theorem splitMinus_suffix (cs : List Char) : (splitMinus cs).2 <:+ cs := by
  unfold splitMinus
  split
  · exact List.suffix_cons _ _
  · exact List.suffix_rfl

theorem splitSign_suffix (cs : List Char) : (splitSign cs).2 <:+ cs := by
  unfold splitSign
  split
  · exact List.suffix_cons _ _
  · exact List.suffix_cons _ _
  · exact List.suffix_rfl

end Numeral

namespace Json

-- The whole numbers of a value have no more digits than the limit.
def Within (limit : Nat) (v : Json) : Prop :=
  ∀ n ∈ v.integers, n.natAbs < 10 ^ limit

def WithinFields (limit : Nat) (pairs : List (String × Json)) : Prop :=
  ∀ pair ∈ pairs, Within limit pair.2

def WithinItems (limit : Nat) (items : List Json) : Prop :=
  ∀ v ∈ items, Within limit v

variable {limit : Nat}

theorem mem_integersOfItems {n : Int} {items : List Json} :
    n ∈ integersOfItems items ↔ ∃ v ∈ items, n ∈ v.integers := by
  induction items
  case nil => simp [integersOfItems]
  case cons v items hi => simp [integersOfItems, hi]

theorem within_array_iff {items : List Json} :
    Within limit (.array items) ↔ WithinItems limit items := by
  simp only [Within, integers, mem_integersOfItems, WithinItems]
  exact ⟨fun h v hv n hn => h n ⟨v, hv, hn⟩, fun h n ⟨v, hv, hn⟩ => h v hv n hn⟩

theorem mem_integersOfFields {n : Int} {pairs : List (String × Json)} :
    n ∈ integersOfFields pairs ↔ ∃ pair ∈ pairs, n ∈ pair.2.integers := by
  induction pairs
  case nil => simp [integersOfFields]
  case cons pair pairs hi => simp [integersOfFields, hi]

theorem within_object_iff {pairs : List (String × Json)} :
    Within limit (.object pairs) ↔ WithinFields limit pairs := by
  simp only [Within, integers, mem_integersOfFields, WithinFields]
  exact ⟨fun h pair hp n hn => h n ⟨pair, hp, hn⟩, fun h n ⟨pair, hp, hn⟩ => h pair hp n hn⟩

theorem WithinFields.put {name : String} {v : Json} {fields : Fields} (hv : Within limit v)
    (h : WithinFields limit fields) : WithinFields limit (Entries.put name v fields) := by
  induction fields
  case nil => exact List.forall_mem_singleton.mpr hv
  case cons pair fields hi =>
    have ⟨hp, hf⟩ := List.forall_mem_cons.mp h
    rw [Entries.put]
    split
    case isTrue  => exact List.forall_mem_cons.mpr ⟨hv, hf⟩
    case isFalse => exact List.forall_mem_cons.mpr ⟨hp, hi hf⟩

theorem WithinFields.merge {fields more : Fields} (h : WithinFields limit fields)
    (hm : WithinFields limit more) : WithinFields limit (Entries.merge fields more) := by
  induction more generalizing fields
  case nil => exact h
  case cons pair more hi =>
    have ⟨hp, hm⟩ := List.forall_mem_cons.mp hm
    exact hi (h.put hp) hm

namespace Reader

variable {α β : Type} {cs part : List Char} {P : α → Prop} {Q : β → Prop}
  {x : Except ReadError (α × List Char)}

-- What was read at the start of a text leaves an end of it, and a numeral that is complained of stands
-- in the text.
def Reads (limit : Nat) (cs : List Char) (P : α → Prop) : Except ReadError (α × List Char) → Prop
  | .ok (a, rest) => rest <:+ cs ∧ P a
  | .error (.overlongNumeral digits) => limit < digits ∧ HasDigits digits cs
  | .error _ => True

theorem Reads.of_suffix (h : Reads limit part P x) (hp : part <:+ cs) : Reads limit cs P x := by
  cases x
  case ok a => exact ⟨h.left.trans hp, h.right⟩
  case error e =>
    cases e
    case overlongNumeral => exact ⟨h.left, h.right.of_part hp.isInfix⟩
    all_goals trivial

theorem Reads.map {f : α → β} (h : Reads limit cs P x) (hf : ∀ a, P a → Q (f a)) :
    Reads limit cs Q (x.map fun (a, rest) => (f a, rest)) := by
  cases x
  case ok a => exact ⟨h.left, hf _ h.right⟩
  case error e => cases e <;> exact h

theorem Reads.bind {g : α × List Char → Except ReadError (β × List Char)} (h : Reads limit cs P x)
    (hg : ∀ a rest, rest <:+ cs → P a → Reads limit cs Q (g (a, rest))) :
    Reads limit cs Q (x >>= g) := by
  cases x
  case ok a => exact hg _ _ h.left h.right
  case error e => cases e <;> exact h

theorem skip_suffix (cs : List Char) : skip cs <:+ cs :=
  List.dropWhile_suffix _

theorem suffix_of_skip {c : Char} {rest : List Char} (h : skip cs = c :: rest) : rest <:+ cs :=
  (List.suffix_cons c rest).trans (h ▸ skip_suffix cs)

theorem chars_reads (cs : List Char) : Reads limit cs (fun _ => True) (chars cs) := by
  fun_induction chars cs
  case case2 => exact ⟨List.suffix_cons _ _, trivial⟩
  case case4 a b c d e cs unit _ hi =>
    have hs : e :: cs <:+ '\\' :: 'u' :: a :: b :: c :: d :: e :: cs := ⟨['\\', 'u', a, b, c, d], rfl⟩
    exact (hi.map fun _ _ => trivial).of_suffix hs
  case case7 e cs _ _ _ _ hi =>
    have hs : cs <:+ '\\' :: e :: cs := ⟨['\\', e], rfl⟩
    exact (hi.map fun _ _ => trivial).of_suffix hs
  case case10 hi => exact (hi.map fun _ _ => trivial).of_suffix (List.suffix_cons _ _)
  all_goals trivial

theorem wholeDigits_eq (cs : List Char) :
    (wholeDigits cs).1 ++ (wholeDigits cs).2 = cs ∧ (wholeDigits cs).1.all Char.isDigit := by
  unfold wholeDigits
  split
  case h_1 => exact ⟨rfl, rfl⟩
  case h_2 =>
    rw [List.span_eq_takeWhile_dropWhile]
    exact ⟨List.takeWhile_append_dropWhile, List.all_takeWhile⟩

theorem fractionDigits_suffix (cs : List Char) : (fractionDigits cs).2 <:+ cs := by
  unfold fractionDigits
  split
  case h_1 cs =>
    dsimp only
    split
    case isTrue => exact List.suffix_rfl
    case isFalse => exact (List.dropWhile_suffix _).trans (List.suffix_cons _ _)
  case h_2 => exact List.suffix_rfl

theorem exponent?_suffix {exponent : Int} {rest : List Char} (h : exponent? cs = some (exponent, rest)) :
    rest <:+ cs := by
  unfold exponent? at h
  split at h
  case h_1 => contradiction
  case h_2 e cs =>
    split at h
    case isFalse => contradiction
    case isTrue =>
      dsimp only at h
      split at h
      case isTrue => contradiction
      case isFalse =>
        cases h
        have hs : (Numeral.splitSign cs).2 <:+ e :: cs :=
          (Numeral.splitSign_suffix cs).trans (List.suffix_cons _ _)
        exact (List.dropWhile_suffix _).trans hs

theorem within_of_digits {digits : List Char} (negative : Bool) (h : digits.all Char.isDigit)
    (hl : digits.length ≤ limit) :
    Within limit (.int (Numeral.signed negative (Numeral.naturalValue digits))) := by
  intro n hn
  cases List.mem_singleton.mp hn
  rw [Numeral.natAbs_signed]
  exact Nat.lt_of_lt_of_le (Numeral.naturalValue_lt h) (Nat.pow_le_pow_right (by decide) hl)

theorem number_reads (cs : List Char) : Reads limit cs (Within limit) (number (some limit) cs) := by
  have hb : (Numeral.splitMinus cs).2 <:+ cs := Numeral.splitMinus_suffix cs
  have ⟨hw, hd⟩ := wholeDigits_eq (Numeral.splitMinus cs).2
  have ha : (wholeDigits (Numeral.splitMinus cs).2).2 <:+ cs := (List.suffix_append _ _).trans (hw ▸ hb)
  have hf := (fractionDigits_suffix (wholeDigits (Numeral.splitMinus cs).2).2).trans ha
  unfold number
  dsimp only
  split
  case isTrue => trivial
  case isFalse =>
    split
    case h_1 he => exact ⟨(exponent?_suffix he).trans hf, nofun⟩
    case h_2 =>
      split
      case isTrue => exact ⟨hf, nofun⟩
      case isFalse =>
        split
        case isTrue hl =>
          have hi : (wholeDigits (Numeral.splitMinus cs).2).1 <:+: cs :=
            (List.prefix_append _ _).isInfix.trans (hw ▸ hb.isInfix)
          exact ⟨by simpa using hl, (Text.hasDigits_self hd).of_part hi⟩
        case isFalse hl => exact ⟨hf, within_of_digits _ hd (by simpa using hl)⟩

section

variable {fuel : Nat}
  (hv : ∀ cs, Reads limit cs (Within limit) (value (some limit) fuel cs))
  (hm : ∀ cs, Reads limit cs (WithinFields limit) (members (some limit) fuel cs))
  (he : ∀ cs, Reads limit cs (WithinItems limit) (elements (some limit) fuel cs))

include hm he in
theorem value_succ_reads (cs : List Char) :
    Reads limit cs (Within limit) (value (some limit) (fuel + 1) cs) := by
  unfold value
  split
  case h_1 => trivial
  case h_2 =>
    refine ((chars_reads _).map fun units _ => ?_).of_suffix (List.suffix_cons _ _)
    unfold stringValue
    split <;> exact nofun
  case h_3 fuel' cs hf =>
    cases hf
    split
    case h_1 rest hs => exact ⟨(suffix_of_skip hs).trans (List.suffix_cons _ _), nofun⟩
    case h_2 =>
      have ho : ∀ pairs, WithinFields limit pairs → Within limit (.object (Entries.ofPairs pairs)) :=
        fun pairs hp => within_object_iff.mpr (WithinFields.merge nofun hp)
      exact ((hm (skip cs)).map ho).of_suffix ((skip_suffix cs).trans (List.suffix_cons _ _))
  case h_4 fuel' cs hf =>
    cases hf
    split
    case h_1 rest hs => exact ⟨(suffix_of_skip hs).trans (List.suffix_cons _ _), nofun⟩
    case h_2 =>
      exact ((he (skip cs)).map fun items => within_array_iff.mpr).of_suffix
        ((skip_suffix cs).trans (List.suffix_cons _ _))
  case h_5 rest _ => exact ⟨⟨['n', 'u', 'l', 'l'], rfl⟩, nofun⟩
  case h_6 rest _ => exact ⟨⟨['t', 'r', 'u', 'e'], rfl⟩, nofun⟩
  case h_7 rest _ => exact ⟨⟨['f', 'a', 'l', 's', 'e'], rfl⟩, nofun⟩
  case h_8 rest _ => exact ⟨⟨['N', 'a', 'N'], rfl⟩, nofun⟩
  case h_9 rest _ => exact ⟨⟨['I', 'n', 'f', 'i', 'n', 'i', 't', 'y'], rfl⟩, nofun⟩
  case h_10 rest _ => exact ⟨⟨['-', 'I', 'n', 'f', 'i', 'n', 'i', 't', 'y'], rfl⟩, nofun⟩
  case h_11 => exact number_reads _

include hv hm in
theorem members_succ_reads (cs : List Char) :
    Reads limit cs (WithinFields limit) (members (some limit) (fuel + 1) cs) := by
  unfold members
  split
  case h_2 => trivial
  case h_1 fuel' cs hf =>
    cases hf
    refine Reads.of_suffix ?_ (List.suffix_cons _ _)
    refine (chars_reads cs).bind fun units rest hr _ => ?_
    dsimp only
    split
    case h_2 => trivial
    case h_1 afterName hn =>
      have ha : skip afterName <:+ cs := (skip_suffix _).trans ((suffix_of_skip hn).trans hr)
      refine ((hv _).of_suffix ha).bind fun v rest hr hw => ?_
      dsimp only
      split
      case h_1 rest hs => exact ⟨(suffix_of_skip hs).trans hr, List.forall_mem_singleton.mpr hw⟩
      case h_3 => trivial
      case h_2 more hs =>
        have hr : skip more <:+ cs := (skip_suffix _).trans ((suffix_of_skip hs).trans hr)
        refine ((hm _).of_suffix hr).bind fun pairs rest hr hp => ?_
        exact ⟨hr, List.forall_mem_cons.mpr ⟨hw, hp⟩⟩

include hv he in
theorem elements_succ_reads (cs : List Char) :
    Reads limit cs (WithinItems limit) (elements (some limit) (fuel + 1) cs) := by
  unfold elements
  refine (hv cs).bind fun v rest hr hw => ?_
  dsimp only
  split
  case h_1 rest hs => exact ⟨(suffix_of_skip hs).trans hr, List.forall_mem_singleton.mpr hw⟩
  case h_3 => trivial
  case h_2 more hs =>
    have hr : skip more <:+ cs := (skip_suffix _).trans ((suffix_of_skip hs).trans hr)
    refine ((he _).of_suffix hr).bind fun items rest hr hi => ?_
    exact ⟨hr, List.forall_mem_cons.mpr ⟨hw, hi⟩⟩

end

theorem fuel_reads (fuel : Nat) :
    (∀ cs, Reads limit cs (Within limit) (value (some limit) fuel cs)) ∧
    (∀ cs, Reads limit cs (WithinFields limit) (members (some limit) fuel cs)) ∧
    ∀ cs, Reads limit cs (WithinItems limit) (elements (some limit) fuel cs) := by
  induction fuel
  case zero =>
    refine ⟨fun cs => ?_, fun cs => ?_, fun cs => ?_⟩
    · rw [value]; trivial
    · simp [members, Reads]
    · rw [elements]; trivial
  case succ fuel hi =>
    have ⟨hv, hm, he⟩ := hi
    exact ⟨value_succ_reads hm he, members_succ_reads hv hm, elements_succ_reads hv he⟩

theorem value_reads (limit fuel : Nat) (cs : List Char) :
    Reads limit cs (Within limit) (value (some limit) fuel cs) :=
  (fuel_reads fuel).left cs

end Reader

variable {cs : List Char}

theorem read_within {v : Json} (h : read (some limit) cs = .ok v) : Within limit v := by
  unfold read at h
  split at h
  case h_1 => contradiction
  case h_2 =>
    have hr := Reader.value_reads limit (2 * cs.length + 1) (Reader.skip cs)
    cases hx : Reader.value (some limit) (2 * cs.length + 1) (Reader.skip cs)
    case error => simp [hx, bind, Except.bind] at h
    case ok a =>
      rw [hx] at hr h
      simp only [bind, Except.bind] at h
      split at h
      case isTrue =>
        cases h
        exact hr.right
      case isFalse => contradiction

theorem read_overlong {digits : Nat} (h : read (some limit) cs = .error (.overlongNumeral digits)) :
    limit < digits ∧ HasDigits digits cs := by
  unfold read at h
  split at h
  case h_1 => cases h
  case h_2 =>
    have hr := (Reader.value_reads limit (2 * cs.length + 1) (Reader.skip cs)).of_suffix
      (Reader.skip_suffix cs)
    cases hx : Reader.value (some limit) (2 * cs.length + 1) (Reader.skip cs)
    case error e =>
      rw [hx] at hr h
      cases h
      exact hr
    case ok a =>
      rw [hx] at h
      simp only [bind, Except.bind] at h
      split at h <;> cases h

end Json
end KeySlots
