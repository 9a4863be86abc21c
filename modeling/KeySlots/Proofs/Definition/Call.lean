import KeySlots.Definition.Basic
import KeySlots.Proofs.Text.Ascii
import KeySlots.Proofs.Text.Piece

namespace KeySlots.Definition

variable {name : String} {body piece letters rest : List Char} {c : Char} {call : Call}

def isName (name : String) : Bool :=
  !name.toList.isEmpty && name.toList.all isLetter

-- A piece calls a name, in letters of either case, with a body.
def Calls (name : String) (body piece : List Char) : Prop :=
  ∃ letters : List Char, letters.map Char.toUpper = name.toList ∧
    piece = letters ++ '(' :: (body ++ [')'])

theorem isName_iff : isName name ↔ name ≠ "" ∧ ∀ c ∈ name.toList, isLetter c := by
  simp [isName]

theorem forall_isLetter_toUpper_iff :
    (∀ c ∈ letters.map Char.toUpper, isLetter c) ↔ ∀ c ∈ letters, isLetter c := by
  simp only [List.forall_mem_map, isLetter, Text.isAlpha_toUpper]

theorem takeWhile_letters (hl : ∀ c ∈ letters, isLetter c) :
    (letters ++ '(' :: rest).takeWhile isLetter = letters := by
  rw [List.takeWhile_append_of_pos hl, List.takeWhile_cons_of_neg (by decide), List.append_nil]

theorem dropWhile_letters (hl : ∀ c ∈ letters, isLetter c) :
    (letters ++ '(' :: rest).dropWhile isLetter = '(' :: rest := by
  rw [List.dropWhile_append_of_pos hl, List.dropWhile_cons_of_neg (by decide)]

theorem ofText?_of_letters (hn : letters ≠ []) (hl : ∀ c ∈ letters, isLetter c) (body : List Char) :
    Call.ofText? (letters ++ '(' :: (body ++ [')'])) =
      some ⟨String.ofList (letters.map Char.toUpper), body⟩ := by
  obtain ⟨first, more, rfl⟩ := List.exists_cons_of_ne_nil hn
  simp only [Call.ofText?, takeWhile_letters hl, dropWhile_letters hl, List.getLast?_concat, if_true,
    List.dropLast_concat]

theorem letters_of_ofText? (h : Call.ofText? piece = some call) :
    ∃ letters, letters ≠ [] ∧ (∀ c ∈ letters, isLetter c) ∧
      call.name = String.ofList (letters.map Char.toUpper) ∧
      piece = letters ++ '(' :: (call.body ++ [')']) := by
  rw [Call.ofText?] at h
  split at h
  case h_2 => cases h
  case h_1 rest hl hr =>
    split at h
    case isFalse => cases h
    case isTrue hc =>
      cases h
      obtain ⟨body, rfl⟩ := List.getLast?_eq_some_iff.mp hc
      refine ⟨piece.takeWhile isLetter, by simp [hl], ?_, rfl, ?_⟩
      case refine_1 => exact List.all_eq_true.mp List.all_takeWhile
      case refine_2 =>
        rw [List.dropLast_concat, ← hr, List.takeWhile_append_dropWhile]

theorem ofText?_eq_some_iff :
    Call.ofText? piece = some call ↔ isName call.name ∧ Calls call.name call.body piece := by
  rw [isName_iff]
  constructor
  case mp =>
    intro h
    obtain ⟨letters, hn, hl, he, hp⟩ := letters_of_ofText? h
    have ht : letters.map Char.toUpper = call.name.toList := by rw [he, String.toList_ofList]
    refine ⟨⟨?_, ht ▸ forall_isLetter_toUpper_iff.mpr hl⟩, letters, ht, hp⟩
    intro hz
    rw [hz] at ht
    exact hn (List.map_eq_nil_iff.mp ht)
  case mpr =>
    rintro ⟨⟨hn, hw⟩, letters, hl, rfl⟩
    rw [← hl, forall_isLetter_toUpper_iff] at hw
    have hne : letters ≠ [] := by
      rintro rfl
      exact hn (String.toList_inj.mp hl.symm)
    rw [ofText?_of_letters hne hw, hl, String.ofList_toList]

theorem ofText?_of_calls (hn : isName name) (h : Calls name body piece) :
    Call.ofText? piece = some ⟨name, body⟩ :=
  ofText?_eq_some_iff.mpr ⟨hn, h⟩

theorem trim_of_calls (hn : isName name) (h : Calls name body piece) : Text.trim piece = piece := by
  obtain ⟨letters, hw, rfl⟩ := h
  obtain ⟨hne, hl⟩ := isName_iff.mp hn
  rw [← hw, forall_isLetter_toUpper_iff] at hl
  cases letters
  case nil => exact absurd (String.toList_inj.mp hw.symm) hne
  case cons first more =>
    have hf := Text.isBlank_of_isAlpha (hl first List.mem_cons_self)
    have ht : Text.trim (first :: ((more ++ '(' :: body) ++ [')'])) = _ := Text.trim_of_ends hf (by decide)
    simpa using ht

theorem comma_notMem_of_calls (hn : isName name) (hb : ',' ∉ body) (h : Calls name body piece) :
    ',' ∉ piece := by
  obtain ⟨letters, hw, rfl⟩ := h
  obtain ⟨-, hl⟩ := isName_iff.mp hn
  rw [← hw, forall_isLetter_toUpper_iff] at hl
  have hc : ',' ∉ letters := fun hm => absurd (hl ',' hm) (by decide)
  simp [hc, hb]

variable {κ : Type} [KeyCodec κ] {keys : κ} {use : KeyUse} {token : String} {code : KeyCode}
  {e : DefinitionError} {n : Nat}

theorem resolve_ok_iff : resolve keys use token = .ok code ↔ KeyCodec.parse keys token = some code := by
  rw [resolve]
  cases KeyCodec.parse keys token <;> simp [refuse]

theorem resolve_of_none (h : KeyCodec.parse keys token = none) :
    resolve keys use token = .error (.refused (.invalidKey use token)) := by
  rw [resolve, h]
  rfl

theorem readNatural_ok_iff :
    readNatural body e = .ok n ↔ Numeral.isNatural (Text.trim body) ∧
      (Text.trim body).length ≤ Numeral.maxDigits ∧ n = Numeral.naturalValue (Text.trim body) := by
  simp only [readNatural]
  split
  case isTrue hn => simp_all [refuseDefinition, refuse]
  case isFalse hn =>
    split
    case isTrue hl =>
      simp only [fault, reduceCtorEq, false_iff]
      omega
    case isFalse hl =>
      have : Numeral.isNatural (Text.trim body) := by simpa using hn
      simp [this, eq_comm]
      omega

theorem readNatural_of_not (h : ¬Numeral.isNatural (Text.trim body)) :
    readNatural body e = refuseDefinition e := by
  simp [readNatural, h]

theorem readTerm_ok (n : Nat) : readTerm (.int n) = .ok n := by
  simp only [readTerm]
  rw [if_neg (by omega), Int.toNat_natCast]

end KeySlots.Definition
