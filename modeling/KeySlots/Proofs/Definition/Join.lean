import KeySlots.Definition.Record
import KeySlots.Proofs.Definition.Sequence
import KeySlots.Proofs.Text.Piece

namespace KeySlots.Definition

variable {κ : Type} [KeyCodec κ] {keys : κ} {definition first second : String}
  {actions : List Action} {m n : Macro} {f : Failure}

def readActions (keys : κ) (definition : String) : Except Failure (List Action) :=
  (Text.pieces ',' definition.toList).mapM (readAction keys)

def noActions (definition : String) : Failure :=
  .refused (.definition (.macroEmpty definition))

-- The definition holds nothing but blanks and commas.
def IsHollow (definition : String) : Prop :=
  ∀ c ∈ definition.toList, Text.isBlank c ∨ c = ','

theorem readMacro_eq (keys : κ) (definition : String) :
    readMacro keys definition = readActions keys definition >>= fun actions =>
      if actions.isEmpty then .error (noActions definition) else .ok { actions } :=
  rfl

theorem readMacro_ok_iff :
    readMacro keys definition = .ok m ↔
      readActions keys definition = .ok m.actions ∧ m.actions ≠ [] ∧ m.id = 0 := by
  rw [readMacro_eq, bind_ok_iff]
  constructor
  case mp =>
    rintro ⟨actions, ha, h⟩
    split at h
    case isTrue => cases h
    case isFalse he =>
      cases h
      exact ⟨ha, by simpa using he, rfl⟩
  case mpr =>
    rintro ⟨ha, hn, hi⟩
    refine ⟨m.actions, ha, ?_⟩
    rw [if_neg (by simpa using hn)]
    cases m
    cases hi
    rfl

theorem readMacro_error_iff :
    readMacro keys definition = .error f ↔
      readActions keys definition = .error f ∨
        (readActions keys definition = .ok [] ∧ f = noActions definition) := by
  rw [readMacro_eq]
  cases readActions keys definition
  case error e => simp [bind, Except.bind]
  case ok actions =>
    cases actions <;> simp [bind, Except.bind, eq_comm]

theorem readActions_eq_nil_iff : readActions keys definition = .ok [] ↔ IsHollow definition := by
  rw [readActions, mapM_ok_iff, List.forall₂_nil_right_iff, Text.pieces_eq_nil_iff, IsHollow]

theorem length_readActions (h : readActions keys definition = .ok actions) :
    actions.length = (definition.toList.splitOn ',').countP fun part => !part.all Text.isBlank := by
  rw [← Text.length_pieces, (mapM_ok_iff.mp h).length_eq]

theorem readActions_join (keys : κ) (first second : String) :
    readActions keys (first ++ "," ++ second) =
      readActions keys first >>= fun actions =>
        (readActions keys second).map fun more => actions ++ more := by
  have hl : (first ++ "," ++ second).toList = first.toList ++ ',' :: second.toList := by simp
  rw [readActions, hl, Text.pieces_append, List.mapM_append]
  rfl

theorem first_failure (h : readMacro keys definition = .error f) (hf : f ≠ noActions definition) :
    ∃ before piece after, Text.pieces ',' definition.toList = before ++ piece :: after ∧
      (∀ p ∈ before, ∃ a, readAction keys p = .ok a) ∧ readAction keys piece = .error f := by
  obtain h | h := readMacro_error_iff.mp h
  case inl => exact mapM_error_iff.mp h
  case inr => exact absurd h.right hf

theorem readMacro_of_actions (h : readActions keys definition = .ok actions) (hn : actions ≠ []) :
    readMacro keys definition = .ok { actions } :=
  readMacro_ok_iff.mpr ⟨h, hn, rfl⟩

theorem eq_of_readMacro (h : readMacro keys definition = .ok m) : m = { actions := m.actions } := by
  obtain ⟨-, -, hi⟩ := readMacro_ok_iff.mp h
  cases m
  cases hi
  rfl

theorem readActions_of_error (h : readMacro keys definition = .error f) (hf : f ≠ noActions definition) :
    readActions keys definition = .error f :=
  (readMacro_error_iff.mp h).resolve_right fun he => hf he.right

-- Two definitions that are joined by a comma come to the actions of the first and then those of the
-- second, each piece with something in it being one action. They fail with what is wrong in the first
-- one, or else in the second one, and there the first bad piece counts. One with nothing in it adds nothing.
theorem readMacro_join (keys : κ) (first second : String) :
    (∀ m n, readMacro keys first = .ok m → readMacro keys second = .ok n →
        readMacro keys (first ++ "," ++ second) = .ok { actions := m.actions ++ n.actions }) ∧
      (∀ f, readMacro keys first = .error f → f ≠ noActions first →
        readMacro keys (first ++ "," ++ second) = .error f) ∧
      (∀ m f, readMacro keys first = .ok m → readMacro keys second = .error f → f ≠ noActions second →
        readMacro keys (first ++ "," ++ second) = .error f) ∧
      (∀ m, IsHollow first → readMacro keys second = .ok m →
        readMacro keys (first ++ "," ++ second) = .ok m) ∧
      (∀ m, readMacro keys first = .ok m → IsHollow second →
        readMacro keys (first ++ "," ++ second) = .ok m) ∧
      (∀ m, readMacro keys first = .ok m →
        m.actions.length = (first.toList.splitOn ',').countP fun part => !part.all Text.isBlank) ∧
      ∀ f, readMacro keys first = .error f → f ≠ noActions first →
        ∃ before piece after, Text.pieces ',' first.toList = before ++ piece :: after ∧
          (∀ p ∈ before, ∃ a, readAction keys p = .ok a) ∧ readAction keys piece = .error f := by
  have hj := readActions_join keys first second
  refine ⟨?both, ?first, ?second, ?hollow, ?trailing, ?count, fun _ => first_failure⟩
  case both =>
    intro m n hm hn
    obtain ⟨ha, hne, -⟩ := readMacro_ok_iff.mp hm
    obtain ⟨hb, -, -⟩ := readMacro_ok_iff.mp hn
    rw [ha, hb] at hj
    exact readMacro_of_actions hj (List.append_ne_nil_of_left_ne_nil hne _)
  case first =>
    intro f h hf
    rw [readActions_of_error h hf] at hj
    exact readMacro_error_iff.mpr (.inl hj)
  case second =>
    intro m f hm h hf
    obtain ⟨ha, -, -⟩ := readMacro_ok_iff.mp hm
    rw [ha, readActions_of_error h hf] at hj
    exact readMacro_error_iff.mpr (.inl hj)
  case hollow =>
    intro m hh hm
    obtain ⟨hb, hne, -⟩ := readMacro_ok_iff.mp hm
    rw [readActions_eq_nil_iff.mpr hh, hb] at hj
    rw [eq_of_readMacro hm]
    exact readMacro_of_actions hj hne
  case trailing =>
    intro m hm hh
    obtain ⟨ha, hne, -⟩ := readMacro_ok_iff.mp hm
    rw [ha, readActions_eq_nil_iff.mpr hh] at hj
    rw [eq_of_readMacro hm]
    exact readMacro_of_actions (hj.trans (by simp [bind, Except.bind, Except.map])) hne
  case count =>
    intro m hm
    exact length_readActions (readMacro_ok_iff.mp hm).left

theorem readMacro_join_letters :
    let keys : KeyTable := .ofNames [("A", 4)]
    readMacro keys (" a,TEXT( )" ++ "," ++ "DELAY(7)") =
        .ok { actions := [.tap 4, .text " ", .delay 7] } ∧
      readMacro keys (" , " ++ "," ++ "DELAY(7)") = .ok { actions := [.delay 7] } ∧
      readMacro keys ("A,B,DELAY(x)" ++ "," ++ "C") =
        .error (.refused (.invalidKey .macroPiece "B")) := by
  intro keys
  have ha : readMacro keys " a,TEXT( )" = .ok { actions := [.tap 4, .text " "] } := by decide +kernel
  have hd : readMacro keys "DELAY(7)" = .ok { actions := [.delay 7] } := by decide +kernel
  have hb : readMacro keys "A,B,DELAY(x)" = .error (.refused (.invalidKey .macroPiece "B")) := by
    decide +kernel
  have hh : IsHollow " , " := by
    have : (" , ".toList.all fun c => Text.isBlank c || c = ',') = true := by decide +kernel
    simpa [IsHollow] using this
  refine ⟨(readMacro_join ..).left _ _ ha hd, ?hollow, ?bad⟩
  case hollow => exact (readMacro_join ..).right.right.right.left _ hh hd
  case bad    => exact (readMacro_join ..).right.left _ hb (by decide)

end KeySlots.Definition
