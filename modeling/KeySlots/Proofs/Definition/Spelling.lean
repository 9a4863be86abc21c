import KeySlots.Proofs.Definition.Call
import KeySlots.Proofs.Definition.Join
import KeySlots.Proofs.Key.Token

namespace KeySlots

variable {κ : Type} [KeyCodec κ]

namespace Action

def word : Action → String
  | tap _   => "TAP"
  | down _  => "DOWN"
  | up _    => "UP"
  | delay _ => "DELAY"
  | text _  => "TEXT"

def argument (keys : κ) : Action → String
  | tap key | down key | up key => KeyCodec.stringify keys key
  | delay ms => Numeral.decimalText ms
  | text s => s

-- Every key can be written, the pause has no more digits than a number may have, and the text holds nothing
-- that would end the piece.
def IsWritable : Action → Prop
  | tap key | down key | up key => 0 ≤ key ∧ key ≤ 0xFFFF
  | delay ms => (Numeral.decimalText ms).toList.length ≤ Numeral.maxDigits
  | text s => ',' ∉ s.toList

-- A part of a definition spells an action: its call, with blanks around.
def SpelledBy (keys : κ) (a : Action) (part : List Char) : Prop :=
  ∃ before call after, part = before ++ call ++ after ∧ (∀ c ∈ before, Text.isBlank c) ∧
    (∀ c ∈ after, Text.isBlank c) ∧ Definition.Calls a.word (a.argument keys).toList call

theorem isName_word (a : Action) : Definition.isName a.word := by
  cases a <;> rw [word] <;> decide

end Action

namespace Definition

variable {keys : κ} {name : String} {body piece part : List Char} {parts : List (List Char)}
  {action : KeyCode → Action} {code : KeyCode} {a : Action} {actions : List Action}

theorem keyAction?_eq_some_iff : keyAction? name = some action ↔
    (name = "TAP" ∧ action = .tap) ∨ (name = "DOWN" ∧ action = .down) ∨ (name = "UP" ∧ action = .up) := by
  constructor
  case mp =>
    intro h
    unfold keyAction? at h
    split at h <;> cases h <;> simp
  case mpr => rintro (⟨rfl, rfl⟩ | ⟨rfl, rfl⟩ | ⟨rfl, rfl⟩) <;> rfl

theorem readAction_key (hk : keyAction? name = some action) (h : Calls name body piece) (hb : body ≠ [])
    (hp : KeyCodec.parse keys (String.ofList (Text.trim body)) = some code) :
    readAction keys piece = .ok (action code) := by
  have hn : isName name ∧ name ≠ "DELAY" ∧ name ≠ "TEXT" := by
    obtain ⟨rfl, -⟩ | ⟨rfl, -⟩ | ⟨rfl, -⟩ := keyAction?_eq_some_iff.mp hk <;> decide
  obtain ⟨first, rest, rfl⟩ := List.exists_cons_of_ne_nil hb
  simp only [readAction, ofText?_of_calls hn.left h, hn.right.left, hn.right.right, hk, if_false]
  exact map_ok_iff.mpr ⟨code, resolve_ok_iff.mpr hp, rfl⟩

theorem readAction_delay (h : Calls "DELAY" body piece) (hn : Numeral.isNatural (Text.trim body))
    (hl : (Text.trim body).length ≤ Numeral.maxDigits) :
    readAction keys piece = .ok (.delay (Numeral.naturalValue (Text.trim body))) := by
  simp only [readAction, ofText?_of_calls (by decide) h, if_true]
  exact map_ok_iff.mpr ⟨_, readNatural_ok_iff.mpr ⟨hn, hl, rfl⟩, rfl⟩

theorem readAction_text (h : Calls "TEXT" body piece) :
    readAction keys piece = .ok (.text (String.ofList body)) := by
  have hn : "TEXT" ≠ "DELAY" := by decide
  simp only [readAction, ofText?_of_calls (by decide) h, hn, if_false, if_true]

section Spells

-- The codec reads back the keys that it writes.
variable (hs : ∀ code, 0 ≤ code → code ≤ 0xFFFF → KeyCodec.Spells keys code)
include hs

theorem readAction_spelled_key (hk : keyAction? name = some action) (hl : 0 ≤ code) (hg : code ≤ 0xFFFF)
    (h : Calls name (KeyCodec.stringify keys code).toList piece) :
    readAction keys piece = .ok (action code) := by
  have hc := hs code hl hg
  have ht := Text.trim_eq_self fun _ hm => hc.isBlank hm
  refine readAction_key hk h hc.given ?_
  rw [ht, String.ofList_toList]
  exact hc.parsed

theorem readAction_spelled (hw : a.IsWritable) (h : Calls a.word (a.argument keys).toList piece) :
    readAction keys piece = .ok a := by
  cases a
  case tap key  => exact readAction_spelled_key hs rfl hw.left hw.right h
  case down key => exact readAction_spelled_key hs rfl hw.left hw.right h
  case up key   => exact readAction_spelled_key hs rfl hw.left hw.right h
  case delay ms =>
    have ht : Text.trim (Numeral.decimalText ms).toList = Nat.toDigits 10 ms := by
      rw [Numeral.toList_decimalText]
      exact Text.trim_eq_self fun c hc =>
        Text.isBlank_of_isDigit (Nat.isDigit_of_mem_toDigits (by decide) (by decide) hc)
    rw [Action.IsWritable, Numeral.toList_decimalText] at hw
    refine (readAction_delay h (ht ▸ Numeral.isNatural_toDigits ms) (ht ▸ hw)).trans ?_
    rw [Action.argument, ht, Numeral.naturalValue_toDigits]
  case text s => exact (readAction_text h).trans (by rw [Action.argument, String.ofList_toList])

theorem comma_notMem_argument (hw : a.IsWritable) : ',' ∉ (a.argument keys).toList := by
  have hk {key : KeyCode} (hl : 0 ≤ key) (hg : key ≤ 0xFFFF) :
      ',' ∉ (KeyCodec.stringify keys key).toList := by
    intro hm
    cases (hs key hl hg).token ',' hm <;> contradiction
  cases a
  case tap key  => exact hk hw.left hw.right
  case down key => exact hk hw.left hw.right
  case up key   => exact hk hw.left hw.right
  case delay ms =>
    intro hm
    rw [Action.argument, Numeral.toList_decimalText] at hm
    exact absurd (Nat.isDigit_of_mem_toDigits (by decide) (by decide) hm) (by decide)
  case text s => exact hw

theorem read_of_spelledBy (hw : a.IsWritable) (h : a.SpelledBy keys part) :
    ',' ∉ part ∧ readAction keys (Text.trim part) = .ok a := by
  obtain ⟨before, call, after, rfl, hb, ha, hc⟩ := h
  constructor
  case left =>
    have hn : Text.isBlank ',' = false := by decide
    have hm := comma_notMem_of_calls a.isName_word (comma_notMem_argument hs hw) hc
    simp only [List.mem_append, not_or]
    exact ⟨⟨fun h => by simp [hb _ h] at hn, hm⟩, fun h => by simp [ha _ h] at hn⟩
  case right =>
    rw [Text.trim_pad hb ha, trim_of_calls a.isName_word hc]
    exact readAction_spelled hs hw hc

theorem readMacro_parts (hn : actions ≠ []) (hw : ∀ a ∈ actions, a.IsWritable)
    (h : List.Forall₂ (Action.SpelledBy keys) actions (parts.filter fun part => !part.all Text.isBlank)) :
    readMacro keys (String.ofList ([','].intercalate parts)) = .ok { actions } := by
  have hr : List.Forall₂ (fun part a => ',' ∉ part ∧ readAction keys (Text.trim part) = .ok a)
      (parts.filter fun part => !part.all Text.isBlank) actions :=
    (((List.forall₂_and_left _ _).mpr ⟨hw, h⟩).imp fun a part hp =>
      read_of_spelledBy hs hp.left hp.right).flip
  obtain ⟨hc, hr⟩ := (List.forall₂_and_left _ _).mp hr
  have hp : parts ≠ [] := by
    rintro rfl
    exact hn (List.forall₂_nil_right_iff.mp h)
  have hs : ∀ part ∈ parts, ',' ∉ part := by
    intro part hm hin
    by_cases hb : part.all Text.isBlank
    case pos => exact absurd (List.all_eq_true.mp hb ',' hin) (by decide)
    case neg => exact hc part (by simpa [hm] using hb) hin
  refine readMacro_of_actions ?_ hn
  rw [readActions, String.toList_ofList, Text.pieces_intercalate hs hp, Text.filter_map_trim, mapM_ok_iff,
    List.forall₂_map_left_iff]
  exact hr

end Spells

-- Actions that are spelled with basic keys, in parts with blank ones in any places among them, are read from
-- the parts with commas between them.
theorem readMacro_spelled (hn : actions ≠ []) (hw : ∀ a ∈ actions, a.IsWritable)
    (h : List.Forall₂ (Action.SpelledBy KeyTable.basic) actions
      (parts.filter fun part => !part.all Text.isBlank)) :
    readMacro KeyTable.basic (String.ofList ([','].intercalate parts)) = .ok { actions } :=
  readMacro_parts (fun _ => KeyTable.spells_basic) hn hw h

theorem spelledBy_of_texts (before : List Char) (letters body : String) (after : List Char)
    (hb : (a.argument keys).toList = body.toList)
    (h : (part = before ++ (letters.toList ++ '(' :: (body.toList ++ [')'])) ++ after &&
      letters.toList.map Char.toUpper = a.word.toList && before.all Text.isBlank &&
      after.all Text.isBlank) = true) :
    a.SpelledBy keys part := by
  simp only [Bool.and_eq_true, decide_eq_true_eq, List.all_eq_true] at h
  obtain ⟨⟨⟨hp, hl⟩, hbefore⟩, hafter⟩ := h
  exact ⟨before, _, after, hp, hbefore, hafter, letters.toList, hl, by rw [hb]⟩

theorem readMacro_spelled_mixed :
    readMacro KeyTable.basic " tAp(KC_A)\t,  ,UP(0xBEEF),Text()TAP(KC_B\n),,DELAY(7)" =
      .ok { actions := [.tap 4, .up 0xBEEF, .text ")TAP(KC_B\n", .delay 7] } := by
  have ha : (KeyCodec.stringify KeyTable.basic 4).toList = "KC_A".toList := by
    change (KeyTable.basic.stringify 4).toList = _
    rw [KeyTable.stringify, KeyTable.names_basic]
    decide +kernel
  have hb : (KeyCodec.stringify KeyTable.basic 0xBEEF).toList = "0xBEEF".toList := by
    change (KeyTable.basic.stringify 0xBEEF).toList = _
    rw [KeyTable.stringify, KeyTable.names_basic]
    decide +kernel
  let parts := [" tAp(KC_A)\t", "  ", "UP(0xBEEF)", "Text()TAP(KC_B\n)", "", "DELAY(7)"].map String.toList
  have hp : " tAp(KC_A)\t,  ,UP(0xBEEF),Text()TAP(KC_B\n),,DELAY(7)" =
      String.ofList ([','].intercalate parts) := by
    decide +kernel
  have hf : (parts.filter fun part => !part.all Text.isBlank) =
      [" tAp(KC_A)\t", "UP(0xBEEF)", "Text()TAP(KC_B\n)", "DELAY(7)"].map String.toList := by
    decide +kernel
  rw [hp]
  refine readMacro_spelled (by simp) ?writable ?spelled
  case writable =>
    simp only [List.forall_mem_cons, Action.IsWritable]
    exact ⟨by decide, by decide, by decide +kernel, by decide +kernel, by simp⟩
  case spelled =>
    rw [hf]
    refine .cons (spelledBy_of_texts [' '] "tAp" "KC_A" ['\t'] ha ?_)
      (.cons (spelledBy_of_texts [] "UP" "0xBEEF" [] hb ?_)
        (.cons (spelledBy_of_texts [] "Text" ")TAP(KC_B\n" [] rfl ?_)
          (.cons (spelledBy_of_texts [] "DELAY" "7" [] ?_ ?_) .nil))) <;>
      decide +kernel

end Definition
end KeySlots
