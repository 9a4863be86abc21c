import KeySlots.Definition.Sequence
import KeySlots.Proofs.Definition.Call
import KeySlots.Proofs.Definition.Content
import KeySlots.Proofs.Definition.Sequence
import KeySlots.Proofs.Key.Token
import KeySlots.Proofs.Text.Word

namespace KeySlots

variable {κ : Type} [KeyCodec κ] {keys : κ} {codes : List KeyCode} {action : KeyCode} {c : Combo}

namespace Combo

-- The keys trigger the combo: they have its first places, and the other places do nothing.
def TriggeredBy (codes : List KeyCode) (c : Combo) : Prop :=
  c.triggers.toList = codes ++ List.replicate (4 - codes.length) KeyCode.none

def spelling (keys : κ) (codes : List KeyCode) (action : KeyCode) : String :=
  "+".intercalate (codes.map (KeyCodec.stringify keys)) ++ " " ++ KeyCodec.stringify keys action

theorem TriggeredBy.length_le (h : c.TriggeredBy codes) : codes.length ≤ 4 := by
  have hl : c.triggers.toList.length = 4 := c.triggers.size_toArray
  rw [h, List.length_append] at hl
  omega

theorem ofList?_eq_some_iff : Triggers.ofList? codes = some c.triggers ↔ c.TriggeredBy codes := by
  rw [Triggers.ofList?]
  constructor
  case mp =>
    intro h
    split at h
    case isFalse => cases h
    case isTrue =>
      rw [TriggeredBy, ← Option.some.inj h]
      rfl
  case mpr =>
    intro h
    have hc : codes.length ≤ maxTriggers := h.length_le
    rw [dif_pos hc, Option.some_inj, ← Vector.toList_inj]
    exact h.symm

end Combo

namespace Definition

variable {definition : String} {maxTriggers term : Nat}

def TriggerIs (keys : κ) (name : List Char) (code : KeyCode) : Prop :=
  KeyCodec.parse keys (String.ofList name) = some code ∧ code ≠ KeyCode.none

-- What a definition says of a combo. Its first word has the tokens of the keys that trigger the combo, with
-- plus signs between them and maybe more than one of these, and its second word is the key that it acts as.
def SaysCombo (keys : κ) (definition : String) (codes : List KeyCode) (action : KeyCode) : Prop :=
  ∃ group token, Text.TwoWords group token definition.toList ∧
    List.Forall₂ (TriggerIs keys) ((group.splitOn '+').filter (!·.isEmpty)) codes ∧
    KeyCodec.parse keys (String.ofList token) = some action

theorem mapM_readTrigger_ok_iff {names : List (List Char)} :
    names.mapM (readTrigger keys) = .ok codes ↔ List.Forall₂ (TriggerIs keys) names codes := by
  simp only [mapM_ok_iff, readTrigger_ok_iff]
  rfl

theorem readCombo_iff_said :
    readCombo keys definition (.int maxTriggers) (.int term) = .ok c ↔
      ∃ codes, SaysCombo keys definition codes c.action ∧ 1 ≤ codes.length ∧ codes.length ≤ maxTriggers ∧
        c.TriggeredBy codes ∧ c.term = term ∧ c.id = 0 ∧ c.enabled = true := by
  have hb (n : Nat) : (Given.int maxTriggers).isBelow n = .ok false ↔ n ≤ maxTriggers := by
    simp [Given.isBelow]
  have ht : readTerm (.int term) = .ok c.term ↔ c.term = term := by
    rw [readTerm_ok, Except.ok.injEq, eq_comm]
  rw [readCombo_ok_iff]
  constructor
  case mp =>
    rintro ⟨group, token, codes, hw, hn, hl, hc, ha, hf, hm, hi⟩
    have hg := Text.words_eq_pair_iff.mp hw
    have hs := mapM_readTrigger_ok_iff.mp hc
    rw [List.isEmpty_eq_false_iff, ← List.length_pos_iff, hs.length_eq] at hn
    rw [hb, hs.length_eq] at hl
    rw [hg.left.pieces_eq] at hs
    exact ⟨codes, ⟨group, token, hg, hs, resolve_ok_iff.mp ha⟩, hn, hl, Combo.ofList?_eq_some_iff.mp hf,
      ht.mp hm, hi⟩
  case mpr =>
    rintro ⟨codes, ⟨group, token, hg, hs, ha⟩, hn, hl, hf, hm, hi⟩
    rw [← hg.left.pieces_eq] at hs
    rw [← hs.length_eq] at hn hl
    exact ⟨group, token, codes, Text.words_eq_pair_iff.mpr hg,
      List.isEmpty_eq_false_iff.mpr (List.length_pos_iff.mp hn), (hb _).mpr hl,
      mapM_readTrigger_ok_iff.mpr hs, resolve_ok_iff.mpr ha, Combo.ofList?_eq_some_iff.mpr hf, ht.mpr hm, hi⟩

theorem exists_readCombo_iff (hm : maxTriggers ≤ 4) :
    (∃ c, readCombo keys definition (.int maxTriggers) (.int term) = .ok c) ↔
      ∃ codes action, SaysCombo keys definition codes action ∧ 1 ≤ codes.length ∧
        codes.length ≤ maxTriggers := by
  simp only [readCombo_iff_said]
  constructor
  case mp =>
    rintro ⟨c, codes, hs, hn, hl, -⟩
    exact ⟨codes, c.action, hs, hn, hl⟩
  case mpr =>
    rintro ⟨codes, action, hs, hn, hl⟩
    have ⟨triggers, hf⟩ : ∃ triggers, Combo.Triggers.ofList? codes = some triggers :=
      ⟨_, dif_pos (Nat.le_trans hl hm)⟩
    have ht : Combo.TriggeredBy codes { triggers, action, term } := Combo.ofList?_eq_some_iff.mp hf
    exact ⟨_, codes, hs, hn, hl, ht, rfl, rfl, rfl⟩

section Spells

-- The codec reads back the keys that it writes.
variable (hs : ∀ code, 0 ≤ code → code ≤ 0xFFFF → KeyCodec.Spells keys code)
include hs

theorem isWord_stringify (hl : 0 ≤ code) (hg : code ≤ 0xFFFF) :
    Text.IsWord (KeyCodec.stringify keys code).toList where
  given := (hs code hl hg).given
  solid := fun _ => (hs code hl hg).isBlank

theorem plus_notMem_stringify (hl : 0 ≤ code) (hg : code ≤ 0xFFFF) :
    '+' ∉ (KeyCodec.stringify keys code).toList := by
  intro hm
  cases (hs code hl hg).token '+' hm <;> contradiction

theorem triggerIs_stringify (hl : 1 ≤ code) (hg : code ≤ 0xFFFF) :
    TriggerIs keys (KeyCodec.stringify keys code).toList code := by
  rw [TriggerIs, String.ofList_toList]
  refine ⟨(hs code (Int.le_trans (by decide) hl) hg).parsed, ?_⟩
  rintro rfl
  exact absurd hl (by decide)

theorem saysCombo_spelling (hn : codes ≠ []) (hc : ∀ code ∈ codes, 1 ≤ code ∧ code ≤ 0xFFFF)
    (ha : 0 ≤ action ∧ action ≤ 0xFFFF) :
    SaysCombo keys (Combo.spelling keys codes action) codes action := by
  let parts := codes.map fun code => (KeyCodec.stringify keys code).toList
  have hp : parts ≠ [] := by simpa [parts] using hn
  have hw : ∀ part ∈ parts, Text.IsWord part ∧ '+' ∉ part := by
    refine List.forall_mem_map.mpr fun code hm => ?_
    have hl : 0 ≤ code := Int.le_trans (by decide) (hc code hm).left
    exact ⟨isWord_stringify hs hl (hc code hm).right, plus_notMem_stringify hs hl (hc code hm).right⟩
  have hg : Text.IsWord (['+'].intercalate parts) :=
    Text.isWord_intercalate (by decide) hp fun part hm => (hw part hm).left
  have ht : (Combo.spelling keys codes action).toList =
      ['+'].intercalate parts ++ ' ' :: (KeyCodec.stringify keys action).toList := by
    simp [Combo.spelling, String.toList_intercalate, parts, Function.comp_def]
  refine ⟨_, _, ht ▸ hg.twoWords (isWord_stringify hs ha.left ha.right), ?_, ?_⟩
  case refine_1 =>
    have hf : parts.filter (!·.isEmpty) = parts :=
      List.filter_eq_self.mpr fun part hm => by simpa using (hw part hm).left.given
    rw [List.splitOn_intercalate '+' (fun part hm => (hw part hm).right) hp, hf, List.forall₂_map_left_iff,
      List.forall₂_same]
    exact fun code hm => triggerIs_stringify hs (hc code hm).left (hc code hm).right
  case refine_2 =>
    rw [String.ofList_toList]
    exact (hs action ha.left ha.right).parsed

end Spells

-- A definition is read exactly if it says what a combo is, with at least one trigger key and no more than are
-- allowed. The combo has these keys in their order, and is never an empty record. A combo that is spelled with
-- basic keys is read back.
theorem readCombo_grammar (keys : κ) (definition : String) (maxTriggers term : Nat) (hm : maxTriggers ≤ 4) :
    ((∃ c, readCombo keys definition (.int maxTriggers) (.int term) = .ok c) ↔
      ∃ codes action, SaysCombo keys definition codes action ∧ 1 ≤ codes.length ∧
        codes.length ≤ maxTriggers) ∧
      (∀ c, readCombo keys definition (.int maxTriggers) (.int term) = .ok c →
        (∃ codes, SaysCombo keys definition codes c.action ∧ c.TriggeredBy codes) ∧ c.term = term ∧
          (Record.combo c).isEmpty = false) ∧
      ∀ (c : Combo) codes, c.TriggeredBy codes → 1 ≤ codes.length → codes.length ≤ maxTriggers →
        (∀ code ∈ codes, 1 ≤ code ∧ code ≤ 0xFFFF) → (0 ≤ c.action ∧ c.action ≤ 0xFFFF) →
        readCombo KeyTable.basic (Combo.spelling KeyTable.basic codes c.action) (.int maxTriggers)
          (.int c.term) = .ok { c with id := 0, enabled := true } := by
  refine ⟨exists_readCombo_iff hm, ?read, ?spelled⟩
  case read =>
    intro c h
    obtain ⟨codes, hs, -, -, hc, ht, -⟩ := readCombo_iff_said.mp h
    exact ⟨⟨codes, hs, hc⟩, ht, isEmpty_readCombo h⟩
  case spelled =>
    intro c codes hc hn hl hk ha
    have hs := saysCombo_spelling (fun _ => KeyTable.spells_basic) (List.length_pos_iff.mp hn) hk ha
    exact readCombo_iff_said.mpr ⟨codes, hs, hn, hl, hc, rfl, rfl, rfl⟩

theorem readCombo_grammar_named :
    readCombo KeyTable.basic "KC_A+0xBEEF KC_B" (.int 2) (.int 70) =
        .ok { triggers := #v[4, 0xBEEF, 0, 0], action := 5, term := 70 } ∧
      ¬∃ c, readCombo KeyTable.basic "+++\tKC_B" (.int 2) (.int 70) = .ok c := by
  constructor
  case left =>
    have hs : "KC_A+0xBEEF KC_B" = Combo.spelling KeyTable.basic [4, 0xBEEF] 5 := by
      simp only [Combo.spelling, List.map, KeyCodec.stringify, KeyTable.stringify_basic]
      decide +kernel
    obtain ⟨-, -, h⟩ := readCombo_grammar KeyTable.basic "KC_A+0xBEEF KC_B" 2 70 (by decide)
    rw [hs]
    exact h { triggers := #v[4, 0xBEEF, 0, 0], action := 5, term := 70 } [4, 0xBEEF] rfl (by decide)
      (by decide) (by decide) (by decide)
  case right =>
    intro h
    obtain ⟨codes, action, ⟨group, token, hw, hs, -⟩, hn, -⟩ :=
      (readCombo_grammar KeyTable.basic "+++\tKC_B" 2 70 (by decide)).left.mp h
    have ht : Text.words "+++\tKC_B".toList = ["+++".toList, "KC_B".toList] := by decide +kernel
    have he := (Text.words_eq_pair_iff.mpr hw).symm.trans ht
    cases he
    have hp : ("+++".toList.splitOn '+').filter (!·.isEmpty) = [] := by decide +kernel
    rw [hp, List.forall₂_nil_left_iff] at hs
    rw [hs] at hn
    exact absurd hn (by decide)

end Definition
end KeySlots
