import KeySlots.Proofs.Text.Piece

namespace KeySlots.Text

variable {cs before after word first second : List Char} {rest : List (List Char)} {c : Char}

structure IsWord (cs : List Char) : Prop where
  given  : cs ≠ []
  solid  : ∀ c ∈ cs, isBlank c = false

def TwoWords (first second cs : List Char) : Prop :=
  IsWord first ∧ IsWord second ∧ ∃ before between after, cs = before ++ first ++ between ++ second ++ after ∧
    between ≠ [] ∧ (∀ c ∈ before, isBlank c) ∧ (∀ c ∈ between, isBlank c) ∧ ∀ c ∈ after, isBlank c

theorem words_cons_of_isBlank (h : isBlank c) : words (c :: cs) = words cs := by
  simp [words, List.splitOnP_cons_eq_if_modifyHead, h]

theorem words_append_of_isBlank (h : ∀ c ∈ before, isBlank c) : words (before ++ cs) = words cs := by
  induction before
  case nil => rfl
  case cons c before hi =>
    obtain ⟨hc, h⟩ := List.forall_mem_cons.mp h
    rw [List.cons_append, words_cons_of_isBlank hc, hi h]

theorem IsWord.words_eq (h : IsWord word) : words word = [word] := by
  simp [words, List.splitOnP_eq_singleton h.solid, h.given]

theorem IsWord.words_append (h : IsWord word) (ha : ∀ c ∈ after.head?, isBlank c) :
    words (word ++ after) = word :: words after := by
  cases after
  case nil => simpa [words, List.splitOnP_nil] using h.words_eq
  case cons c after =>
    have hc : isBlank c := ha c rfl
    rw [words_cons_of_isBlank hc, words, List.splitOnP_append_cons_of_forall_mem h.solid c hc, words]
    simp [h.given]

theorem words_eq_nil_iff : words cs = [] ↔ ∀ c ∈ cs, isBlank c := by
  induction cs
  case nil => simp [words, List.splitOnP_nil]
  case cons c cs hi =>
    rw [List.forall_mem_cons, ← hi]
    cases hc : isBlank c
    case true => simp [words_cons_of_isBlank hc]
    case false =>
      obtain ⟨part, parts, hs⟩ := List.exists_cons_of_ne_nil (List.splitOnP_ne_nil isBlank cs)
      simp [words, List.splitOnP_cons_eq_if_modifyHead, hc, hs]

theorem exists_first_word (h : ∃ c ∈ cs, isBlank c = false) :
    ∃ before word after, cs = before ++ word ++ after ∧ IsWord word ∧ (∀ c ∈ before, isBlank c) ∧
      ∀ c ∈ after.head?, isBlank c := by
  induction cs
  case nil => simp at h
  case cons c cs hi =>
    cases hc : isBlank c
    case true =>
      obtain ⟨before, word, after, rfl, hw, hb, ha⟩ := hi (by simpa [hc] using h)
      exact ⟨c :: before, word, after, rfl, hw, List.forall_mem_cons.mpr ⟨hc, hb⟩, ha⟩
    case false =>
      let solid := fun c => !isBlank c
      refine ⟨[], c :: cs.takeWhile solid, cs.dropWhile solid, by simp, ⟨by simp, ?_⟩, by simp, ?_⟩
      case refine_1 =>
        refine List.forall_mem_cons.mpr ⟨hc, fun d hd => ?_⟩
        simpa [solid] using List.all_eq_true.mp List.all_takeWhile d hd
      case refine_2 =>
        intro d hd
        have hf := List.head?_dropWhile_not solid cs
        rw [Option.mem_def.mp hd] at hf
        simpa [solid] using hf

-- The first word of a text: blanks may come before it, and a blank or nothing comes after it.
theorem words_eq_cons_iff :
    words cs = word :: rest ↔ IsWord word ∧ ∃ before after, cs = before ++ word ++ after ∧
      (∀ c ∈ before, isBlank c) ∧ (∀ c ∈ after.head?, isBlank c) ∧ words after = rest := by
  have hc {before word after} (hw : IsWord word) (hb : ∀ c ∈ before, isBlank c)
      (ha : ∀ c ∈ after.head?, isBlank c) : words (before ++ word ++ after) = word :: words after := by
    rw [List.append_assoc, words_append_of_isBlank hb, hw.words_append ha]
  constructor
  case mpr =>
    rintro ⟨hw, before, after, rfl, hb, ha, rfl⟩
    exact hc hw hb ha
  case mp =>
    intro h
    have hn : ∃ c ∈ cs, isBlank c = false := by
      have hn : words cs ≠ [] := by simp [h]
      simpa [words_eq_nil_iff] using hn
    obtain ⟨before, found, after, rfl, hw, hb, ha⟩ := exists_first_word hn
    rw [hc hw hb ha] at h
    cases h
    exact ⟨hw, before, after, rfl, hb, ha, rfl⟩

theorem words_eq_pair_iff : words cs = [first, second] ↔ TwoWords first second cs := by
  rw [words_eq_cons_iff]
  constructor
  case mp =>
    rintro ⟨hf, before, tail, rfl, hb, ht, hw⟩
    obtain ⟨hs, between, after, rfl, hm, -, ha⟩ := words_eq_cons_iff.mp hw
    refine ⟨hf, hs, before, between, after, by simp, ?_, hb, hm, words_eq_nil_iff.mp ha⟩
    rintro rfl
    -- The second word would go on with the first one.
    obtain ⟨c, more, rfl⟩ := List.exists_cons_of_ne_nil hs.given
    have hc := hs.solid c List.mem_cons_self
    simp [ht c rfl] at hc
  case mpr =>
    rintro ⟨hf, hs, before, between, after, rfl, hn, hb, hm, ha⟩
    obtain ⟨c, more, rfl⟩ := List.exists_cons_of_ne_nil hn
    refine ⟨hf, before, (c :: more) ++ second ++ after, by simp, hb, ?_, words_eq_cons_iff.mpr ?_⟩
    case refine_1 => simpa using hm c List.mem_cons_self
    case refine_2 =>
      have hh : ∀ c ∈ after.head?, isBlank c := fun c hc => ha c (List.mem_of_head? hc)
      exact ⟨hs, c :: more, after, rfl, hm, hh, words_eq_nil_iff.mpr ha⟩

theorem IsWord.twoWords (hf : IsWord first) (hs : IsWord second) :
    TwoWords first second (first ++ ' ' :: second) := by
  refine ⟨hf, hs, [], [' '], [], by simp, by simp, by simp, ?_, by simp⟩
  exact List.forall_mem_singleton.mpr (by decide)

theorem isWord_intercalate {separator : Char} {parts : List (List Char)} (hs : isBlank separator = false)
    (hn : parts ≠ []) (h : ∀ part ∈ parts, IsWord part) : IsWord ([separator].intercalate parts) := by
  induction parts
  case nil => exact absurd rfl hn
  case cons part parts hi =>
    obtain ⟨hp, hm⟩ := List.forall_mem_cons.mp h
    clear h
    cases parts
    case nil => rwa [List.intercalate_singleton]
    case cons next parts =>
      have hr := hi (List.cons_ne_nil next parts) hm
      rw [List.intercalate_cons_cons]
      refine ⟨by simp [hp.given], ?_⟩
      simp only [List.forall_mem_append, List.forall_mem_singleton]
      exact ⟨⟨hp.solid, hs⟩, hr.solid⟩

theorem IsWord.pieces_eq (h : IsWord word) (separator : Char) :
    pieces separator word = (word.splitOn separator).filter (!·.isEmpty) := by
  have ht : ∀ part ∈ word.splitOn separator, trim part = part := by
    intro part hp
    exact trim_eq_self fun c hc => h.solid c ((infix_of_mem_splitOn hp).subset hc)
  rw [pieces, List.map_congr_left ht, List.map_id']

end KeySlots.Text
