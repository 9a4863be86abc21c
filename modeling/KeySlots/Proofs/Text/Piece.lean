import KeySlots.Proofs.Text.Part

namespace KeySlots.Text

variable {cs before after : List Char} {separator : Char}

theorem dropWhile_eq_nil_iff : cs.dropWhile isBlank = [] ↔ ∀ c ∈ cs, isBlank c := by
  induction cs
  case nil => simp
  case cons c cs hi =>
    by_cases hc : isBlank c
    case pos => simp [hc, hi]
    case neg => simp [hc]

theorem trim_eq_nil_iff : trim cs = [] ↔ ∀ c ∈ cs, isBlank c := by
  rw [trim, trimOf, List.reverse_eq_nil_iff, dropWhile_eq_nil_iff]
  constructor
  case mpr =>
    intro h
    simp [dropWhile_eq_nil_iff.mpr h]
  case mp =>
    intro h
    rw [← dropWhile_eq_nil_iff]
    have hf := List.head?_dropWhile_not isBlank cs
    cases hd : cs.dropWhile isBlank
    case nil => rfl
    case cons c rest =>
      have hc : isBlank c := h c (by simp [hd])
      simp [hd, hc] at hf

theorem trim_pad (hb : ∀ c ∈ before, isBlank c) (ha : ∀ c ∈ after, isBlank c) :
    trim (before ++ cs ++ after) = trim cs := by
  have hr : ∀ c ∈ after.reverse, isBlank c := by simpa using ha
  rw [trim, trimOf, List.append_assoc, List.dropWhile_append_of_pos hb, List.dropWhile_append]
  split
  case isTrue h =>
    rw [List.isEmpty_iff] at h
    simp [dropWhile_eq_nil_iff.mpr ha, trim, trimOf, h]
  case isFalse => rw [List.reverse_append, List.dropWhile_append_of_pos hr, trim, trimOf]

theorem trim_of_ends {first last : Char} {inner : List Char} (hf : isBlank first = false)
    (hl : isBlank last = false) : trim (first :: (inner ++ [last])) = first :: (inner ++ [last]) := by
  rw [trim, trimOf, List.dropWhile_cons_of_neg (by simp [hf]), ← List.cons_append, List.reverse_append,
    List.reverse_singleton, List.singleton_append, List.dropWhile_cons_of_neg (by simp [hl])]
  simp

theorem pieces_append (separator : Char) (first second : List Char) :
    pieces separator (first ++ separator :: second) =
      pieces separator first ++ pieces separator second := by
  simp only [pieces, List.splitOn_append_cons_self, List.map_append, List.filter_append]

theorem pieces_intercalate {parts : List (List Char)} (h : ∀ part ∈ parts, separator ∉ part)
    (hn : parts ≠ []) :
    pieces separator ([separator].intercalate parts) = (parts.map trim).filter (!·.isEmpty) := by
  rw [pieces, List.splitOn_intercalate separator h hn]

-- Parts without the blank ones, before and after trimming.
theorem filter_map_trim (parts : List (List Char)) :
    (parts.map trim).filter (!·.isEmpty) = (parts.filter fun part => !part.all isBlank).map trim := by
  have he (part : List Char) : (trim part).isEmpty = part.all isBlank := by
    rw [Bool.eq_iff_iff, List.isEmpty_iff, trim_eq_nil_iff, List.all_eq_true]
  simp [List.filter_map, Function.comp_def, he]

theorem length_pieces (separator : Char) (cs : List Char) :
    (pieces separator cs).length = (cs.splitOn separator).countP fun part => !part.all isBlank := by
  rw [pieces, filter_map_trim, List.length_map, List.countP_eq_length_filter]

theorem forall_splitOn_iff :
    (∀ part ∈ cs.splitOn separator, part.all isBlank) ↔ ∀ c ∈ cs, isBlank c ∨ c = separator := by
  induction cs
  case nil => simp
  case cons c cs hi =>
    obtain ⟨part, parts, hs⟩ := List.exists_cons_of_ne_nil (List.splitOn_ne_nil separator cs)
    rw [List.splitOn_cons_eq_if_modifyHead, List.forall_mem_cons, ← hi, hs]
    by_cases hc : c = separator
    case pos => simp [hc]
    case neg => simp [hc, and_assoc]

theorem pieces_eq_nil_iff : pieces separator cs = [] ↔ ∀ c ∈ cs, isBlank c ∨ c = separator := by
  rw [← forall_splitOn_iff, pieces, filter_map_trim, List.map_eq_nil_iff, List.filter_eq_nil_iff]
  simp

end KeySlots.Text
