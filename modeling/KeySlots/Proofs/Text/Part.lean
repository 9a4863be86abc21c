import KeySlots.Text.Basic

namespace KeySlots.Text

variable {cs part : List Char} {n : Nat}

-- The text has so many decimal digits in a row.
def HasDigits (n : Nat) (cs : List Char) : Prop :=
  ∃ digits, digits <:+: cs ∧ digits.length = n ∧ digits.all Char.isDigit

theorem HasDigits.of_part (h : HasDigits n part) (hp : part <:+: cs) : HasDigits n cs :=
  h.imp fun _ hd => ⟨hd.left.trans hp, hd.right⟩

theorem hasDigits_self (h : cs.all Char.isDigit) : HasDigits cs.length cs :=
  ⟨cs, List.infix_rfl, rfl, h⟩

theorem HasDigits.le_length (h : HasDigits n cs) : n ≤ cs.length := by
  have ⟨digits, hd, hl, _⟩ := h
  exact hl ▸ hd.length_le

theorem infix_trim (cs : List Char) : trim cs <:+: cs := by
  have hs : cs.dropWhile isBlank <:+ cs := List.dropWhile_suffix _
  have hp : trim cs <+: cs.dropWhile isBlank := by
    rw [trim, trimOf, ← List.reverse_suffix, List.reverse_reverse]
    exact List.dropWhile_suffix _
  exact hp.isInfix.trans hs.isInfix

theorem infix_of_mem_splitOn {separator : Char} (h : part ∈ cs.splitOn separator) : part <:+: cs := by
  have ⟨i, hi⟩ := List.mem_iff_getElem?.mp h
  have hm : part ∈ (cs.splitOn separator).intersperse [separator] :=
    List.mem_iff_getElem?.mpr ⟨2 * i, by rw [List.getElem?_intersperse_two_mul, hi]⟩
  have hf := List.infix_of_mem_flatten hm
  rwa [← List.intercalate, List.intercalate_splitOn] at hf

theorem infix_of_mem_pieces {separator : Char} (h : part ∈ pieces separator cs) : part <:+: cs := by
  have ⟨whole, hw, he⟩ := List.mem_map.mp (List.mem_filter.mp h).left
  subst he
  exact (infix_trim whole).trans (infix_of_mem_splitOn hw)

theorem trim_eq_self (h : ∀ c ∈ cs, isBlank c = false) : trim cs = cs := by
  have hd {cs : List Char} (h : ∀ c ∈ cs, isBlank c = false) : cs.dropWhile isBlank = cs := by
    cases cs
    case nil => rfl
    case cons c cs => exact List.dropWhile_cons_of_neg (by simp [h c])
  rw [trim, trimOf, hd h, hd (by simpa using h), List.reverse_reverse]

theorem pieces_eq_self {separator : Char} (hn : cs ≠ []) (hs : separator ∉ cs) (h : trim cs = cs) :
    pieces separator cs = [cs] := by
  simp [pieces, List.splitOn_eq_singleton hs, h, hn]

theorem isBlank_of_isDigit {c : Char} (h : c.isDigit) : isBlank c = false := by
  have hd : 48 ≤ c.toNat ∧ c.toNat ≤ 57 := Char.isDigit_iff_toNat.mp h
  simp [isBlank, blankRanges]
  omega

end KeySlots.Text
