import KeySlots.Proofs.Key.Token
import KeySlots.Proofs.Text.Letter

namespace KeySlots.KeyTable

variable {names : Entries String KeyCode} {aliases : Entries String String} {table : KeyTable}
  {code : KeyCode} {token other : String}

theorem parse_of_respells (h : Text.Respells token.toList other.toList) :
    table.parse token = table.parse other := by
  simp only [parse, h.upper_trim]

theorem mem_names_of_build (h : build names aliases = .ok table) :
    code ∈ table.names.map Prod.fst ↔ code ∈ names.map Prod.snd := by
  rw [(foldlM_addAlias_ok h).left]
  simp [ofNames]

-- What a table of names that can be told apart writes for a code is read as the code, in other letter cases
-- and with blanks around, too, if the code has a name or may be written by its number. Else it is read as
-- nothing. The basic keys have such names.
theorem parse_stringify_respelled :
    (AreTokens (spelled basicNames basicAliases) ∧ build basicNames basicAliases = .ok basic) ∧
      ∀ names aliases table, AreTokens (spelled names aliases) → build names aliases = .ok table →
        ∀ code token, Text.Respells token.toList (table.stringify code).toList →
          (code ∈ names.map Prod.snd ∨ (0 ≤ code ∧ code ≤ 0xFFFF) → table.parse token = some code) ∧
            (code ∉ names.map Prod.snd → code < 0 ∨ 0xFFFF < code → table.parse token = none) := by
  refine ⟨⟨areTokens_basic, build_basic⟩, ?_⟩
  intro names aliases table ht hb code token hr
  have hp := parse_stringify_eq (regular_of_build ht hb) code
  have hn : code ∈ table.names.map Prod.fst ↔ code ∈ names.map Prod.snd := mem_names_of_build hb
  rw [← parse_of_respells hr] at hp
  constructor
  case left =>
    intro hc
    exact hp.trans (if_pos (hc.imp_left hn.mpr))
  case right =>
    intro hm hc
    refine hp.trans (if_neg ?_)
    rintro (h | ⟨hl, hg⟩)
    case inl => exact hm (hn.mp h)
    case inr => exact hc.elim (Int.not_lt.mpr hl) (Int.not_lt.mpr hg)

def marked : KeyTable where
  codes := [("OUT", -1), ("ESC", -1), ("ÄA", 70000)]
  names := [(-1, "ESC"), (70000, "ÄA")]

theorem respells_of_texts {cs ds : List Char} (before middle after : List Char)
    (h : (cs = before ++ middle ++ after && before.all Text.isBlank && after.all Text.isBlank &&
      middle.map Char.toUpper = ds.map Char.toUpper) = true) :
    Text.Respells cs ds := by
  simp only [Bool.and_eq_true, decide_eq_true_eq, List.all_eq_true] at h
  obtain ⟨⟨⟨hc, hb⟩, ha⟩, hm⟩ := h
  exact ⟨before, middle, after, hc, hb, ha, hm⟩

theorem parse_stringify_respelled_marked :
    let names : Entries String KeyCode := [("äa", 70000), ("Esc", -1)]
    let aliases := [("out", "ESC")]
    (AreTokens (spelled names aliases) ∧ build names aliases = .ok marked ∧
        marked.parse "\tÄa " = some 70000 ∧ marked.parse "eSC" = some (-1) ∧
        marked.parse (marked.stringify 65536) = none) ∧
      basic.parse "\nkc_a" = some 4 ∧ basic.parse "0XBeef" = some 0xBEEF := by
  intro names aliases
  have hs : spelled names aliases = ["ÄA", "ESC", "OUT"] := by decide +kernel
  have ht : AreTokens (spelled names aliases) := by
    rw [hs]
    constructor <;> decide +kernel
  have hb : build names aliases = .ok marked := rfl
  obtain ⟨⟨hbt, hbb⟩, h⟩ := parse_stringify_respelled
  refine ⟨⟨ht, hb, ?wide, ?negative, ?unnamed⟩, ?basic, ?number⟩
  case wide =>
    have hr : Text.Respells "\tÄa ".toList (marked.stringify 70000).toList :=
      respells_of_texts ['\t'] ['Ä', 'a'] [' '] (by decide +kernel)
    exact (h _ _ _ ht hb _ _ hr).left (by decide +kernel)
  case negative =>
    have hr : Text.Respells "eSC".toList (marked.stringify (-1)).toList :=
      respells_of_texts [] ['e', 'S', 'C'] [] (by decide +kernel)
    exact (h _ _ _ ht hb _ _ hr).left (by decide +kernel)
  case unnamed =>
    have hr : Text.Respells (marked.stringify 65536).toList (marked.stringify 65536).toList :=
      respells_of_texts [] (marked.stringify 65536).toList [] (by decide +kernel)
    exact (h _ _ _ ht hb _ _ hr).right (by decide +kernel) (by decide)
  case basic =>
    have hr : Text.Respells "\nkc_a".toList (basic.stringify 4).toList :=
      respells_of_texts ['\n'] ['k', 'c', '_', 'a'] [] (by rw [stringify_basic]; decide +kernel)
    exact (h _ _ _ hbt hbb _ _ hr).left (.inr (by decide))
  case number =>
    have hr : Text.Respells "0XBeef".toList (basic.stringify 0xBEEF).toList :=
      respells_of_texts [] ['0', 'X', 'B', 'e', 'e', 'f'] [] (by rw [stringify_basic]; decide +kernel)
    exact (h _ _ _ hbt hbb _ _ hr).left (.inr (by decide))

end KeySlots.KeyTable
