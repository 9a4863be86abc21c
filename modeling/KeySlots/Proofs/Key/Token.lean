import Mathlib.Data.List.Nodup
import KeySlots.Key.Basic
import KeySlots.Proofs.Failure
import KeySlots.Proofs.Numeral.Digits
import KeySlots.Proofs.Text.Ascii
import KeySlots.Proofs.Text.Part

namespace KeySlots

variable {c : Char} {cs : List Char}

def isTokenChar (c : Char) : Bool :=
  c.isUpper || c.isDigit || c = '_'

theorem isTokenChar_iff :
    isTokenChar c ↔ (65 ≤ c.toNat ∧ c.toNat ≤ 90) ∨ (48 ≤ c.toNat ∧ c.toNat ≤ 57) ∨ c.toNat = 95 := by
  simp [isTokenChar, Text.isUpper_iff, Char.isDigit_iff_toNat, ← Char.toNat_inj, or_assoc]

theorem isBlank_of_isTokenChar (h : isTokenChar c) : Text.isBlank c = false := by
  rw [isTokenChar_iff] at h
  simp [Text.isBlank, Text.blankRanges]
  omega

theorem toUpper_of_isTokenChar (h : isTokenChar c) : c.toUpper = c := by
  rw [isTokenChar_iff] at h
  exact Text.toUpper_of_not (by omega)

namespace Text

theorem upper_of_isTokenChar (h : ∀ c ∈ cs, isTokenChar c) : upper cs = cs := by
  have ha : ∀ c ∈ cs, c.toNat < 0x80 := by
    intro c hc
    have := isTokenChar_iff.mp (h c hc)
    omega
  rw [upper_eq_map ha]
  exact (List.map_congr_left fun c hc => toUpper_of_isTokenChar (h c hc)).trans (List.map_id cs)

end Text

variable {names : Entries String KeyCode} {aliases : Entries String String} {base table : KeyTable}
  {code : KeyCode} {name : String} {n : Nat}

-- Names by which keys can be told apart: in upper case, without blanks around, and nothing that looks
-- like a number in hexadecimal.
structure AreTokens (names : List String) : Prop where
  nodup     : names.Nodup
  given     : ∀ name ∈ names, name ≠ ""
  trimmed   : ∀ name ∈ names, Text.trim name.toList = name.toList
  uppercase : ∀ name ∈ names, Text.upper name.toList = name.toList
  named     : ∀ name ∈ names, ¬['0', 'X'] <+: name.toList

theorem AreTokens.mono {few all : List String} (h : AreTokens all) (hs : few ⊆ all) (hn : few.Nodup) :
    AreTokens few where
  nodup     := hn
  given     := fun name hm => h.given name (hs hm)
  trimmed   := fun name hm => h.trimmed name (hs hm)
  uppercase := fun name hm => h.uppercase name (hs hm)
  named     := fun name hm => h.named name (hs hm)

theorem lookup_of_mem {α β : Type} [BEq α] [LawfulBEq α] {entries : List (α × β)} {a : α} {b : β}
    (hn : (entries.map Prod.fst).Nodup) (h : (a, b) ∈ entries) : entries.lookup a = some b := by
  induction entries
  case nil => cases h
  case cons entry entries hi =>
    obtain ⟨hf, hn⟩ := List.nodup_cons.mp hn
    obtain rfl | h := List.mem_cons.mp h
    case inl => exact List.lookup_cons_self
    case inr =>
      have hne : a ≠ entry.fst := by
        rintro rfl
        exact hf (List.mem_map.mpr ⟨_, h, rfl⟩)
      rw [List.lookup_cons, beq_false_of_ne hne]
      exact hi hn h

theorem mem_of_lookup {α β : Type} [BEq α] [LawfulBEq α] {entries : List (α × β)} {a : α} {b : β}
    (h : entries.lookup a = some b) : (a, b) ∈ entries := by
  obtain ⟨before, after, rfl, -⟩ := List.lookup_eq_some_iff.mp h
  simp

theorem notMem_of_lookup {α β : Type} [BEq α] [LawfulBEq α] {entries : List (α × β)} {a : α}
    (h : entries.lookup a = none) : a ∉ entries.map Prod.fst := by
  intro hm
  obtain ⟨entry, he, rfl⟩ := List.mem_map.mp hm
  exact absurd rfl (bne_iff_ne.mp (List.lookup_eq_none_iff.mp h entry he))

namespace KeyTable

-- The names of a table are told apart, and each stands for the code that it is written for.
structure Regular (table : KeyTable) : Prop where
  tokens  : AreTokens (table.codes.map Prod.fst)
  written : ∀ entry ∈ table.names, (entry.snd, entry.fst) ∈ table.codes

def spelled (names : Entries String KeyCode) (aliases : Entries String String) : List String :=
  (names.map Prod.fst ++ aliases.map Prod.fst).map Text.uppercase

theorem addAlias_ok {alternative target : String} (h : base.addAlias alternative target = .ok table) :
    ∃ code, (Text.uppercase target, code) ∈ base.codes ∧
      table = { base with codes := (Text.uppercase alternative, code) :: base.codes } := by
  rw [addAlias] at h
  split at h
  case h_1 code hl =>
    cases h
    exact ⟨code, mem_of_lookup hl, rfl⟩
  case h_2 => cases h

-- Alternative names come before the names that a table has.
theorem foldlM_addAlias_ok
    (h : aliases.foldlM (fun (t : KeyTable) entry => t.addAlias entry.fst entry.snd) base = .ok table) :
    table.names = base.names ∧ ∃ added, table.codes = added ++ base.codes ∧
      added.map Prod.fst = (aliases.map fun entry => Text.uppercase entry.fst).reverse := by
  induction aliases generalizing base
  case nil =>
    cases h
    exact ⟨rfl, [], rfl, rfl⟩
  case cons entry aliases hi =>
    obtain ⟨mid, hm, h⟩ := bind_ok_iff.mp h
    obtain ⟨code, -, rfl⟩ := addAlias_ok hm
    obtain ⟨hn, added, hc, ha⟩ := hi h
    exact ⟨hn, added ++ [(Text.uppercase entry.fst, code)], by simp [hc], by simp [ha]⟩

theorem exists_foldlM_addAlias (h : ∀ entry ∈ aliases, Text.uppercase entry.snd ∈ base.codes.map Prod.fst) :
    ∃ table,
      aliases.foldlM (fun (t : KeyTable) entry => t.addAlias entry.fst entry.snd) base = .ok table := by
  induction aliases generalizing base
  case nil => exact ⟨base, rfl⟩
  case cons entry aliases hi =>
    obtain ⟨ht, h⟩ := List.forall_mem_cons.mp h
    cases hl : base.codes.lookup (Text.uppercase entry.snd)
    case none => exact absurd ht (notMem_of_lookup hl)
    case some code =>
      let added : KeyTable := { base with codes := (Text.uppercase entry.fst, code) :: base.codes }
      have ha : base.addAlias entry.fst entry.snd = .ok added := by rw [addAlias, hl]
      have hk : ∀ other ∈ aliases, Text.uppercase other.snd ∈ added.codes.map Prod.fst :=
        fun other ho => List.mem_cons_of_mem _ (h other ho)
      obtain ⟨table, hm⟩ := hi hk
      exact ⟨table, bind_ok_iff.mpr ⟨added, ha, hm⟩⟩

theorem exists_build
    (h : ∀ entry ∈ aliases, Text.uppercase entry.snd ∈ (names.map Prod.fst).map Text.uppercase) :
    ∃ table, build names aliases = .ok table := by
  refine exists_foldlM_addAlias fun entry he => ?_
  simpa [ofNames] using h entry he

theorem forall_codes_build {P : KeyCode → Prop} (h : ∀ entry ∈ names, P entry.snd)
    (hb : build names aliases = .ok table) : ∀ entry ∈ table.codes, P entry.snd := by
  have ho : ∀ entry ∈ (ofNames names).codes, P entry.snd := by
    intro entry he
    obtain ⟨named, hm, rfl⟩ := List.mem_map.mp (List.mem_reverse.mp he)
    exact h named hm
  rw [build] at hb
  generalize ofNames names = base at ho hb
  induction aliases generalizing base
  case nil =>
    cases hb
    exact ho
  case cons entry aliases hi =>
    obtain ⟨mid, hm, hb⟩ := bind_ok_iff.mp hb
    obtain ⟨code, hc, rfl⟩ := addAlias_ok hm
    refine hi _ ?_ hb
    exact List.forall_mem_cons.mpr ⟨ho (Text.uppercase entry.snd, code) hc, ho⟩

theorem regular_of_build (h : AreTokens (spelled names aliases)) (hb : build names aliases = .ok table) :
    table.Regular := by
  obtain ⟨hn, added, hc, ha⟩ := foldlM_addAlias_ok hb
  have hk : table.codes.map Prod.fst = (spelled names aliases).reverse := by
    rw [hc, List.map_append, ha, spelled, List.map_append, List.reverse_append]
    simp [ofNames, Function.comp_def]
  refine ⟨?tokens, ?written⟩
  case tokens =>
    rw [hk]
    exact h.mono (List.reverse_subset.mpr (List.Subset.refl _)) (List.nodup_reverse.mpr h.nodup)
  case written =>
    intro entry he
    rw [hn] at he
    rw [hc]
    refine List.mem_append_right _ ?_
    simp only [ofNames, List.mem_reverse, List.mem_map] at he ⊢
    obtain ⟨source, hs, rfl⟩ := he
    exact ⟨source, hs, rfl⟩

theorem parse_of_name (h : table.Regular) (hn : (name, code) ∈ table.codes) :
    table.parse name = some code := by
  have hm : name ∈ table.codes.map Prod.fst := List.mem_map_of_mem hn
  have hne : name.toList ≠ [] := by simpa using h.tokens.given name hm
  simp [parse, h.tokens.trimmed name hm, h.tokens.uppercase name hm, hne, lookup_of_mem h.tokens.nodup hn]

theorem parse_bounds {token : String} (h : ∀ entry ∈ table.codes, 0 ≤ entry.snd ∧ entry.snd ≤ 0xFFFF)
    (hp : table.parse token = some code) : 0 ≤ code ∧ code ≤ 0xFFFF := by
  simp only [parse] at hp
  split at hp
  case isTrue => cases hp
  case isFalse =>
    split at hp
    case h_1 hl =>
      cases hp
      exact h _ (mem_of_lookup hl)
    case h_2 =>
      split at hp
      case h_2 => cases hp
      case h_1 =>
        obtain ⟨n, -, hn⟩ := Option.bind_eq_some_iff.mp hp
        split at hn
        case isFalse => cases hn
        case isTrue hm =>
          cases hn
          exact ⟨Int.natCast_nonneg n, Int.ofNat_le.mpr hm⟩

theorem isTokenChar_hexDigits (width n : Nat) :
    ∀ c ∈ (Numeral.hexDigits width n).map Char.toUpper, isTokenChar c := by
  rw [List.forall_mem_map]
  exact Numeral.forall_hexDigits (by decide) width n

theorem parse_hexadecimal {digits : List Char} (h : table.Regular) (hb : ∀ c ∈ digits, Text.isBlank c = false)
    (hu : Text.upper digits = digits) :
    table.parse (String.ofList ('0' :: 'x' :: digits)) =
      (Numeral.hexadecimal? digits).bind fun n => if n ≤ maxCode then some (n : KeyCode) else none := by
  have ht : Text.trim ('0' :: 'x' :: digits) = '0' :: 'x' :: digits := by
    exact Text.trim_eq_self (List.forall_mem_cons.mpr ⟨by decide, List.forall_mem_cons.mpr ⟨by decide, hb⟩⟩)
  have hx : Text.upper ('0' :: 'x' :: digits) = '0' :: 'X' :: digits := by
    change _ :: _ :: Text.upper digits = _
    rw [hu]
    rfl
  have hl : table.codes.lookup (String.ofList ('0' :: 'X' :: digits)) = none := by
    refine List.lookup_eq_none_iff.mpr fun entry he => bne_iff_ne.mpr ?_
    intro hk
    refine h.tokens.named entry.fst (List.mem_map_of_mem he) ?_
    rw [← hk, String.toList_ofList]
    exact ⟨digits, rfl⟩
  simp only [parse, String.toList_ofList, ht, hx, hl, List.isEmpty_cons, Bool.false_eq_true, if_false]

-- The number of a code is read as the code if it may be written like that. One with a sign is none.
theorem parse_hexField (h : table.Regular) (code : KeyCode) :
    table.parse ("0x" ++ Numeral.hexField code) =
      if 0 ≤ code ∧ code ≤ maxCode then some code else none := by
  have ht (field : String) : "0x" ++ field = String.ofList ('0' :: 'x' :: field.toList) := by
    simp [← String.toList_inj]
  rw [ht]
  obtain hc | hc := Int.lt_or_le code 0
  case inl =>
    have hd := isTokenChar_hexDigits 3 code.natAbs
    have hn : ¬(0 ≤ code ∧ code ≤ maxCode) := fun hp => Int.not_le.mpr hc hp.left
    rw [Numeral.hexField, if_pos hc, String.toList_ofList, parse_hexadecimal h ?blank ?upper,
      Numeral.hexadecimal?_minus, Option.bind_none, if_neg hn]
    case blank =>
      exact List.forall_mem_cons.mpr ⟨by decide, fun c hm => isBlank_of_isTokenChar (hd c hm)⟩
    case upper =>
      change _ :: Text.upper _ = _
      rw [Text.upper_of_isTokenChar hd]
      rfl
  case inr =>
    obtain ⟨n, rfl⟩ := Int.eq_ofNat_of_zero_le hc
    have hd := isTokenChar_hexDigits 4 n
    rw [Numeral.toList_hexField, parse_hexadecimal h (fun c hm => isBlank_of_isTokenChar (hd c hm))
      (Text.upper_of_isTokenChar hd), Numeral.hexadecimal?_hexDigits, Option.bind_some]
    simp only [hc, true_and, Int.ofNat_le]

theorem parse_stringify_eq (h : table.Regular) (code : KeyCode) :
    table.parse (table.stringify code) =
      if code ∈ table.names.map Prod.fst ∨ (0 ≤ code ∧ code ≤ maxCode) then some code else none := by
  rw [stringify]
  cases hl : table.names.lookup code
  case some name =>
    have hm := mem_of_lookup hl
    rw [Option.getD_some, if_pos (.inl (List.mem_map_of_mem hm))]
    exact parse_of_name h (h.written _ hm)
  case none =>
    rw [Option.getD_none, parse_hexField h]
    simp only [notMem_of_lookup hl, false_or]

theorem parse_stringify (h : table.Regular) (hl : 0 ≤ code) (hg : code ≤ maxCode) :
    table.parse (table.stringify code) = some code := by
  rw [parse_stringify_eq h, if_pos (.inr ⟨hl, hg⟩)]

theorem uppercase_of_isTokenChar (h : ∀ c ∈ name.toList, isTokenChar c) : Text.uppercase name = name := by
  rw [Text.uppercase, Text.upper_of_isTokenChar h, String.ofList_toList]

theorem areTokens_of_isTokenChar {names : List String} (hn : names.Nodup)
    (h : ∀ name ∈ names, name.toList.head? = some 'K' ∧ ∀ c ∈ name.toList, isTokenChar c) :
    AreTokens (names.map Text.uppercase) := by
  have hu : names.map Text.uppercase = names :=
    (List.map_congr_left fun name hm => uppercase_of_isTokenChar (h name hm).right).trans (List.map_id names)
  rw [hu]
  refine ⟨hn, ?given, ?trimmed, ?uppercase, ?named⟩
  case given =>
    rintro _ hm rfl
    exact absurd (h _ hm).left (by decide)
  case trimmed =>
    intro name hm
    exact Text.trim_eq_self fun c hc => isBlank_of_isTokenChar ((h name hm).right c hc)
  case uppercase => exact fun name hm => Text.upper_of_isTokenChar (h name hm).right
  case named =>
    rintro name hm ⟨rest, hr⟩
    have hk := (h name hm).left
    rw [← hr] at hk
    cases hk

theorem basic_names :
    let texts := (basicNames.map Prod.fst ++ basicAliases.map Prod.fst).map String.toList
    (texts.all fun cs => cs.head? = some 'K' && cs.all isTokenChar) &&
      decide (texts.map fun cs => Numeral.ofDigits 128 (cs.map Char.toNat)).Nodup := by
  decide +kernel

theorem nodup_basic : (basicNames.map Prod.fst ++ basicAliases.map Prod.fst).Nodup := by
  have h := (Bool.and_eq_true_iff.mp basic_names).right
  rw [decide_eq_true_eq, List.map_map] at h
  exact h.of_map _

theorem isTokenChar_basic : ∀ name ∈ basicNames.map Prod.fst ++ basicAliases.map Prod.fst,
    name.toList.head? = some 'K' ∧ ∀ c ∈ name.toList, isTokenChar c := by
  have h := (Bool.and_eq_true_iff.mp basic_names).left
  rw [List.all_eq_true, List.forall_mem_map] at h
  simpa using h

theorem basic_targets : ∀ entry ∈ basicAliases, entry.snd ∈ basicNames.map Prod.fst := by
  decide +kernel

theorem build_basic : build basicNames basicAliases = .ok basic := by
  have ht : ∀ entry ∈ basicAliases,
      Text.uppercase entry.snd ∈ (basicNames.map Prod.fst).map Text.uppercase :=
    fun entry he => List.mem_map_of_mem (basic_targets entry he)
  obtain ⟨table, h⟩ := exists_build ht
  rw [basic, h]
  rfl

theorem areTokens_basic : AreTokens (spelled basicNames basicAliases) :=
  areTokens_of_isTokenChar nodup_basic isTokenChar_basic

theorem regular_basic : basic.Regular :=
  regular_of_build areTokens_basic build_basic

theorem names_basic : basic.names = (ofNames basicNames).names :=
  (foldlM_addAlias_ok build_basic).left

theorem stringify_basic (code : KeyCode) : basic.stringify code =
    ((ofNames basicNames).names.lookup code).getD ("0x" ++ Numeral.hexField code) := by
  rw [stringify, names_basic]

theorem isTokenChar_stringify_basic (h : 0 ≤ code) :
    ∀ c ∈ (basic.stringify code).toList, isTokenChar c ∨ c = 'x' := by
  rw [stringify]
  cases hn : basic.names.lookup code
  case some name =>
    have hm := mem_of_lookup hn
    simp only [names_basic, ofNames, List.mem_reverse, List.mem_map, Prod.mk.injEq] at hm
    obtain ⟨entry, he, -, rfl⟩ := hm
    have ht := (isTokenChar_basic entry.fst (by simp [List.mem_map_of_mem he])).right
    rw [uppercase_of_isTokenChar ht]
    exact fun c hc => .inl (ht c hc)
  case none =>
    obtain ⟨n, rfl⟩ := Int.eq_ofNat_of_zero_le h
    rw [Option.getD_none, String.toList_append, Numeral.toList_hexField, List.forall_mem_append]
    have hp : ("0x".toList.all fun c => isTokenChar c || c = 'x') = true := by decide
    exact ⟨by simpa using hp, fun c hc => .inl (isTokenChar_hexDigits 4 n c hc)⟩

end KeyTable

structure KeyCodec.Spells {κ : Type} [KeyCodec κ] (keys : κ) (code : KeyCode) : Prop where
  given  : (stringify keys code).toList ≠ []
  token  : ∀ c ∈ (stringify keys code).toList, isTokenChar c ∨ c = 'x'
  parsed : parse keys (stringify keys code) = some code

theorem KeyCodec.Spells.isBlank {κ : Type} [KeyCodec κ] {keys : κ} (h : Spells keys code)
    (hc : c ∈ (stringify keys code).toList) : Text.isBlank c = false := by
  obtain ht | rfl := h.token c hc
  case inl => exact isBlank_of_isTokenChar ht
  case inr => decide

theorem KeyTable.parse_empty (table : KeyTable) : table.parse "" = none := by
  rfl

theorem KeyTable.spells_basic (hl : 0 ≤ code) (hg : code ≤ maxCode) : KeyCodec.Spells basic code := by
  have hp := parse_stringify regular_basic hl hg
  have hn : (basic.stringify code).toList ≠ [] := by
    intro he
    rw [String.toList_eq_nil_iff.mp he, parse_empty] at hp
    cases hp
  exact ⟨hn, isTokenChar_stringify_basic hl, hp⟩

end KeySlots
