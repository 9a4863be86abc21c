import KeySlots.Proofs.Entries
import KeySlots.Proofs.Json.Escape
import KeySlots.Proofs.Json.Reader

namespace KeySlots

namespace Numeral

variable {n : Nat}

theorem exists_toDigits (n : Nat) : ∃ c cs, Nat.toDigits 10 n = c :: cs ∧ c.isDigit := by
  obtain ⟨c, cs, hc⟩ := List.exists_cons_of_ne_nil (Nat.toDigits_ne_nil (n := n) (b := 10))
  have hd : ∀ d ∈ Nat.toDigits 10 n, d.isDigit := fun _ hd =>
    Nat.isDigit_of_mem_toDigits (by decide) (by decide) hd
  exact ⟨c, cs, hc, hd c (hc ▸ List.mem_cons_self)⟩

theorem toDigits_zero_cons {cs : List Char} (h : Nat.toDigits 10 n = '0' :: cs) : n = 0 := by
  induction n using Nat.strongRecOn generalizing cs
  case ind n hi =>
    rw [Nat.toDigits_eq_if (by decide)] at h
    split at h
    case isTrue =>
      have ⟨hn, _⟩ : n = 0 ∧ cs = [] := by simpa using h
      exact hn
    case isFalse hn =>
      obtain ⟨c, ds, hc, -⟩ := exists_toDigits (n / 10)
      rw [hc, List.cons_append, List.cons.injEq] at h
      have := hi (n / 10) (by omega) (h.left ▸ hc)
      omega

end Numeral

namespace Json

open Reader (skip isSpace wholeDigits fractionDigits exponent? number)
open Printer (newline)

variable {c : Char} {cs rest : List Char} {limit level fuel : Nat} {v : Json} {vs : List Json}
  {n : Int}

-- What comes after a value that is printed inside another one.
def Follows (rest : List Char) : Prop :=
  ∀ c ∈ rest.head?, c = ',' ∨ c = '\n'

theorem follows_comma (rest : List Char) : Follows (',' :: rest) := by
  simp [Follows]

theorem follows_newline (level : Nat) (rest : List Char) : Follows (newline level ++ rest) := by
  simp [Follows, newline]

theorem wholeDigits_toDigits (n : Nat) (h : Follows rest) :
    wholeDigits (Nat.toDigits 10 n ++ rest) = (Nat.toDigits 10 n, rest) := by
  have hr : rest.takeWhile Char.isDigit = [] ∧ rest.dropWhile Char.isDigit = rest := by
    cases rest
    case nil => exact ⟨rfl, rfl⟩
    case cons c rest => obtain rfl | rfl := h c rfl <;> exact ⟨rfl, rfl⟩
  have hd : ∀ c ∈ Nat.toDigits 10 n, c.isDigit := fun _ hc =>
    Nat.isDigit_of_mem_toDigits (by decide) (by decide) hc
  unfold wholeDigits
  split
  case h_1 cs hz =>
    obtain ⟨c, ds, hc, -⟩ := Numeral.exists_toDigits n
    rw [hc, List.cons_append, List.cons.injEq] at hz
    have hn : n = 0 := Numeral.toDigits_zero_cons (hz.left ▸ hc)
    rw [hn, Nat.toDigits_zero, List.cons.injEq] at hc
    rw [hn, Nat.toDigits_zero, ← hz.right, ← hc.right]
    rfl
  case h_2 =>
    rw [List.span_eq_takeWhile_dropWhile, List.takeWhile_append_of_pos hd,
      List.dropWhile_append_of_pos hd, hr.left, hr.right, List.append_nil]

theorem fractionDigits_of_follows (h : Follows rest) : fractionDigits rest = ([], rest) := by
  cases rest
  case nil => rfl
  case cons c rest => obtain rfl | rfl := h c rfl <;> rfl

theorem exponent?_of_follows (h : Follows rest) : exponent? rest = none := by
  cases rest
  case nil => rfl
  case cons c rest => obtain rfl | rfl := h c rfl <;> rfl

theorem splitMinus_decimalText (n : Int) (rest : List Char) :
    Numeral.splitMinus ((Numeral.decimalText n).toList ++ rest) =
      (decide (n < 0), Nat.toDigits 10 n.natAbs ++ rest) := by
  rw [Numeral.decimalText, String.toList_ofList]
  split
  case isTrue h => simp [Numeral.splitMinus, h]
  case isFalse h =>
    obtain ⟨c, ds, hc, hd⟩ := Numeral.exists_toDigits n.natAbs
    rw [hc, List.cons_append]
    unfold Numeral.splitMinus
    split
    case h_1 he =>
      cases he
      cases hd
    case h_2 => simp [h]

theorem number_decimalText (hl : 0 < limit) (hn : n.natAbs < 10 ^ limit)
    (h : Follows rest) :
    number (some limit) ((Numeral.decimalText n).toList ++ rest) = .ok (.int n, rest) := by
  have hd : (Nat.toDigits 10 n.natAbs).length ≤ limit :=
    (Nat.length_toDigits_le_iff (by decide) hl).mpr hn
  have hv : Numeral.signed (decide (n < 0)) (Numeral.naturalValue (Nat.toDigits 10 n.natAbs)) = n := by
    rw [Numeral.naturalValue_toDigits, Numeral.signed]
    simp only [decide_eq_true_eq]
    split <;> omega
  simp only [number, splitMinus_decimalText, wholeDigits_toDigits _ h, fractionDigits_of_follows h,
    exponent?_of_follows h]
  simp [Nat.toDigits_ne_nil, hd, hv]

theorem value_of_digit (h : (Numeral.splitMinus cs).2.head?.any Char.isDigit) :
    Reader.value (some limit) (fuel + 1) cs = number (some limit) cs := by
  rw [Reader.value]
  all_goals
    rintro rest rfl
    exact Bool.false_ne_true h

theorem value_decimalText (hl : 0 < limit) (hn : n.natAbs < 10 ^ limit)
    (h : Follows rest) :
    Reader.value (some limit) (fuel + 1) ((Numeral.decimalText n).toList ++ rest) =
      .ok (.int n, rest) := by
  obtain ⟨c, ds, hc, hd⟩ := Numeral.exists_toDigits n.natAbs
  rw [value_of_digit (by simpa [splitMinus_decimalText, hc] using hd), number_decimalText hl hn h]

-- The values that their text tells exactly: numbers are whole, texts are made of characters and objects
-- have each name once.
inductive IsExact : Json → Prop
  | null : IsExact .null
  | bool (b : Bool) : IsExact (.bool b)
  | int (n : Int) : IsExact (.int n)
  | text (s : String) : IsExact (.text s)
  | array {vs : List Json} (h : ∀ v ∈ vs, IsExact v) : IsExact (.array vs)
  | object {fs : Fields} (hn : (fs.map (·.1)).Nodup) (h : ∀ f ∈ fs, IsExact f.2) :
    IsExact (.object fs)

theorem skip_newline (level : Nat) (cs : List Char) : skip (newline level ++ cs) = skip cs := by
  have hs : ∀ c ∈ newline level, isSpace c := by
    refine List.forall_mem_cons.mpr ⟨rfl, ?_⟩
    intro c hc
    rw [(List.mem_replicate.mp hc).right]
    rfl
  exact List.dropWhile_append_of_pos hs

theorem isSpace_of_isDigit (h : c.isDigit) : isSpace c = false := by
  by_contra hs
  obtain rfl | rfl | rfl | rfl : c = ' ' ∨ c = '\t' ∨ c = '\n' ∨ c = '\r' := by
    simpa [isSpace, or_iff_not_imp_left] using hs
  all_goals cases h

theorem IsExact.starts (h : IsExact v) (level : Nat) :
    ∃ c cs, Printer.value level v = c :: cs ∧ isSpace c = false := by
  cases h
  case null => exact ⟨'n', _, rfl, rfl⟩
  case bool b => cases b <;> exact ⟨_, _, rfl, rfl⟩
  case int n =>
    obtain ⟨c, ds, hc, hd⟩ := Numeral.exists_toDigits n.natAbs
    rw [Printer.value, Numeral.decimalText, String.toList_ofList]
    split
    case isTrue => exact ⟨'-', _, rfl, rfl⟩
    case isFalse =>
      exact ⟨c, ds, hc, isSpace_of_isDigit hd⟩
  case text s => exact ⟨'"', _, rfl, rfl⟩
  case array vs _ => cases vs <;> exact ⟨_, _, rfl, rfl⟩
  case object fs _ _ => cases fs <;> exact ⟨_, _, rfl, rfl⟩

theorem IsExact.skip (h : IsExact v) (level : Nat) (rest : List Char) :
    skip (Printer.value level v ++ rest) = Printer.value level v ++ rest := by
  obtain ⟨c, cs, hc, hs⟩ := h.starts level
  rw [hc, List.cons_append, Reader.skip, List.dropWhile_cons_of_neg (by simp [hs])]

-- The value is read back wherever it is printed inside another one.
def ReadsBack (limit : Nat) (v : Json) : Prop :=
  ∀ level fuel rest, 2 * (Printer.value level v).length ≤ fuel → Follows rest →
    Reader.value (some limit) fuel (Printer.value level v ++ rest) = .ok (v, rest)

theorem elements_last {after : List Char} (hv : Reader.value (some limit) fuel cs = .ok (v, after))
    (hs : skip after = ']' :: rest) : Reader.elements (some limit) (fuel + 1) cs = .ok ([v], rest) := by
  simp only [Reader.elements, hv, bind, Except.bind, hs]

theorem elements_cons {after more : List Char}
    (hv : Reader.value (some limit) fuel cs = .ok (v, after)) (hs : skip after = ',' :: more)
    (he : Reader.elements (some limit) fuel (skip more) = .ok (vs, rest)) :
    Reader.elements (some limit) (fuel + 1) cs = .ok (v :: vs, rest) := by
  simp only [Reader.elements, hv, bind, Except.bind, hs, he]

theorem items_cons_cons (level : Nat) (v w : Json) (vs : List Json) :
    Printer.items level (v :: w :: vs) =
      newline (level + 1) ++ (Printer.value (level + 1) v ++ ',' :: Printer.items level (w :: vs)) := by
  simp [Printer.items]

theorem elements_items (level : Nat) (rest : List Char) (hx : ∀ w ∈ v :: vs, IsExact w)
    (hr : ∀ w ∈ v :: vs, ReadsBack limit w)
    (hf : 2 * (Printer.items level (v :: vs)).length ≤ fuel) :
    Reader.elements (some limit) fuel
        (skip (Printer.items level (v :: vs) ++ (newline level ++ ']' :: rest))) =
      .ok (v :: vs, rest) := by
  induction vs generalizing v fuel
  case nil =>
    rw [List.forall_mem_singleton] at hx hr
    rw [Printer.items] at hf ⊢
    simp only [newline, List.length_append, List.length_cons] at hf
    obtain ⟨fuel, rfl⟩ : ∃ more, fuel = more + 1 := ⟨fuel - 1, by omega⟩
    rw [List.append_assoc, skip_newline, hx.skip]
    exact elements_last (hr _ _ _ (by omega) (follows_newline level _)) (skip_newline level _)
  case cons w vs hi =>
    obtain ⟨hx, hxs⟩ := List.forall_mem_cons.mp hx
    obtain ⟨hr, hrs⟩ := List.forall_mem_cons.mp hr
    rw [items_cons_cons] at hf ⊢
    simp only [newline, List.length_append, List.length_cons] at hf
    obtain ⟨fuel, rfl⟩ : ∃ more, fuel = more + 1 := ⟨fuel - 1, by omega⟩
    rw [List.append_assoc, List.append_assoc, skip_newline, hx.skip]
    exact elements_cons (hr _ _ _ (by omega) (follows_comma _)) rfl (hi hxs hrs (by omega))

section

variable {name : String} {after : List Char}

theorem string_append (cs rest : List Char) :
    Printer.string cs ++ rest = '"' :: (cs.flatMap Printer.escape ++ '"' :: rest) := by
  simp [Printer.string]

theorem skip_colon (hx : IsExact v) (level : Nat) (after : List Char) :
    skip (' ' :: (Printer.value level v ++ after)) = Printer.value level v ++ after := by
  have hs : isSpace ' ' := rfl
  rw [skip, List.dropWhile_cons_of_pos hs]
  exact hx.skip level after

theorem members_last (hx : IsExact v)
    (hv : Reader.value (some limit) fuel (Printer.value level v ++ after) = .ok (v, after))
    (hs : skip after = '}' :: rest) :
    Reader.members (some limit) (fuel + 1)
        (Printer.string name.toList ++ ':' :: ' ' :: (Printer.value level v ++ after)) =
      .ok ([(name, v)], rest) := by
  have hn (cs : List Char) : skip (':' :: cs) = ':' :: cs := rfl
  rw [string_append]
  simp only [Reader.members, chars_string, bind, Except.bind, hn, skip_colon hx, hv, hs,
    stringText_units]

theorem members_cons {more : List Char} {fs : Fields} (hx : IsExact v)
    (hv : Reader.value (some limit) fuel (Printer.value level v ++ after) = .ok (v, after))
    (hs : skip after = ',' :: more)
    (hm : Reader.members (some limit) fuel (skip more) = .ok (fs, rest)) :
    Reader.members (some limit) (fuel + 1)
        (Printer.string name.toList ++ ':' :: ' ' :: (Printer.value level v ++ after)) =
      .ok ((name, v) :: fs, rest) := by
  have hn (cs : List Char) : skip (':' :: cs) = ':' :: cs := rfl
  rw [string_append]
  simp only [Reader.members, chars_string, bind, Except.bind, hn, skip_colon hx, hv, hs, hm,
    stringText_units]

end

theorem skip_string (cs rest : List Char) : skip (Printer.string cs ++ rest) = Printer.string cs ++ rest :=
  rfl

theorem fields_cons_cons (level : Nat) (name : String) (v : Json) (f : String × Json) (fs : Fields) :
    Printer.fields level ((name, v) :: f :: fs) =
      newline (level + 1) ++ (Printer.string name.toList ++
        ':' :: ' ' :: (Printer.value (level + 1) v ++ ',' :: Printer.fields level (f :: fs))) := by
  simp [Printer.fields]

theorem members_fields {f : String × Json} {fs : Fields} (level : Nat) (rest : List Char)
    (hx : ∀ g ∈ f :: fs, IsExact g.2) (hr : ∀ g ∈ f :: fs, ReadsBack limit g.2)
    (hf : 2 * (Printer.fields level (f :: fs)).length ≤ fuel) :
    Reader.members (some limit) fuel
        (skip (Printer.fields level (f :: fs) ++ (newline level ++ '}' :: rest))) =
      .ok (f :: fs, rest) := by
  induction fs generalizing f fuel
  case nil =>
    obtain ⟨name, v⟩ := f
    rw [List.forall_mem_singleton] at hx hr
    dsimp only at hr
    rw [Printer.fields] at hf ⊢
    simp only [newline, List.length_append, List.length_cons] at hf
    obtain ⟨fuel, rfl⟩ : ∃ more, fuel = more + 1 := ⟨fuel - 1, by omega⟩
    rw [List.append_assoc, List.append_assoc, skip_newline, skip_string]
    exact members_last hx (hr _ _ _ (by omega) (follows_newline level _)) (skip_newline level _)
  case cons g fs hi =>
    obtain ⟨name, v⟩ := f
    obtain ⟨hx, hxs⟩ := List.forall_mem_cons.mp hx
    obtain ⟨hr, hrs⟩ := List.forall_mem_cons.mp hr
    dsimp only at hr
    rw [fields_cons_cons] at hf ⊢
    simp only [newline, List.length_append, List.length_cons] at hf
    obtain ⟨fuel, rfl⟩ : ∃ more, fuel = more + 1 := ⟨fuel - 1, by omega⟩
    rw [List.append_assoc, List.append_assoc, skip_newline, skip_string, List.cons_append, List.cons_append,
      List.append_assoc]
    exact members_cons hx (hr _ _ _ (by omega) (follows_comma _)) rfl (hi hxs hrs (by omega))

-- No item of an array starts with its closing bracket, and no field of an object with its closing brace.
theorem value_array (he : Reader.elements (some limit) fuel (skip cs) = .ok (vs, rest)) :
    Reader.value (some limit) (fuel + 1) ('[' :: cs) = .ok (.array vs, rest) := by
  rw [Reader.value]
  split
  case h_1 tail ht =>
    rw [ht] at he
    obtain _ | _ | fuel := fuel <;> cases he
  case h_2 => rw [he]; rfl

theorem value_object {fs : Fields} (hm : Reader.members (some limit) fuel (skip cs) = .ok (fs, rest)) :
    Reader.value (some limit) (fuel + 1) ('{' :: cs) = .ok (.object (Entries.ofPairs fs), rest) := by
  rw [Reader.value]
  split
  case h_1 tail ht =>
    rw [ht] at hm
    obtain _ | fuel := fuel <;> cases hm
  case h_2 => rw [hm]; rfl

theorem readsBack_array (hx : ∀ v ∈ vs, IsExact v) (hr : ∀ v ∈ vs, ReadsBack limit v) :
    ReadsBack limit (.array vs) := by
  intro level fuel rest hf _
  cases vs
  case nil =>
    obtain _ | fuel := fuel
    case zero => simp [Printer.value] at hf
    case succ => rfl
  case cons v vs =>
    rw [Printer.value] at hf ⊢
    simp only [List.length_append, List.length_cons] at hf
    obtain ⟨fuel, rfl⟩ : ∃ more, fuel = more + 1 := ⟨fuel - 1, by omega⟩
    rw [List.append_assoc, List.append_assoc]
    exact value_array (elements_items level rest hx hr (by omega))

theorem readsBack_object {fs : Fields} (hn : (fs.map (·.1)).Nodup) (hx : ∀ f ∈ fs, IsExact f.2)
    (hr : ∀ f ∈ fs, ReadsBack limit f.2) : ReadsBack limit (.object fs) := by
  intro level fuel rest hf _
  cases fs
  case nil =>
    obtain _ | fuel := fuel
    case zero => simp [Printer.value] at hf
    case succ => rfl
  case cons f fs =>
    rw [Printer.value] at hf ⊢
    simp only [List.length_append, List.length_cons] at hf
    obtain ⟨fuel, rfl⟩ : ∃ more, fuel = more + 1 := ⟨fuel - 1, by omega⟩
    rw [List.append_assoc, List.append_assoc]
    have hl : 2 * (Printer.fields level (f :: fs)).length ≤ fuel := by omega
    have ho := value_object (members_fields level rest hx hr hl)
    rwa [Entries.ofPairs_of_nodup hn] at ho

theorem IsExact.readsBack_of_succ (hx : IsExact v)
    (h : ∀ level fuel rest, Follows rest →
      Reader.value (some limit) (fuel + 1) (Printer.value level v ++ rest) = .ok (v, rest)) :
    ReadsBack limit v := by
  intro level fuel rest hf hr
  obtain ⟨c, cs, hc, -⟩ := hx.starts level
  obtain _ | fuel := fuel
  case zero => simp [hc] at hf
  case succ => exact h level fuel rest hr

theorem IsExact.readsBack (hl : 0 < limit) (hx : IsExact v) (hw : Within limit v) :
    ReadsBack limit v := by
  induction hx
  case null => exact IsExact.null.readsBack_of_succ fun _ _ _ _ => rfl
  case bool b => exact (IsExact.bool b).readsBack_of_succ fun _ _ _ _ => by cases b <;> rfl
  case int n =>
    exact (IsExact.int n).readsBack_of_succ fun _ _ _ hf =>
      value_decimalText hl (hw n (List.mem_singleton_self n)) hf
  case text s =>
    refine (IsExact.text s).readsBack_of_succ fun level fuel rest hf => ?_
    rw [Printer.value, string_append, Reader.value, chars_string]
    simp [Except.map, stringValue_units]
  case array vs hx hi =>
    rw [within_array_iff] at hw
    exact readsBack_array hx fun w hv => hi w hv (hw w hv)
  case object fs hn hx hi =>
    rw [within_object_iff] at hw
    exact readsBack_object hn hx fun f hm => hi f hm (hw f hm)

theorem ascii_newline (level : Nat) : ∀ c ∈ newline level, c.toNat < 0x80 := by
  refine List.forall_mem_cons.mpr ⟨by decide, ?_⟩
  intro c hc
  rw [(List.mem_replicate.mp hc).right]
  decide

theorem ascii_decimalText (n : Int) : ∀ c ∈ (Numeral.decimalText n).toList, c.toNat < 0x80 := by
  have hd : ∀ c ∈ Nat.toDigits 10 n.natAbs, c.toNat < 0x80 := by
    intro c hc
    have hc : c.isDigit := Nat.isDigit_of_mem_toDigits (by decide) (by decide) hc
    exact Nat.lt_of_le_of_lt (Char.isDigit_iff_toNat.mp hc).right (by decide)
  rw [Numeral.decimalText, String.toList_ofList]
  split
  case isTrue => exact List.forall_mem_cons.mpr ⟨by decide, hd⟩
  case isFalse => exact hd

theorem ascii_items (level : Nat)
    (h : ∀ v ∈ vs, ∀ level, ∀ c ∈ Printer.value level v, c.toNat < 0x80) :
    ∀ c ∈ Printer.items level vs, c.toNat < 0x80 := by
  induction vs
  case nil => simp [Printer.items]
  case cons v vs hi =>
    obtain ⟨hv, h⟩ := List.forall_mem_cons.mp h
    cases vs
    case nil =>
      rw [Printer.items]
      exact List.forall_mem_append.mpr ⟨ascii_newline _, hv _⟩
    case cons w vs =>
      rw [items_cons_cons]
      refine List.forall_mem_append.mpr ⟨ascii_newline _, List.forall_mem_append.mpr ⟨hv _, ?_⟩⟩
      exact List.forall_mem_cons.mpr ⟨by decide, hi h⟩

theorem ascii_fields {fs : Fields} (level : Nat)
    (h : ∀ f ∈ fs, ∀ level, ∀ c ∈ Printer.value level f.2, c.toNat < 0x80) :
    ∀ c ∈ Printer.fields level fs, c.toNat < 0x80 := by
  have hc : ∀ c ∈ [':', ' '], c.toNat < 0x80 :=
    List.forall_mem_cons.mpr ⟨by decide, List.forall_mem_singleton.mpr (by decide)⟩
  induction fs
  case nil => simp [Printer.fields]
  case cons f fs hi =>
    obtain ⟨name, v⟩ := f
    obtain ⟨hv, h⟩ := List.forall_mem_cons.mp h
    have hn := List.forall_mem_append.mpr ⟨ascii_newline (level + 1), ascii_string name.toList⟩
    cases fs
    case nil =>
      rw [Printer.fields]
      refine List.forall_mem_append.mpr ⟨hn, ?_⟩
      exact List.forall_mem_append.mpr ⟨hc, hv _⟩
    case cons g fs =>
      rw [fields_cons_cons, ← List.append_assoc]
      refine List.forall_mem_append.mpr ⟨hn, ?_⟩
      refine List.forall_mem_append.mpr ⟨hc, List.forall_mem_append.mpr ⟨hv _, ?_⟩⟩
      exact List.forall_mem_cons.mpr ⟨by decide, hi h⟩

theorem ascii_enclosed {first last : Char} (hf : first.toNat < 0x80) (hl : last.toNat < 0x80)
    (h : ∀ c ∈ cs, c.toNat < 0x80) (level : Nat) :
    ∀ c ∈ first :: cs ++ newline level ++ [last], c.toNat < 0x80 :=
  List.forall_mem_append.mpr
    ⟨List.forall_mem_append.mpr ⟨List.forall_mem_cons.mpr ⟨hf, h⟩, ascii_newline level⟩,
      List.forall_mem_singleton.mpr hl⟩

theorem IsExact.ascii (hx : IsExact v) (level : Nat) : ∀ c ∈ Printer.value level v, c.toNat < 0x80 := by
  induction hx generalizing level
  case null => simp [Printer.value]
  case bool b => cases b <;> simp [Printer.value]
  case int n => exact ascii_decimalText n
  case text s => exact ascii_string s.toList
  case array vs _ hi =>
    cases vs
    case nil => simp [Printer.value]
    case cons v vs => exact ascii_enclosed (by decide) (by decide) (ascii_items level hi) level
  case object fs _ _ hi =>
    cases fs
    case nil => simp [Printer.value]
    case cons f fs => exact ascii_enclosed (by decide) (by decide) (ascii_fields level hi) level

theorem IsExact.read_print (hl : 0 < limit) (hx : IsExact v) (hw : Within limit v) :
    read (some limit) v.print.toList = .ok v := by
  have hs := hx.skip 0 []
  have hr := hx.readsBack hl hw 0 _ [] (Nat.le_succ _) (by simp [Follows])
  rw [List.append_nil] at hs hr
  rw [print, String.toList_ofList, read, hs, hr]
  case x =>
    intro cs hc
    have hm : '\ufeff'.toNat < 0x80 := hx.ascii 0 _ (hc ▸ List.mem_cons_self)
    exact absurd hm (by decide)
  rfl

end Json
end KeySlots
