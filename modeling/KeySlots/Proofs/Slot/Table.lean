import KeySlots.Proofs.Slot.Occupied
import KeySlots.Proofs.Slot.Update

namespace KeySlots

open scoped List

namespace Slot

abbrev Table := Int → Option Record

namespace Table

def write (t : Table) (id : Int) (record : Record) : Table :=
  fun i => if i = id then some record else t i

def pad (kind : Kind) (t : Table) (id : Int) : Table :=
  fun i => if 0 ≤ i ∧ i < id ∧ t i = none then some (.sentinel kind i.toNat) else t i

def firstFree? (t : Table) (capacity : Int) : Option Nat :=
  (List.range capacity.toNat).find? fun id => (t id).all (·.isEmpty)

end Table

inductive Operation where
  | allocate (id : Int) (record : Record)
  -- Allocate the first free slot.
  | add (record : Record)
  | update (id : Int) (patch : Patch)
  | clear (id : Int)

namespace Operation

def perform (kind : Kind) (capacity : Int) (records : List Record) :
    Operation → Except Failure (List Record)
  | allocate id record => Slot.allocate kind records capacity id record
  | add record => do
    let id ← firstEmpty kind records capacity
    Slot.allocate kind records capacity id record
  | update id patch => Slot.update kind records capacity id patch
  | clear id => Slot.clear kind records capacity id

def onTable (kind : Kind) (capacity : Int) (t : Table) : Operation → Option Table
  | allocate id record =>
    if 0 ≤ id ∧ id < capacity then some ((t.pad kind id).write id (record.withId id.toNat)) else none
  | add record =>
    (t.firstFree? capacity).map fun id : Nat => (t.pad kind id).write id (record.withId id)
  | update id patch =>
    if (checkPatch kind id patch).isOk ∧ 0 ≤ id ∧ id < capacity then
      (t id).bind fun r => (r.patched (Entries.ofPairs patch)).value?.map (t.write id)
    else
      none
  | clear id =>
    if 0 ≤ id ∧ id < capacity ∧ (t id).isSome then
      some (t.write id (.sentinel kind id.toNat))
    else
      none

end Operation

def run (kind : Kind) (capacity : Int) (records : List Record) (operations : List Operation) :
    List Record :=
  operations.foldl (fun records o => (o.perform kind capacity records).toOption.getD records) records

def Table.run (kind : Kind) (capacity : Int) (t : Table) (operations : List Operation) : Table :=
  operations.foldl (fun t o => (o.onTable kind capacity t).getD t) t

variable {kind : Kind} {record r : Record} {records : List Record} {capacity id : Int} {n m : Nat}

theorem find?_put (record : Record) (records : List Record) :
    find? (put record records) = Table.write (find? records) record.id record := by
  funext i
  rw [Table.write]
  split
  case isTrue h  => rw [h, find?_put_self]
  case isFalse h => exact find?_put_of_ne records (Ne.symm h)

theorem le_foldl_max {ids : List Nat} {least i : Nat} :
    i ≤ ids.foldl max least ↔ i ≤ least ∨ ∃ j ∈ ids, i ≤ j := by
  induction ids generalizing least
  case nil => simp
  case cons id ids hi =>
    have hm : i ≤ max least id ↔ i ≤ least ∨ i ≤ id := by omega
    simp [hi, hm, or_assoc]

theorem lt_foldl_max {ids : List Nat} {i : Nat} : i < ids.foldl max 0 ↔ ∃ j ∈ ids, i < j := by
  rw [← Nat.succ_le_iff, le_foldl_max]
  exact or_iff_right (Nat.not_succ_le_zero i)

theorem mem_gaps {i : Nat} :
    i ∈ gaps records ↔ (∃ j ∈ records.map (·.id), i < j) ∧ i ∉ records.map (·.id) := by
  rw [gaps, List.mem_filter, List.mem_range, lt_foldl_max]
  simp

theorem nodup_gaps (records : List Record) : (gaps records).Nodup :=
  List.nodup_range.filter _

theorem find?_sentinels (ids : List Nat) (id : Int) :
    find? (ids.map (Record.sentinel kind)) id =
      if 0 ≤ id ∧ id.toNat ∈ ids then some (.sentinel kind id.toNat) else none := by
  induction ids
  case nil => simp [find?]
  case cons i ids hi =>
    rw [List.map_cons, find?_cons, hi, Record.id_sentinel]
    by_cases h : (i : Int) = id
    case pos => simp [← h]
    case neg =>
      have hne : 0 ≤ id → id.toNat ≠ i := by omega
      grind

theorem find?_densify_eq (records : List Record) (id : Int) :
    find? (densify kind records) id =
      (find? records id).or
        (if 0 ≤ id ∧ id.toNat ∈ gaps records then some (.sentinel kind id.toNat) else none) := by
  rw [densify, find?_mergeSort, find?_append, find?_sentinels]

theorem sorted_densify (kind : Kind) (records : List Record) :
    ((densify kind records).map (·.id)).Pairwise (· ≤ ·) := by
  have h : (densify kind records).Pairwise fun r s => decide (r.id ≤ s.id) = true :=
    List.pairwise_mergeSort (by simp; omega) (by simp; omega) _
  exact List.pairwise_map.mpr (h.imp of_decide_eq_true)

theorem ids_densify_perm (kind : Kind) (records : List Record) :
    (densify kind records).map (·.id) ~ records.map (·.id) ++ gaps records := by
  have hg : (gaps records).map ((·.id) ∘ Record.sentinel kind) = gaps records := by
    simp [Function.comp_def]
  have hp := (List.mergeSort_perm (records ++ (gaps records).map (Record.sentinel kind))
    fun r s => r.id ≤ s.id).map (·.id)
  rwa [List.map_append, List.map_map, hg] at hp

theorem ids_densify (hd : (records.map (·.id)).Nodup)
    (hm : ∀ i, i < m ↔ i ∈ records.map (·.id) ∨ i ∈ gaps records) :
    (densify kind records).map (·.id) = List.range m := by
  have hn : (records.map (·.id) ++ gaps records).Nodup :=
    List.nodup_append.mpr
      ⟨hd, nodup_gaps records, fun i hi j hj he => (mem_gaps.mp hj).right (he ▸ hi)⟩
  have hp : (densify kind records).map (·.id) ~ List.range m := by
    refine (ids_densify_perm kind records).trans ?_
    rw [List.perm_ext_iff_of_nodup hn List.nodup_range]
    intro i
    rw [List.mem_append, List.mem_range, hm]
  exact hp.eq_of_pairwise (fun _ _ _ _ => Nat.le_antisymm) (sorted_densify kind records)
    List.pairwise_le_range

-- The records are those of the first `n` slots, in order.
def Dense (n : Nat) (records : List Record) : Prop :=
  records.map (·.id) = List.range n

namespace Dense

variable (h : Dense n records)
include h

theorem nodup : (records.map (·.id)).Nodup :=
  h ▸ List.nodup_range

theorem isSome_iff : (find? records id).isSome ↔ 0 ≤ id ∧ id < n := by
  have hm : ∀ i : Nat, i ∈ records.map (·.id) ↔ i < n := fun i => by rw [h, List.mem_range]
  rw [find?_isSome_iff]
  constructor
  case mp =>
    rintro ⟨r, hr, rfl⟩
    have := (hm r.id).mp (List.mem_map_of_mem hr)
    omega
  case mpr =>
    rintro ⟨h₀, hn⟩
    obtain ⟨r, hr, he⟩ := List.mem_map.mp ((hm id.toNat).mpr (by omega))
    exact ⟨r, hr, by omega⟩

theorem firstFree?_eq (kind : Kind) (capacity : Int) :
    Table.firstFree? (find? records) capacity = (firstEmpty kind records capacity).toOption := by
  rw [firstEmpty_eq h.nodup, freeSlots, List.head?_filter, Table.firstFree?]
  cases List.find? _ _ <;> rfl

theorem put_of_isSome (hs : (find? records record.id).isSome) : Dense n (put record records) := by
  obtain ⟨r, hf⟩ := Option.isSome_iff_exists.mp hs
  exact (ids_put_of_find?_some hf).trans h

theorem densify_put (kind : Kind) (record : Record) :
    Dense (max n (record.id + 1)) (densify kind (put record records)) ∧
      find? (densify kind (put record records)) =
        (Table.pad kind (find? records) record.id).write record.id record := by
  have hi : ∀ i, i ∈ (put record records).map (·.id) ↔ i = record.id ∨ i < n := fun i => by
    rw [mem_ids_put, h, List.mem_range]
  have hg : ∀ i, i ∈ gaps (put record records) ↔ n ≤ i ∧ i < record.id := by
    intro i
    rw [mem_gaps, hi]
    simp only [hi]
    constructor
    case mp  => rintro ⟨⟨j, hj, hl⟩, hn⟩; omega
    case mpr => exact fun hl => ⟨⟨record.id, .inl rfl, hl.right⟩, by omega⟩
  constructor
  case left =>
    refine ids_densify (nodup_ids_put h.nodup) fun i => ?_
    rw [hi, hg]
    omega
  case right =>
    funext i
    simp only [find?_densify_eq, find?_put, hg, Table.write]
    split
    case isTrue => rfl
    case isFalse hne =>
      rw [Table.pad]
      have hs : (find? records i).isSome ↔ 0 ≤ i ∧ i < n := h.isSome_iff
      cases hf : find? records i
      case none =>
        have hs : ¬(0 ≤ i ∧ i < n) := fun hi => by simpa [hf] using hs.mpr hi
        have hl : 0 ≤ i ∧ n ≤ i.toNat ∧ i.toNat < record.id ↔ 0 ≤ i ∧ i < record.id := by omega
        simp [hl]
      case some => simp

end Dense

-- An operation on a dense list came to what it came to on the table, and the list has stayed dense.
structure Matches (n : Nat) (capacity : Int) (x : Except Failure (List Record)) (t : Option Table) :
    Prop where
  found : x.toOption.map find? = t
  dense : ∀ out, x = .ok out → ∃ m, n ≤ m ∧ (m : Int) ≤ capacity ∧ Dense m out

theorem Matches.of_ok {x : Except Failure (List Record)} {out : List Record} {t : Table} (hx : x = .ok out)
    (hf : find? out = t) (hd : Dense m out) (hn : n ≤ m) (hc : (m : Int) ≤ capacity) :
    Matches n capacity x (some t) where
  found := by rw [hx, ← hf]; rfl
  dense := by rintro _ rfl; cases hx; exact ⟨m, hn, hc, hd⟩

theorem Matches.of_none {x : Except Failure (List Record)} (hx : ∀ out, x ≠ .ok out) :
    Matches n capacity x none where
  found := by
    cases x
    case error  => rfl
    case ok out => exact (hx out rfl).elim
  dense := fun out ho => (hx out ho).elim

namespace Dense

variable (h : Dense n records) (hc : (n : Int) ≤ capacity)
include h hc

theorem allocate (kind : Kind) (id : Int) (record : Record) :
    Matches n capacity (Slot.allocate kind records capacity id record)
      ((Operation.allocate id record).onTable kind capacity (find? records)) := by
  rw [Operation.onTable]
  split
  case isTrue hi =>
    have ho : Slot.allocate kind records capacity id record =
        .ok (densify kind (put (record.withId id.toNat) records)) := by rw [allocate_eq, if_pos hi]
    obtain ⟨hd, hf⟩ := h.densify_put kind (record.withId id.toNat)
    rw [Record.id_withId, Int.toNat_of_nonneg hi.left] at hf
    rw [Record.id_withId] at hd
    exact .of_ok ho hf hd (by omega) (by omega)
  case isFalse hi => exact .of_none fun out ho => by simp [allocate_eq, hi, refuse] at ho

theorem add (kind : Kind) (record : Record) :
    Matches n capacity ((Operation.add record).perform kind capacity records)
      ((Operation.add record).onTable kind capacity (find? records)) := by
  rw [Operation.perform, Operation.onTable, h.firstFree?_eq kind]
  cases hf : firstEmpty kind records capacity
  case error => exact .of_none fun _ ho => by cases ho
  case ok slot =>
    have ha := h.allocate hc kind slot record
    have hs : 0 ≤ (slot : Int) ∧ (slot : Int) < capacity := ⟨by omega, (firstEmpty_ok hf).left⟩
    rwa [Operation.onTable, if_pos hs] at ha

theorem replace {x : Except Failure (List Record)} (hf : find? records id = some r) (hi : record.id = r.id)
    (hx : x = .ok (put record records)) :
    Matches n capacity x (some (Table.write (find? records) id record)) := by
  have hid : (record.id : Int) = id := by rw [hi, find?_some_id hf]
  refine .of_ok hx ?_ (h.put_of_isSome ?_) (Nat.le_refl n) hc
  case refine_1 => rw [find?_put, hid]
  case refine_2 => rw [hid, hf]; rfl

theorem update (kind : Kind) (id : Int) (patch : Patch) :
    Matches n capacity (Slot.update kind records capacity id patch)
      ((Operation.update id patch).onTable kind capacity (find? records)) := by
  rw [Operation.onTable]
  split
  case isTrue hi =>
    obtain ⟨hk, h₀, hn⟩ := hi
    have hk : checkPatch kind id patch = .ok () := by
      cases hk' : checkPatch kind id patch
      case error => simp [hk', Except.isOk, Except.toBool] at hk
      case ok    => rfl
    cases hf : find? records id
    case none =>
      refine .of_none fun out ho => ?_
      obtain ⟨-, _, _, hl, -⟩ := update_ok_iff.mp ho
      simp [hf, lookup_ok_iff] at hl
    case some r =>
      have hl : lookup kind records capacity id = .ok r := lookup_ok_iff.mpr ⟨h₀, hn, hf⟩
      cases hp : r.patched (Entries.ofPairs patch)
      case accepted new =>
        have hm := merge_ok_iff_patched.mpr hp
        have hid : new.id = r.id := id_of_merge hm (find?_some_id hf ▸ keepsSlot_of_checkPatch hk)
        have hm := h.replace hc hf hid (update_ok_iff.mpr ⟨hk, r, new, hl, hm, rfl⟩)
        simpa [hp, Schema.Checked.value?] using hm
      case rejected =>
        simp only [Option.bind_some, hp, Schema.Checked.value?, Option.map_none]
        refine .of_none fun out ho => ?_
        obtain ⟨-, _, new, hl', hm, -⟩ := update_ok_iff.mp ho
        cases hl.symm.trans hl'
        simp [merge_ok_iff_patched, hp] at hm
  case isFalse hi =>
    refine .of_none fun out ho => hi ?_
    obtain ⟨hk, _, _, hl, -⟩ := update_ok_iff.mp ho
    have hl := lookup_ok_iff.mp hl
    exact ⟨by rw [hk]; rfl, hl.left, hl.right.left⟩

theorem clear (kind : Kind) (id : Int) :
    Matches n capacity (Slot.clear kind records capacity id)
      ((Operation.clear id).onTable kind capacity (find? records)) := by
  rw [Operation.onTable]
  split
  case isTrue hi =>
    obtain ⟨h₀, hn, hs⟩ := hi
    obtain ⟨r, hf⟩ := Option.isSome_iff_exists.mp hs
    have hr : (Record.sentinel kind id.toNat).id = r.id := by
      rw [Record.id_sentinel, ← find?_some_id hf, Int.toNat_natCast]
    exact h.replace hc hf hr (clear_ok_iff.mpr ⟨h₀, hn, hs, rfl⟩)
  case isFalse hi =>
    refine .of_none fun out ho => hi ?_
    obtain ⟨h₀, hn, hs, -⟩ := clear_ok_iff.mp ho
    exact ⟨h₀, hn, hs⟩

-- One operation does to a dense list what it does to the table.
theorem step (kind : Kind) (o : Operation) :
    Matches n capacity (o.perform kind capacity records) (o.onTable kind capacity (find? records)) := by
  cases o
  case allocate id record => exact h.allocate hc kind id record
  case add record         => exact h.add hc kind record
  case update id patch    => exact h.update hc kind id patch
  case clear id           => exact h.clear hc kind id

end Dense

-- Any operations one after the other do to a dense list what they do to the table, whether or not each of
-- them is possible: the list keeps its slots and gets new ones at its end, up to the capacity, and look-up
-- finds in it what is in the table.
theorem run_refines_table (kind : Kind) (capacity : Int) (records : List Record) (n : Nat)
    (hd : records.map (·.id) = List.range n) (hc : (n : Int) ≤ capacity) (operations : List Operation) :
    ∃ m, n ≤ m ∧ (m : Int) ≤ capacity ∧
      (run kind capacity records operations).map (·.id) = List.range m ∧
      ∀ id, find? (run kind capacity records operations) id =
        Table.run kind capacity (find? records) operations id := by
  induction operations generalizing n records
  case nil => exact ⟨n, Nat.le_refl n, hc, hd, fun _ => rfl⟩
  case cons o operations hi =>
    obtain ⟨hf, hn⟩ := Dense.step hd hc kind o
    rw [run, Table.run, List.foldl_cons, List.foldl_cons, ← hf]
    cases hp : o.perform kind capacity records
    case error => exact hi records n hd hc
    case ok out =>
      obtain ⟨m, hm, hc, hd⟩ := hn out hp
      obtain ⟨m', hm', h⟩ := hi out m hd hc
      exact ⟨m', Nat.le_trans hm hm', h⟩

def scattered : List Operation :=
  [.allocate 2 (.keyMacro { actions := [.tap 4] }), .add (.keyMacro { actions := [.tap 5] }),
    .allocate 7 (.keyMacro {}), .update 2 [("id", .int 2), ("actions", .array [])], .clear 3]

theorem run_scattered_refines_table :
    let out := run .keyMacro 4 [] scattered
    (∃ m, m ≤ 4 ∧ out.map (·.id) = List.range m) ∧
      find? out 0 = some (.keyMacro { actions := [.tap 5] }) ∧
      find? out 1 = some (.keyMacro { id := 1 }) ∧ find? out 2 = some (.keyMacro { id := 2 }) ∧
      find? out 3 = none := by
  obtain ⟨m, -, hm, hd, hf⟩ := run_refines_table .keyMacro 4 [] 0 rfl (by decide) scattered
  refine ⟨⟨m, by omega, hd⟩, ?_, ?_, ?_, ?_⟩
  all_goals
    rw [hf]
    decide +kernel

end Slot
end KeySlots
