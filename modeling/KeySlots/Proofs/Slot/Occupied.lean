import KeySlots.Proofs.Slot.Store

namespace KeySlots.Slot

open scoped List

variable {kind : Kind} {record r : Record} {records more : List Record} {capacity id : Int}

-- The record in a slot, unless it is empty.
def occupant? (records : List Record) (id : Int) : Option Record :=
  (find? records id).filter (!·.isEmpty)

def freeSlots (records : List Record) (capacity : Int) : List Nat :=
  (List.range capacity.toNat).filter fun id => (find? records id).all (·.isEmpty)

-- The same records but for empty ones.
def Alike (records more : List Record) : Prop :=
  ∀ r, r.isEmpty = false → (r ∈ records ↔ r ∈ more)

theorem find?_of_mem (hd : (records.map (·.id)).Nodup) (hm : r ∈ records) :
    find? records r.id = some r := by
  induction records
  case nil => cases hm
  case cons s records hi =>
    have ⟨hn, hd⟩ := List.nodup_cons.mp hd
    rw [find?_cons]
    cases hm
    case head => exact if_pos rfl
    case tail hm =>
      have hne : s.id ≠ r.id := fun he => hn (List.mem_map.mpr ⟨r, hm, he.symm⟩)
      rw [if_neg (by omega), hi hd hm]

theorem find?_eq_some_iff (hd : (records.map (·.id)).Nodup) :
    find? records id = some r ↔ r ∈ records ∧ (r.id : Int) = id :=
  ⟨fun h => ⟨mem_of_find?_some h, find?_some_id h⟩, fun ⟨hm, he⟩ => he ▸ find?_of_mem hd hm⟩

theorem mem_put_iff (hd : (records.map (·.id)).Nodup) :
    r ∈ put record records ↔ r = record ∨ r ∈ records ∧ r.id ≠ record.id := by
  have hp : r ∈ put record records ↔ find? (put record records) r.id = some r := by
    simp [find?_eq_some_iff (nodup_ids_put hd)]
  have hf : r ∈ records ↔ find? records r.id = some r := by simp [find?_eq_some_iff hd]
  by_cases hr : r.id = record.id
  case pos =>
    rw [hp, hr, find?_put_self]
    simp [eq_comm]
  case neg =>
    have hne : r ≠ record := fun he => hr (he ▸ rfl)
    rw [hp, hf, find?_put_of_ne _ (by omega)]
    simp [hr, hne]

theorem occupant?_eq_some_iff (hd : (records.map (·.id)).Nodup) :
    occupant? records id = some r ↔ r ∈ records ∧ (r.id : Int) = id ∧ r.isEmpty = false := by
  simp [occupant?, Option.filter_eq_some_iff, find?_eq_some_iff hd, and_assoc]

theorem all_isEmpty_eq (records : List Record) (id : Int) :
    (find? records id).all (·.isEmpty) = (occupant? records id).isNone := by
  rw [occupant?]
  cases find? records id
  case none   => rfl
  case some r => cases h : r.isEmpty <;> simp [Option.filter, h]

theorem firstEmpty_eq (hd : (records.map (·.id)).Nodup) :
    firstEmpty kind records capacity =
      (freeSlots records capacity).head?.elim (refuse (.slotsExhausted kind capacity)) .ok := by
  have hf : isFree records = fun id : Nat => (find? records id).all (·.isEmpty) :=
    funext fun _ => isFree_of_nodup hd
  rw [firstEmpty_eq_elim, firstFree?_eq_find?, hf, freeSlots, List.head?_filter, List.range_eq_range']

theorem firstEmpty_of_nil (hd : (records.map (·.id)).Nodup) (hf : freeSlots records capacity = []) :
    firstEmpty kind records capacity = refuse (.slotsExhausted kind capacity) := by
  rw [firstEmpty_eq hd, hf]
  rfl

theorem firstEmpty_of_cons {slot : Nat} {rest : List Nat} (hd : (records.map (·.id)).Nodup)
    (hf : freeSlots records capacity = slot :: rest) : firstEmpty kind records capacity = .ok slot := by
  rw [firstEmpty_eq hd, hf]
  rfl

theorem isSome_occupant?_iff (hd : (records.map (·.id)).Nodup) :
    (occupant? records id).isSome ↔ ∃ r ∈ records.filter (!·.isEmpty), (r.id : Int) = id := by
  simp only [Option.isSome_iff_exists, occupant?_eq_some_iff hd, List.mem_filter]
  grind

theorem head?_freeSlots_eq_some_iff {slot : Nat} :
    (freeSlots records capacity).head? = some slot ↔
      (slot : Int) < capacity ∧ occupant? records slot = none ∧
        ∀ id < slot, (occupant? records id).isSome := by
  simp only [freeSlots, List.head?_filter, List.find?_range_eq_some, all_isEmpty_eq, List.mem_range,
    Option.isNone_iff_eq_none, Option.not_isNone, ← Int.lt_toNat]
  exact and_left_comm

theorem freeSlots_eq_nil_iff :
    freeSlots records capacity = [] ↔
      ∀ id : Nat, (id : Int) < capacity → (occupant? records id).isSome := by
  simp [freeSlots, all_isEmpty_eq, Int.lt_toNat, Option.isSome_iff_ne_none]

theorem firstEmpty_ok_iff_occupant {slot : Nat} (hd : (records.map (·.id)).Nodup) :
    firstEmpty kind records capacity = .ok slot ↔
      (slot : Int) < capacity ∧ occupant? records slot = none ∧
        ∀ id < slot, (occupant? records id).isSome := by
  rw [firstEmpty_eq hd, ← head?_freeSlots_eq_some_iff]
  cases (freeSlots records capacity).head? <;> simp [refuse]

theorem occupied_of_firstEmpty_error {f : Failure} (hd : (records.map (·.id)).Nodup)
    (h : firstEmpty kind records capacity = .error f) :
    ∀ id : Nat, (id : Int) < capacity → (occupant? records id).isSome := by
  rw [← freeSlots_eq_nil_iff]
  cases hf : freeSlots records capacity
  case nil  => rfl
  case cons => cases (firstEmpty_of_cons hd hf).symm.trans h

-- A record that is not empty takes its slot from the free ones.
theorem freeSlots_put (records : List Record) (capacity : Int) (he : record.isEmpty = false) :
    freeSlots (put record records) capacity = (freeSlots records capacity).filter (· ≠ record.id) := by
  rw [freeSlots, freeSlots, List.filter_filter]
  congr 1
  funext id
  by_cases hi : id = record.id
  case pos =>
    rw [hi, find?_put_self]
    simp [he]
  case neg =>
    rw [find?_put_of_ne records (by omega)]
    simp [hi]

theorem freeSlots_put_first {slot : Nat} {free : List Nat} (he : record.isEmpty = false)
    (hf : freeSlots records capacity = slot :: free) :
    freeSlots (put (record.withId slot) records) capacity = free := by
  have hn : (freeSlots records capacity).Nodup := List.nodup_range.filter _
  rw [hf] at hn
  have hs : ∀ id ∈ free, id ≠ slot := fun id hi hs => (List.nodup_cons.mp hn).left (hs ▸ hi)
  rw [freeSlots_put records capacity (by rw [Record.isEmpty_withId, he]), hf, Record.id_withId]
  simpa using hs

namespace Alike

variable (h : Alike records more) (hd : (records.map (·.id)).Nodup) (hm : (more.map (·.id)).Nodup)
include h hd hm

theorem occupant? (id : Int) : occupant? records id = occupant? more id := by
  ext r
  rw [occupant?_eq_some_iff hd, occupant?_eq_some_iff hm]
  constructor
  · exact fun ⟨hr, hi, he⟩ => ⟨(h r he).mp hr, hi, he⟩
  · exact fun ⟨hr, hi, he⟩ => ⟨(h r he).mpr hr, hi, he⟩

theorem freeSlots (capacity : Int) : freeSlots records capacity = freeSlots more capacity := by
  simp only [Slot.freeSlots, all_isEmpty_eq, h.occupant? hd hm]

theorem firstEmpty : firstEmpty kind records capacity = firstEmpty kind more capacity := by
  rw [firstEmpty_eq hd, firstEmpty_eq hm, h.freeSlots hd hm]

theorem put (record : Record) : Alike (put record records) (put record more) := by
  intro r he
  rw [mem_put_iff hd, mem_put_iff hm, h r he]

theorem filter_perm {predicate : Record → Bool} (hp : ∀ r, predicate r → r.isEmpty = false) :
    records.filter predicate ~ more.filter predicate := by
  have hn {xs : List Record} (h : (xs.map (·.id)).Nodup) : (xs.filter predicate).Nodup :=
    (List.Pairwise.of_map _ (fun _ _ hne he => hne (congrArg _ he)) h).filter _
  rw [List.perm_ext_iff_of_nodup (hn hd) (hn hm)]
  intro r
  simp only [List.mem_filter]
  exact and_congr_left fun hr => h r (hp r hr)

end Alike
end KeySlots.Slot
