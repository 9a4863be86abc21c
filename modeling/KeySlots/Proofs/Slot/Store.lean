import KeySlots.Slot.Store

namespace KeySlots.Slot

open List

variable {kind : Kind} {record r : Record} {records : List Record} {capacity id : Int}

theorem find?_some_id (h : find? records id = some r) : (r.id : Int) = id := by
  have := List.find?_some h
  simpa using this

theorem mem_of_find?_some (h : find? records id = some r) : r ∈ records :=
  List.mem_of_find?_eq_some h

theorem find?_isSome_iff : (find? records id).isSome ↔ ∃ r ∈ records, (r.id : Int) = id := by
  simp [find?]

theorem find?_none_iff : find? records id = none ↔ ∀ r ∈ records, (r.id : Int) ≠ id := by
  simp [find?]

theorem find?_append (records more : List Record) (id : Int) :
    find? (records ++ more) id = (find? records id).or (find? more id) :=
  List.find?_append

theorem find?_eq_head? (records : List Record) (id : Nat) :
    find? records id = (records.filter (·.id = id)).head? := by
  simp only [find?, List.head?_filter, Int.ofNat_inj]

theorem latest?_eq_getLast? (records : List Record) (id : Nat) :
    latest? records id = (records.filter (·.id = id)).getLast? := by
  rw [latest?, ← List.head?_filter, List.filter_reverse, List.head?_reverse]

-- The search for a free slot sees the record that look-up sees if the slot has no other one.
theorem latest?_eq_find? {id : Nat} (h : (records.filter (·.id = id)).length ≤ 1) :
    latest? records id = find? records id := by
  rw [latest?_eq_getLast?, find?_eq_head?]
  generalize records.filter (·.id = id) = same at h ⊢
  cases same
  case nil => rfl
  case cons r rest =>
    cases List.length_eq_zero_iff.mp (Nat.le_zero.mp (Nat.le_of_succ_le_succ h))
    rfl

theorem isFree_of_nodup {id : Nat} (h : (records.map (·.id)).Nodup) :
    isFree records id = (find? records id).all (·.isEmpty) := by
  have hl : (records.filter (·.id = id)).length ≤ 1 := by
    have hc : (records.map (·.id)).count id ≤ 1 := List.nodup_iff_count.mp h id
    rwa [List.count, List.countP_map, List.countP_eq_length_filter] at hc
  rw [isFree, latest?_eq_find? hl]

theorem find?_put_withId (record : Record) (records : List Record) (slot : Nat) :
    find? (put (record.withId slot) records) slot = some (record.withId slot) := by
  have h := find?_put_self (record.withId slot) records
  rwa [Record.id_withId] at h

-- All that putting a record in can do: it replaces the first record of the slot, or it comes to the
-- end if the slot has none.
theorem put_cases (record : Record) (records : List Record) :
    (find? records record.id = none ∧ put record records = records ++ [record]) ∨
    ∃ front old back, records = front ++ old :: back ∧ (∀ r ∈ front, r.id ≠ record.id) ∧
      old.id = record.id ∧ find? records record.id = some old ∧
      put record records = front ++ record :: back := by
  induction records
  case nil => exact .inl ⟨rfl, rfl⟩
  case cons r records hi =>
    by_cases hr : r.id = record.id
    case pos =>
      refine .inr ⟨[], r, records, rfl, by simp, hr, ?_, by simp [put, hr]⟩
      rw [find?_cons, if_pos (by omega)]
    case neg =>
      have hf : find? (r :: records) record.id = find? records record.id := by
        rw [find?_cons, if_neg (by omega)]
      have hp : put record (r :: records) = r :: put record records := by simp [put, hr]
      cases hi
      case inl hi => exact .inl ⟨hf.trans hi.left, by simp [hp, hi.right]⟩
      case inr hi =>
        obtain ⟨front, old, back, he, hn, ho, hs, hi⟩ := hi
        refine .inr ⟨r :: front, old, back, by simp [he], ?_, ho, hf.trans hs, by simp [hp, hi]⟩
        simpa [hr] using hn

theorem put_put {other : Record} (h : record.id = other.id) (records : List Record) :
    put other (put record records) = put other records := by
  induction records
  case nil => simp [put, h]
  case cons r records hi =>
    by_cases hr : r.id = other.id
    case pos => simp [put, h, hr]
    case neg => simp [put, h, hr, hi]

theorem put_of_find?_none (h : find? records record.id = none) :
    put record records = records ++ [record] := by
  cases put_cases record records
  case inl hp => exact hp.right
  case inr hp =>
    have ⟨_, _, _, _, _, _, hs, _⟩ := hp
    simp [h] at hs

theorem ids_put_of_find?_some (h : find? records record.id = some r) :
    (put record records).map (·.id) = records.map (·.id) := by
  cases put_cases record records
  case inl hp => simp [hp.left] at h
  case inr hp =>
    have ⟨front, old, back, he, _, ho, _, hp⟩ := hp
    rw [hp, he]
    simp [ho]

theorem mem_put (h : r ∈ put record records) : r = record ∨ r ∈ records := by
  cases put_cases record records
  case inl hp => simpa [hp.right, or_comm] using h
  case inr hp =>
    have ⟨front, old, back, he, _, _, _, hp⟩ := hp
    rw [hp] at h
    simp only [he, mem_append, mem_cons] at h ⊢
    grind

theorem mem_ids_put {id : Nat} :
    id ∈ (put record records).map (·.id) ↔ id = record.id ∨ id ∈ records.map (·.id) := by
  cases put_cases record records
  case inl hp => simp [hp.right, or_comm, eq_comm]
  case inr hp =>
    have ⟨front, old, back, he, _, ho, hs, _⟩ := hp
    have hm : record.id ∈ records.map (·.id) := by simp [he, ho]
    rw [ids_put_of_find?_some hs]
    exact ⟨.inr, fun h => h.elim (· ▸ hm) fun h => h⟩

theorem nodup_ids_put (h : (records.map (·.id)).Nodup) : ((put record records).map (·.id)).Nodup := by
  cases hf : find? records record.id
  case some => rwa [ids_put_of_find?_some hf]
  case none =>
    have hn : ∀ r ∈ records, r.id ≠ record.id := fun r hr he =>
      find?_none_iff.mp hf r hr (by omega)
    simpa [put_of_find?_none hf, nodup_append, h] using hn

-- Putting a record in costs nothing: what it replaces is empty, and all that is not stays in its place.
structure Spares (records : List Record) (record : Record) : Prop where
  replaced : ∀ r, find? records record.id = some r → r.isEmpty
  kept     : ∀ (i : Nat) r, records[i]? = some r → r.isEmpty = false →
    (put record records)[i]? = some r

theorem spares_iff : Spares records record ↔ (find? records record.id).all (·.isEmpty) := by
  constructor
  case mp =>
    intro h
    simpa [Option.all_eq_true] using h.replaced
  case mpr =>
    intro h
    refine ⟨by simpa [Option.all_eq_true] using h, fun i r hr he => ?_⟩
    obtain ⟨_, hp⟩ | ⟨front, old, back, hs, _, _, hf, hp⟩ := put_cases record records
    case inl =>
      have ⟨hi, _⟩ := List.getElem?_eq_some_iff.mp hr
      rw [hp, List.getElem?_append_left hi, hr]
    case inr =>
      have ho : old.isEmpty := by simpa [hf] using h
      have hi : front.length ≠ i := by
        intro hi
        subst hi
        simp [hs] at hr
        simp [← hr, ho] at he
      have hset : front ++ record :: back = records.set front.length record := by simp [hs]
      rw [hp, hset, List.getElem?_set_ne hi, hr]

structure Orderly (records : List Record) (capacity : Int) : Prop where
  distinct : (records.map (·.id)).Nodup
  inRange  : ∀ r ∈ records, (r.id : Int) < capacity

theorem Orderly.put (h : Orderly records capacity) (hr : (record.id : Int) < capacity) :
    Orderly (put record records) capacity where
  distinct := nodup_ids_put h.distinct
  inRange r hm := by
    cases mem_put hm
    case inl he => exact he ▸ hr
    case inr hm => exact h.inRange r hm

theorem Orderly.of_ids {more : List Record} (h : Orderly records capacity)
    (he : more.map (·.id) = records.map (·.id)) : Orderly more capacity where
  distinct := he ▸ h.distinct
  inRange r hr := by
    have hm : r.id ∈ records.map (·.id) := he ▸ mem_map_of_mem hr
    obtain ⟨s, hs, hid⟩ := mem_map.mp hm
    exact hid ▸ h.inRange s hs

-- Sorting by slots is stable, so a slot keeps its first record.
theorem filter_id_mergeSort (records : List Record) (id : Int) :
    (records.mergeSort fun r s => r.id ≤ s.id).filter (fun r => (r.id : Int) = id) =
      records.filter fun r => (r.id : Int) = id := by
  have hs : records.filter (fun r => (r.id : Int) = id) <+
      records.mergeSort fun r s => r.id ≤ s.id := by
    apply sublist_mergeSort (by simp; omega) (by simp; omega) _ filter_sublist
    refine pairwise_filter.mpr <| pairwise_of_forall fun a b ha hb => ?_
    simp at ha hb ⊢
    omega
  have hs := hs.filter fun r => (r.id : Int) = id
  rw [filter_filter] at hs
  simp only [Bool.and_self] at hs
  exact hs.eq_of_length ((mergeSort_perm ..).filter _).length_eq.symm |>.symm

theorem find?_mergeSort (records : List Record) (id : Int) :
    find? (records.mergeSort fun r s => r.id ≤ s.id) id = find? records id := by
  rw [find?, find?, ← head?_filter, ← head?_filter, filter_id_mergeSort]

theorem find?_densify (h : find? records id = some r) : find? (densify kind records) id = some r := by
  simp [densify, find?_mergeSort, find?_append, h]

theorem lookup_ok_iff :
    lookup kind records capacity id = .ok r ↔
      0 ≤ id ∧ id < capacity ∧ find? records id = some r := by
  simp only [lookup, checkRange, refuse, Bool.and_eq_true, decide_eq_true_eq]
  split
  case isTrue h =>
    simp only [bind, Except.bind]
    cases hf : find? records id <;> simp [h]
  case isFalse h =>
    simp only [bind, Except.bind, reduceCtorEq, false_iff]
    exact fun ⟨h₁, h₂, _⟩ => h ⟨h₁, h₂⟩

theorem firstFree?_eq_find? (records : List Record) (count id : Nat) :
    firstFree? records count id = (List.range' id count).find? (isFree records) := by
  induction count generalizing id
  case zero => rfl
  case succ count hi =>
    rw [firstFree?, List.range'_succ, List.find?_cons, hi]
    cases isFree records id <;> rfl

theorem firstFree?_eq_some_iff {count slot : Nat} :
    firstFree? records count 0 = some slot ↔
      slot < count ∧ isFree records slot ∧ ∀ lower < slot, isFree records lower = false := by
  rw [firstFree?_eq_find?, ← List.range_eq_range', List.find?_range_eq_some, List.mem_range]
  simp only [Bool.not_eq_true']
  exact and_left_comm

theorem firstFree?_eq_none_iff {count : Nat} :
    firstFree? records count 0 = none ↔ ∀ id < count, isFree records id = false := by
  rw [firstFree?_eq_find?, ← List.range_eq_range', List.find?_range_eq_none]
  simp only [Bool.not_eq_true']

theorem isFree_eq_false_iff {id : Nat} :
    isFree records id = false ↔ ∃ r, latest? records id = some r ∧ r.isEmpty = false := by
  rw [isFree]
  cases latest? records id <;> simp

theorem mem_of_latest?_some {id : Nat} (h : latest? records id = some r) : r ∈ records ∧ r.id = id :=
  ⟨List.mem_reverse.mp (List.mem_of_find?_eq_some h), by simpa using List.find?_some h⟩

-- Slots that are not free have a record each, so there are no more of them than records.
theorem length_le_of_firstFree?_none {count : Nat} (h : firstFree? records count 0 = none) :
    count ≤ records.length := by
  have hs : List.range count ⊆ records.map (·.id) := by
    intro id hid
    obtain ⟨r, hr, -⟩ := isFree_eq_false_iff.mp (firstFree?_eq_none_iff.mp h id (mem_range.mp hid))
    obtain ⟨hm, rfl⟩ := mem_of_latest?_some hr
    exact mem_map_of_mem hm
  simpa using nodup_range.length_le_of_subset hs

-- If there are fewer records than slots, one is free, so the search never falls back on their number.
theorem firstEmpty_eq_elim (kind : Kind) (records : List Record) (capacity : Int) :
    firstEmpty kind records capacity =
      (firstFree? records capacity.toNat 0).elim (refuse (.slotsExhausted kind capacity)) .ok := by
  rw [firstEmpty]
  cases h : firstFree? records capacity.toNat 0
  case some => rfl
  case none =>
    have := length_le_of_firstFree?_none h
    exact if_neg (by omega)

theorem firstEmpty_ok_iff {slot : Nat} :
    firstEmpty kind records capacity = .ok slot ↔ firstFree? records capacity.toNat 0 = some slot := by
  rw [firstEmpty_eq_elim]
  cases firstFree? records capacity.toNat 0 <;> simp [refuse]

theorem firstEmpty_ok {slot : Nat} (h : firstEmpty kind records capacity = .ok slot) :
    (slot : Int) < capacity ∧ isFree records slot := by
  obtain ⟨hl, hf, -⟩ := firstFree?_eq_some_iff.mp (firstEmpty_ok_iff.mp h)
  exact ⟨by omega, hf⟩

theorem allocate_eq (kind : Kind) (records : List Record) (capacity id : Int) (record : Record) :
    allocate kind records capacity id record =
      if 0 ≤ id ∧ id < capacity then .ok (densify kind (put (record.withId id.toNat) records))
      else refuse (.outOfRange kind id capacity) := by
  rw [allocate, checkRange]
  by_cases h : 0 ≤ id ∧ id < capacity
  case pos => simp [h, bind, Except.bind]
  case neg =>
    rw [if_neg h, if_neg (by simpa using h)]
    rfl

theorem allocate_ok {slot : Nat} {out : List Record}
    (h : allocate kind records capacity slot record = .ok out) :
    (slot : Int) < capacity ∧ find? out slot = some (record.withId slot) := by
  rw [allocate_eq] at h
  split at h
  case isTrue hs =>
    cases h
    exact ⟨hs.right, find?_densify (find?_put_withId ..)⟩
  case isFalse => cases h

theorem allocate_of_lt {slot : Nat} (kind : Kind) (records : List Record) (record : Record)
    (h : (slot : Int) < capacity) :
    ∃ out, allocate kind records capacity slot record = .ok out :=
  ⟨_, by rw [allocate_eq, if_pos ⟨Int.natCast_nonneg slot, h⟩]⟩

theorem clear_ok_iff {out : List Record} :
    clear kind records capacity id = .ok out ↔
      0 ≤ id ∧ id < capacity ∧ (find? records id).isSome ∧
        out = put (.sentinel kind id.toNat) records := by
  simp only [clear, bind, Except.bind]
  split
  case h_1 f h =>
    simp only [reduceCtorEq, false_iff]
    intro ⟨h₀, hc, hs, _⟩
    have ⟨r, hr⟩ := Option.isSome_iff_exists.mp hs
    rw [lookup_ok_iff.mpr ⟨h₀, hc, hr⟩] at h
    cases h
  case h_2 r h =>
    have ⟨h₀, hc, hr⟩ := lookup_ok_iff.mp h
    have hid : r.id = id.toNat := by have := find?_some_id hr; omega
    simp [h₀, hc, hr, hid, eq_comm]

theorem ids_of_clear {out : List Record} (h : clear kind records capacity id = .ok out) :
    out.map (·.id) = records.map (·.id) := by
  have ⟨h₀, _, hs, he⟩ := clear_ok_iff.mp h
  have ⟨r, hr⟩ := Option.isSome_iff_exists.mp hs
  have hid : ((Record.sentinel kind id.toNat).id : Int) = id := by rw [Record.id_sentinel]; omega
  rw [he, ids_put_of_find?_some (hid ▸ hr)]

theorem find?_of_clear {out : List Record} (h : clear kind records capacity id = .ok out) :
    find? out id.toNat = some (.sentinel kind id.toNat) := by
  have hp := find?_put_self (.sentinel kind id.toNat) records
  rwa [Record.id_sentinel, ← (clear_ok_iff.mp h).right.right.right] at hp

end KeySlots.Slot
