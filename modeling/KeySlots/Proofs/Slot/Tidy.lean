import KeySlots.Proofs.Slot.Table

namespace KeySlots.Slot

open scoped List

variable {kind : Kind} {record : Record} {records out : List Record} {capacity id : Int} {slot i : Nat}

-- The records are in the order of their slots, and no slot is left out below one that has a record.
structure Tidy (records : List Record) : Prop where
  sorted : (records.map (·.id)).Pairwise (· ≤ ·)
  dense  : ∀ i ∈ records.map (·.id), ∀ j < i, j ∈ records.map (·.id)

theorem tidy_congr (h : out.map (·.id) = records.map (·.id)) : Tidy out ↔ Tidy records :=
  ⟨fun t => ⟨h ▸ t.sorted, h ▸ t.dense⟩, fun t => ⟨h ▸ t.sorted, h ▸ t.dense⟩⟩

theorem mem_ids_densify (kind : Kind) :
    i ∈ (densify kind records).map (·.id) ↔ ∃ j ∈ records.map (·.id), i ≤ j := by
  rw [(ids_densify_perm kind records).mem_iff, List.mem_append, mem_gaps]
  constructor
  case mp =>
    rintro (hi | ⟨⟨j, hj, hl⟩, -⟩)
    case inl => exact ⟨i, hi, Nat.le_refl i⟩
    case inr => exact ⟨j, hj, Nat.le_of_lt hl⟩
  case mpr =>
    rintro ⟨j, hj, hl⟩
    by_cases hi : i ∈ records.map (·.id)
    case pos => exact .inl hi
    case neg =>
      have hne : i ≠ j := fun he => hi (he ▸ hj)
      exact .inr ⟨⟨j, hj, by omega⟩, hi⟩

theorem tidy_densify (kind : Kind) (records : List Record) : Tidy (densify kind records) where
  sorted := sorted_densify kind records
  dense i hi j hl := by
    rw [mem_ids_densify] at hi ⊢
    obtain ⟨k, hk, hik⟩ := hi
    exact ⟨k, hk, by omega⟩

-- A slot of the dense list has the records that it had, in their order, or an empty one if it was left out.
theorem filter_densify (kind : Kind) (records : List Record) (i : Nat) :
    (densify kind records).filter (·.id = i) =
      records.filter (·.id = i) ++ if i ∈ gaps records then [.sentinel kind i] else [] := by
  have hs := filter_id_mergeSort (records ++ (gaps records).map (Record.sentinel kind)) i
  have hg : ((gaps records).map (Record.sentinel kind)).filter (·.id = i) =
      if i ∈ gaps records then [.sentinel kind i] else [] := by
    have hc : ((fun r : Record => decide (r.id = i)) ∘ Record.sentinel kind) = fun j => decide (j = i) := by
      funext j
      simp
    rw [List.filter_map, hc, List.filter_eq, (nodup_gaps records).count]
    split <;> rfl
  simp only [Int.ofNat_inj] at hs
  rw [densify, hs, List.filter_append, hg]

theorem filter_put_self (record : Record) (records : List Record) :
    (put record records).filter (·.id = record.id) =
      record :: (records.filter (·.id = record.id)).tail := by
  induction records
  case nil => simp [put]
  case cons r records hi =>
    by_cases hr : r.id = record.id
    case pos => simp [put, hr]
    case neg => simp [put, hr, hi]

theorem filter_put_of_ne (records : List Record) (h : i ≠ record.id) :
    (put record records).filter (·.id = i) = records.filter (·.id = i) := by
  induction records
  case nil => simp [put, Ne.symm h]
  case cons r records hi =>
    by_cases hr : r.id = record.id
    case pos => simp [put, hr, Ne.symm h]
    case neg => simp [put, hr, List.filter_cons, hi]

def top (slot : Nat) (records : List Record) : Nat :=
  (records.map (·.id)).foldl max slot

theorem le_top_iff : i ≤ top slot records ↔ i ≤ slot ∨ ∃ j ∈ records.map (·.id), i ≤ j :=
  le_foldl_max

theorem le_top_put : (∃ j ∈ (put record records).map (·.id), i ≤ j) ↔ i ≤ top record.id records := by
  simp only [mem_ids_put, le_top_iff, or_and_right, exists_or, exists_eq_left]

-- A record has come into a slot, in place of the first one there, and the slots left out have been filled
-- up with empty records. All other records have been kept, those of one slot in their order.
structure Places (kind : Kind) (slot : Nat) (record : Record) (records out : List Record) : Prop where
  sorted : (out.map (·.id)).Pairwise (· ≤ ·)
  slots  : ∀ i, i ∈ out.map (·.id) ↔ i ≤ top slot records
  placed : out.filter (·.id = slot) = record.withId slot :: (records.filter (·.id = slot)).tail
  kept   : ∀ i ∈ records.map (·.id), i ≠ slot → out.filter (·.id = i) = records.filter (·.id = i)
  filled : ∀ i < top slot records, i ≠ slot → i ∉ records.map (·.id) →
    out.filter (·.id = i) = [.sentinel kind i]

theorem places_densify (kind : Kind) (slot : Nat) (record : Record) (records : List Record) :
    Places kind slot record records (densify kind (put (record.withId slot) records)) := by
  have hid : (record.withId slot).id = slot := Record.id_withId slot record
  have hm (i : Nat) : i ∈ (put (record.withId slot) records).map (·.id) ↔
      i = slot ∨ i ∈ records.map (·.id) := by rw [mem_ids_put, hid]
  constructor
  case sorted => exact sorted_densify ..
  case slots =>
    intro i
    rw [mem_ids_densify, le_top_put, hid]
  case placed =>
    have hg : slot ∉ gaps (put (record.withId slot) records) := fun hg =>
      (mem_gaps.mp hg).right ((hm slot).mpr (.inl rfl))
    have hp := filter_put_self (record.withId slot) records
    rw [hid] at hp
    rw [filter_densify, hp, if_neg hg, List.append_nil]
  case kept =>
    intro i hi hne
    have hg : i ∉ gaps (put (record.withId slot) records) := fun hg =>
      (mem_gaps.mp hg).right ((hm i).mpr (.inr hi))
    rw [filter_densify, filter_put_of_ne records (hid.symm ▸ hne), if_neg hg, List.append_nil]
  case filled =>
    intro i hl hne hi
    have hn : i ∉ (put (record.withId slot) records).map (·.id) := fun h => ((hm i).mp h).elim hne hi
    have hg : i ∈ gaps (put (record.withId slot) records) := by
      refine mem_gaps.mpr ⟨?_, hn⟩
      obtain ⟨j, hj, hij⟩ := le_top_put.mpr (hid.symm ▸ hl : i + 1 ≤ top (record.withId slot).id records)
      exact ⟨j, hj, hij⟩
    have hf : records.filter (·.id = i) = [] := by
      refine List.filter_eq_nil_iff.mpr fun r hr he => hi ?_
      exact List.mem_map.mpr ⟨r, hr, of_decide_eq_true he⟩
    rw [filter_densify, filter_put_of_ne records (hid.symm ▸ hne), hf, if_pos hg, List.nil_append]

theorem ids_densify_put (kind : Kind) (record : Record) (h : Orderly records capacity)
    (hr : (record.id : Int) < capacity) :
    (densify kind (put record records)).map (·.id) = List.range (top record.id records + 1) ∧
      ((densify kind (put record records)).length : Int) ≤ capacity := by
  have hi : (densify kind (put record records)).map (·.id) = List.range (top record.id records + 1) := by
    refine ids_densify (nodup_ids_put h.distinct) fun i => ?_
    rw [Nat.lt_succ_iff, ← le_top_put, ← mem_ids_densify kind,
      (ids_densify_perm kind (put record records)).mem_iff, List.mem_append]
  refine ⟨hi, ?_⟩
  have hl := congrArg List.length hi
  rw [List.length_map, List.length_range] at hl
  obtain ⟨j, hj, ht⟩ := le_top_put.mpr (Nat.le_refl (top record.id records))
  obtain ⟨s, hs, rfl⟩ := List.mem_map.mp hj
  have := (h.put hr).inRange s hs
  omega

-- Allocation fails exactly for slots that do not exist. It is refused if the report can hold the number of
-- the slot and that of the last one, and is a fault if not. Else it puts the record in its slot, whatever
-- the list is.
theorem allocate_places (kind : Kind) (records : List Record) (capacity id : Int) (record : Record) :
    (allocate kind records capacity id record = .error (.refused (.outOfRange kind id capacity)) ↔
        ¬(0 ≤ id ∧ id < capacity) ∧ Numeral.isWritable id ∧
          (0 < capacity → Numeral.isWritable (capacity - 1))) ∧
      (allocate kind records capacity id record = .error (.faulted .unwritableNumber) ↔
        ¬(0 ≤ id ∧ id < capacity) ∧
          ¬(Numeral.isWritable id ∧ (0 < capacity → Numeral.isWritable (capacity - 1)))) ∧
      (0 ≤ id ∧ id < capacity →
        ∃ out, allocate kind records capacity id record = .ok out ∧
          Places kind id.toNat record records out ∧
          (Orderly records capacity →
            out.map (·.id) = List.range (top id.toNat records + 1) ∧ (out.length : Int) ≤ capacity)) := by
  rw [allocate_eq]
  refine ⟨?_, ?_, fun h => ?_⟩
  case refine_1 | refine_2 =>
    rw [refuse, failure_outOfRange_eq]
    split
    case isTrue h  => simp [h]
    case isFalse h => rw [← ite_not]; split <;> simp_all
  case refine_3 =>
    refine ⟨_, if_pos h, places_densify .., fun ho => ?_⟩
    have hid : (record.withId id.toNat).id = id.toNat := Record.id_withId ..
    have hp := ids_densify_put kind (record.withId id.toNat) ho (by omega)
    rwa [hid] at hp

def crowded : List Record :=
  [.keyMacro { id := 5, actions := [.tap 4] }, .keyMacro { id := 2, actions := [.tap 5] },
    .keyMacro { id := 2, actions := [.tap 6] }, .keyMacro { id := 0 }]

theorem allocate_places_crowded :
    ∃ out, allocate .keyMacro crowded 8 2 (.keyMacro { id := 7, actions := [.up 9] }) = .ok out ∧
      (∀ i, i ∈ out.map (·.id) ↔ i ≤ 5) ∧
      out.filter (·.id = 2) =
        [.keyMacro { id := 2, actions := [.up 9] }, .keyMacro { id := 2, actions := [.tap 6] }] ∧
      out.filter (·.id = 4) = [.keyMacro { id := 4 }] := by
  obtain ⟨out, ho, hp, -⟩ :=
    (allocate_places .keyMacro crowded 8 2 (.keyMacro { id := 7, actions := [.up 9] })).right.right
      (by decide)
  exact ⟨out, ho, hp.slots, hp.placed, hp.filled 4 (by decide) (by decide) (by decide)⟩

-- A slot that does not exist is not reported as out of range if its number is too long.
theorem allocate_overlong :
    ¬(allocate .keyMacro [] 2 Numeral.overlong (.keyMacro {}) =
          .error (.refused (.outOfRange .keyMacro Numeral.overlong 2)) ↔
        ¬(0 ≤ (Numeral.overlong : Int) ∧ (Numeral.overlong : Int) < 2)) ∧
      allocate .keyMacro [] 2 Numeral.overlong (.keyMacro {}) = .error (.faulted .unwritableNumber) := by
  have hw := Numeral.not_isWritable_overlong
  have hl : ¬(0 ≤ (Numeral.overlong : Int) ∧ (Numeral.overlong : Int) < 2) := fun ⟨_, hl⟩ =>
    hw (Numeral.isWritable_of_le (by omega) (Int.le_of_lt hl) (by decide +kernel))
  have hf : allocate .keyMacro [] 2 Numeral.overlong (.keyMacro {}) =
      .error (.faulted .unwritableNumber) := by
    rw [allocate_eq, if_neg hl, refuse, failure_outOfRange_overlong hw]
  refine ⟨fun h => ?_, hf⟩
  cases hf.symm.trans (h.mpr hl)

theorem tidy_of_allocate (h : allocate kind records capacity id record = .ok out) : Tidy out := by
  rw [allocate_eq] at h
  split at h
  case isTrue  => exact Except.ok.inj h ▸ tidy_densify ..
  case isFalse => cases h

theorem ids_of_update {patch : Patch} (h : update kind records capacity id patch = .ok out) :
    out.map (·.id) = records.map (·.id) := by
  obtain ⟨hc, old, new, hl, hm, rfl⟩ := update_ok_iff.mp h
  obtain ⟨-, -, hf⟩ := lookup_ok_iff.mp hl
  cases find?_some_id hf
  have hid : new.id = old.id := id_of_merge hm (keepsSlot_of_checkPatch hc)
  exact ids_put_of_find?_some (hid ▸ hf)

namespace Operation

def Fills : Operation → Prop
  | allocate _ _ | add _ => True
  | update _ _ | clear _ => False

theorem tidy_iff {o : Operation} (h : o.perform kind capacity records = .ok out) :
    Tidy out ↔ o.Fills ∨ Tidy records := by
  cases o
  case allocate id record => exact iff_of_true (tidy_of_allocate h) (.inl trivial)
  case add record =>
    obtain ⟨slot, -, ha⟩ := bind_ok_iff.mp h
    exact iff_of_true (tidy_of_allocate ha) (.inl trivial)
  case update id patch => simpa [Fills] using tidy_congr (ids_of_update h)
  case clear id        => simpa [Fills] using tidy_congr (ids_of_clear h)

end Operation

-- What an operation gives is tidy if it puts a record in. Else it is so exactly if the list was, and then
-- it stays so over any operations one after the other.
theorem perform_tidy_iff (kind : Kind) (capacity : Int) (records : List Record) :
    (∀ (o : Operation) out, o.perform kind capacity records = .ok out →
        (Tidy out ↔ o.Fills ∨ Tidy records)) ∧
      (Tidy records → ∀ operations, Tidy (run kind capacity records operations)) := by
  refine ⟨fun o out h => Operation.tidy_iff h, fun h operations => ?_⟩
  induction operations generalizing records
  case nil => exact h
  case cons o operations hi =>
    rw [run, List.foldl_cons]
    cases hp : o.perform kind capacity records
    case error  => exact hi records h
    case ok out => exact hi out ((Operation.tidy_iff hp).mpr (.inr h))

theorem perform_tidy_iff_crowded :
    Tidy (run .keyMacro 4 [] scattered) ∧ ¬Tidy crowded ∧
      ∃ out, (Operation.allocate 2 (.keyMacro {})).perform .keyMacro 8 crowded = .ok out ∧ Tidy out := by
  refine ⟨(perform_tidy_iff .keyMacro 4 []).right ⟨.nil, nofun⟩ scattered,
    fun t => absurd t.sorted (by decide), _, rfl, ?_⟩
  have hp := (perform_tidy_iff .keyMacro 8 crowded).left (.allocate 2 (.keyMacro {})) _ rfl
  exact hp.mpr (.inl trivial)

def reversed : List Record :=
  [.keyMacro { id := 1, actions := [.tap 4] }, .keyMacro { actions := [.tap 5] }]

-- Two records that are the wrong way round stay so when one of them is cleared.
theorem clear_untidy : ∃ out, clear .keyMacro reversed 2 1 = .ok out ∧ ¬Tidy out :=
  ⟨_, rfl, fun t => absurd t.sorted (by decide)⟩

end KeySlots.Slot
