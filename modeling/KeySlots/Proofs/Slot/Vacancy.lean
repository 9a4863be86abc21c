import KeySlots.Proofs.Command.Clear
import KeySlots.Proofs.Slot.Occupied

namespace KeySlots.Slot

open Command (clearAll clearAll_eq_emptied)

variable {kind : Kind} {records out : List Record} {capacity id : Int} {ids : List Int} {slot : Nat}

def Taken (records : List Record) (slot : Nat) : Prop :=
  ∃ r ∈ records, r.id = slot ∧ r.isEmpty = false

def Vacant (records : List Record) (slot : Nat) : Prop :=
  (∀ r ∈ records, r.id ≠ slot) ∨ ∃ r ∈ records, r.id = slot ∧ r.isEmpty

theorem taken_of_isFree_eq_false (h : isFree records slot = false) : Taken records slot := by
  obtain ⟨r, hr, he⟩ := isFree_eq_false_iff.mp h
  obtain ⟨hm, hi⟩ := mem_of_latest?_some hr
  exact ⟨r, hm, hi, he⟩

theorem vacant_of_isFree (h : isFree records slot) : Vacant records slot := by
  rw [isFree] at h
  cases hl : latest? records slot
  case none =>
    rw [latest?, List.find?_eq_none] at hl
    exact .inl fun r hr => by simpa using hl r (List.mem_reverse.mpr hr)
  case some r =>
    obtain ⟨hm, hi⟩ := mem_of_latest?_some hl
    exact .inr ⟨r, hm, hi, by simpa [hl] using h⟩

-- The first empty slot of any list is below the capacity and vacant, and all slots before it are taken. The
-- search fails only if all slots are taken, and then there are no fewer records than slots. So it never
-- falls back on the number of the records.
theorem firstEmpty_exhaustive (kind : Kind) (records : List Record) (capacity : Int) :
    (∀ slot, firstEmpty kind records capacity = .ok slot →
        (slot : Int) < capacity ∧ (∀ i < slot, Taken records i) ∧ Vacant records slot) ∧
      (∀ f, firstEmpty kind records capacity = .error f →
        f = (Refusal.slotsExhausted kind capacity).failure ∧
          (∀ i : Nat, (i : Int) < capacity → Taken records i) ∧ capacity ≤ records.length) ∧
      (firstFree? records capacity.toNat 0 = none → ¬(records.length : Int) < capacity) := by
  have hl (hn : firstFree? records capacity.toNat 0 = none) : capacity ≤ records.length := by
    have := length_le_of_firstFree?_none hn
    omega
  refine ⟨fun slot h => ?_, fun f h => ?_, fun hn => Int.not_lt.mpr (hl hn)⟩
  case refine_1 =>
    obtain ⟨hc, hf, hb⟩ := firstFree?_eq_some_iff.mp (firstEmpty_ok_iff.mp h)
    exact ⟨by omega, fun i hi => taken_of_isFree_eq_false (hb i hi), vacant_of_isFree hf⟩
  case refine_2 =>
    rw [firstEmpty_eq_elim] at h
    cases hn : firstFree? records capacity.toNat 0
    case some => simp [hn] at h
    case none =>
      have hf : (Refusal.slotsExhausted kind capacity).failure = f := by simpa [hn, refuse] using h
      refine ⟨hf.symm, fun i hi => ?_, hl hn⟩
      exact taken_of_isFree_eq_false (firstFree?_eq_none_iff.mp hn i (by omega))

def repeated : List Record :=
  [.keyMacro { id := 1, actions := [.tap 4] }, .keyMacro { id := 9, actions := [.tap 5] },
    .keyMacro { id := 1, actions := [.tap 6] }, .keyMacro { id := 2 },
    .keyMacro { id := 0, actions := [.text "a"] }]

theorem firstEmpty_exhaustive_repeated :
    firstEmpty .keyMacro repeated 4 = .ok 2 ∧ (2 : Int) < 4 ∧ (∀ i < 2, Taken repeated i) ∧
      Vacant repeated 2 :=
  ⟨rfl, (firstEmpty_exhaustive .keyMacro repeated 4).left 2 rfl⟩

theorem find?_emptied (kind : Kind) (ids : List Int) (records : List Record) (id : Int) :
    find? (emptied kind ids records) id =
      (find? records id).map fun r => if (r.id : Int) ∈ ids then .sentinel kind r.id else r := by
  have hc : ((fun r : Record => decide ((r.id : Int) = id)) ∘ fun r : Record =>
      if (r.id : Int) ∈ ids then .sentinel kind r.id else r) = fun r => decide ((r.id : Int) = id) := by
    funext r
    by_cases hr : (r.id : Int) ∈ ids <;> simp [hr]
  rw [find?, emptied, List.find?_map, hc]
  rfl

theorem occupant?_emptied (kind : Kind) (ids : List Int) (records : List Record) (id : Int) :
    occupant? (emptied kind ids records) id = if id ∈ ids then none else occupant? records id := by
  rw [occupant?, occupant?, find?_emptied]
  cases hr : find? records id
  case none => simp
  case some r =>
    rw [Option.map_some, find?_some_id hr]
    split <;> simp [Option.filter]

def lower (slot : Nat) : Except Failure Nat → Nat
  | .ok found => min slot found
  | .error _  => slot

def lowest (ids : List Int) (found : Except Failure Nat) : Except Failure Nat :=
  (found.toOption.toList ++ ids.map Int.toNat).min?.elim found .ok

theorem lowest_nil (found : Except Failure Nat) : lowest [] found = found := by
  cases found <;> rfl

theorem lowest_cons (id : Int) (ids : List Int) (found : Except Failure Nat) :
    lowest (id :: ids) found = lowest ids (.ok (lower id.toNat found)) := by
  cases found
  case error => rfl
  case ok slot =>
    simp only [lowest, lower, Except.toOption, Option.toList_some, List.map_cons, List.singleton_append,
      List.min?_cons', List.foldl_cons, Nat.min_comm slot, Option.elim_some]

theorem firstEmpty_emptied_single (hd : (records.map (·.id)).Nodup) (h₀ : 0 ≤ id) (hc : id < capacity) :
    firstEmpty kind (emptied kind [id] records) capacity =
      .ok (lower id.toNat (firstEmpty kind records capacity)) := by
  have hd' : ((emptied kind [id] records).map (·.id)).Nodup := ids_emptied.symm ▸ hd
  have ho (i : Nat) : occupant? (emptied kind [id] records) i =
      if i = id.toNat then none else occupant? records i := by
    have hi : (i : Int) ∈ [id] ↔ i = id.toNat := by
      rw [List.mem_singleton]
      omega
    simp only [occupant?_emptied, hi]
  rw [firstEmpty_ok_iff_occupant hd']
  simp only [ho]
  cases hf : firstEmpty kind records capacity
  case error =>
    have hb := occupied_of_firstEmpty_error hd hf
    refine ⟨by rw [lower]; omega, if_pos rfl, fun i hi => ?_⟩
    rw [lower] at hi
    rw [if_neg (Nat.ne_of_lt hi)]
    exact hb i (by omega)
  case ok slot =>
    obtain ⟨hs, hn, hb⟩ := (firstEmpty_ok_iff_occupant hd).mp hf
    rw [lower]
    refine ⟨by omega, ?_, fun i hi => ?_⟩
    case refine_1 =>
      rw [ite_eq_left_iff]
      intro hne
      rwa [show min id.toNat slot = slot by omega]
    case refine_2 =>
      rw [if_neg (by omega)]
      exact hb i (by omega)

-- By induction on the slots that are cleared: each is found unless a lower one was found before.
theorem firstEmpty_emptied (hd : (records.map (·.id)).Nodup)
    (ho : ∀ id ∈ ids, objection? kind records capacity id = none) :
    firstEmpty kind (emptied kind ids records) capacity =
      lowest ids (firstEmpty kind records capacity) := by
  induction ids generalizing records
  case nil => rw [emptied_nil, lowest_nil]
  case cons id ids hi =>
    obtain ⟨hid, ho⟩ := List.forall_mem_cons.mp ho
    obtain ⟨h₀, hc, -⟩ := objection?_eq_none_iff.mp hid
    have he : (emptied kind [id] records).map (·.id) = records.map (·.id) := ids_emptied
    have hs : emptied kind (id :: ids) records = emptied kind ids (emptied kind [id] records) :=
      (emptied_emptied [id]).symm
    rw [hs, hi (he.symm ▸ hd) fun other h => (objection?_congr he).trans (ho other h),
      firstEmpty_emptied_single hd h₀ hc, lowest_cons]

-- Slots can be cleared twice and in any order: it comes to the same list. What the search finds in it is the
-- lowest of these slots and of what it found before.
theorem clearing_frees (kind : Kind) (records : List Record) (capacity : Int) (ids : List Int)
    (hd : (records.map (·.id)).Nodup) (hc : ∀ id ∈ ids, ∃ out, clear kind records capacity id = .ok out) :
    (∀ i ∈ ids, ∃ out, clear kind records capacity i = .ok out ∧ clear kind out capacity i = .ok out ∧
        firstEmpty kind out capacity = .ok (lower i.toNat (firstEmpty kind records capacity))) ∧
      (∀ i ∈ ids, ∀ j ∈ ids, ∃ first second out,
        clear kind records capacity i = .ok first ∧ clear kind first capacity j = .ok out ∧
          clear kind records capacity j = .ok second ∧ clear kind second capacity i = .ok out) ∧
      ∃ out, clearAll kind records capacity ids = .ok out ∧
        firstEmpty kind out capacity = lowest ids (firstEmpty kind records capacity) ∧
        ∀ others, (∀ id, id ∈ others ↔ id ∈ ids) → clearAll kind records capacity others = .ok out := by
  have ho : ∀ id ∈ ids, objection? kind records capacity id = none := fun id hid =>
    have ⟨_, h⟩ := hc id hid
    objection?_of_clear h
  have hone : ∀ i ∈ ids, clear kind records capacity i = .ok (emptied kind [i] records) := fun i hi =>
    clear_eq_emptied hd (ho i hi)
  have htwo : ∀ i, ∀ j ∈ ids, clear kind (emptied kind [i] records) capacity j =
      .ok (emptied kind [i, j] records) := by
    intro i j hj
    have he : (emptied kind [i] records).map (·.id) = records.map (·.id) := ids_emptied
    rw [clear_eq_emptied (he.symm ▸ hd) ((objection?_congr he).trans (ho j hj)), emptied_emptied]
    rfl
  refine ⟨fun i hi => ?_, fun i hi j hj => ?_, ?_⟩
  case refine_1 =>
    obtain ⟨h₀, hl, -⟩ := objection?_eq_none_iff.mp (ho i hi)
    have hs : emptied kind [i, i] records = emptied kind [i] records :=
      emptied_congr fun r _ => by simp
    exact ⟨_, hone i hi, hs ▸ htwo i i hi, firstEmpty_emptied_single hd h₀ hl⟩
  case refine_2 =>
    have hs : emptied kind [j, i] records = emptied kind [i, j] records :=
      emptied_congr fun r _ => by simp [or_comm]
    exact ⟨_, _, _, hone i hi, htwo i j hj, hone j hj, hs ▸ htwo j i hi⟩
  case refine_3 =>
    refine ⟨_, clearAll_eq_emptied hd ho, firstEmpty_emptied hd ho, fun others hm => ?_⟩
    rw [clearAll_eq_emptied hd fun id hid => ho id ((hm id).mp hid)]
    exact congrArg _ (emptied_congr fun r _ => hm r.id)

def full : List Record :=
  [.tapDance { id := 3, tap := 4 }, .tapDance { id := 0, hold := 5 },
    .tapDance { id := 2, doubleTap := 6 }, .tapDance { id := 1, tapHold := 7 }]

theorem clearing_frees_full :
    firstEmpty .tapDance full 4 = .error (.refused (.slotsExhausted .tapDance 4)) ∧
      ∃ out, clearAll .tapDance full 4 [3, 2, 3] = .ok out ∧ firstEmpty .tapDance out 4 = .ok 2 ∧
        clearAll .tapDance full 4 [2, 3] = .ok out := by
  have hf : firstEmpty .tapDance full 4 = .error (.refused (.slotsExhausted .tapDance 4)) := by
    decide +kernel
  obtain ⟨out, ho, hl, hs⟩ := (clearing_frees .tapDance full 4 [3, 2, 3] (by decide) (by
    simp only [List.forall_mem_cons]
    exact ⟨⟨_, rfl⟩, ⟨_, rfl⟩, ⟨_, rfl⟩, nofun⟩)).right.right
  rw [hf] at hl
  refine ⟨hf, out, ho, hl, hs [2, 3] fun id => ?_⟩
  simp only [List.mem_cons, List.not_mem_nil, or_false]
  omega

end KeySlots.Slot
