import KeySlots.Proofs.Command.Planned
import KeySlots.Proofs.Keyboard

namespace KeySlots

theorem mem_matching {predicate : Record → Bool} {records : List Record} {id : Int} :
    id ∈ matching predicate records ↔ ∃ r ∈ records, predicate r ∧ (r.id : Int) = id := by
  simp [matching, List.mem_mergeSort, and_assoc]

namespace Slot

variable {kind : Kind} {record r : Record} {records : List Record} {capacity id : Int} {ids : List Int}

-- What stands against clearing a slot: there is none of that number, or it has no record.
def objection? (kind : Kind) (records : List Record) (capacity id : Int) : Option Refusal :=
  if 0 ≤ id ∧ id < capacity then
    if id.toNat ∈ records.map (·.id) then none else some (.notFound kind id)
  else
    some (.outOfRange kind id capacity)

-- The records with empty ones in the given slots.
def emptied (kind : Kind) (ids : List Int) (records : List Record) : List Record :=
  records.map fun r => if (r.id : Int) ∈ ids then .sentinel kind r.id else r

theorem objection?_eq_none_iff :
    objection? kind records capacity id = none ↔
      0 ≤ id ∧ id < capacity ∧ id.toNat ∈ records.map (·.id) := by
  rw [objection?]
  split
  case isTrue h =>
    split
    case isTrue hm  => simp [h, hm]
    case isFalse hm => simp [hm]
  case isFalse h => simp only [reduceCtorEq, false_iff]; exact fun ⟨h₀, hl, _⟩ => h ⟨h₀, hl⟩

theorem failure_of_objection {refusal : Refusal} (h : objection? kind records capacity id = some refusal)
    (hc : Numeral.isWritable capacity) (hi : Numeral.isWritable id) :
    refusal.failure = .refused refusal := by
  rw [objection?] at h
  split at h
  case isTrue =>
    split at h <;> cases h
    exact Refusal.failure_of_writable (by simpa [Refusal.numbers] using hi)
  case isFalse =>
    cases h
    exact failure_outOfRange hc hi

theorem failure_of_objection_overlong {refusal : Refusal}
    (h : objection? kind records capacity id = some refusal) (hi : ¬Numeral.isWritable id) :
    refusal.failure = .faulted .unwritableNumber := by
  rw [objection?] at h
  split at h
  case isTrue =>
    split at h <;> cases h
    exact Refusal.failure_of_overlong (by simp [Refusal.numbers]) hi
  case isFalse =>
    cases h
    exact failure_outOfRange_overlong hi

theorem objection?_congr {more : List Record} (h : more.map (·.id) = records.map (·.id)) :
    objection? kind more capacity id = objection? kind records capacity id := by
  rw [objection?, objection?, h]

theorem objection?_of_matching {predicate : Record → Bool} (h : Orderly records capacity) :
    ∀ id ∈ matching predicate records, objection? kind records capacity id = none := by
  intro id hid
  obtain ⟨r, hr, -, rfl⟩ := mem_matching.mp hid
  have hlt := h.inRange r hr
  exact objection?_eq_none_iff.mpr ⟨by omega, by omega, List.mem_map_of_mem hr⟩

theorem lookup_of_objection {refusal : Refusal}
    (h : objection? kind records capacity id = some refusal) :
    lookup kind records capacity id = refuse refusal := by
  rw [objection?] at h
  rw [lookup, checkRange]
  split at h
  case isFalse hr =>
    cases h
    rw [if_neg (by simpa using hr)]
    rfl
  case isTrue hr =>
    split at h
    case isTrue => cases h
    case isFalse hm =>
      cases h
      have hn : find? records id = none := by
        refine find?_none_iff.mpr fun r hr' he => hm (List.mem_map.mpr ⟨r, hr', ?_⟩)
        omega
      rw [if_pos (by simpa using hr)]
      simp only [bind, Except.bind, hn]

theorem clear_eq (kind : Kind) (records : List Record) (capacity id : Int) :
    clear kind records capacity id =
      (objection? kind records capacity id).elim (.ok (put (.sentinel kind id.toNat) records)) refuse := by
  cases h : objection? kind records capacity id
  case some refusal => rw [clear, lookup_of_objection h]; rfl
  case none =>
    obtain ⟨h₀, hl, hm⟩ := objection?_eq_none_iff.mp h
    obtain ⟨r, hr, he⟩ := List.mem_map.mp hm
    exact clear_ok_iff.mpr ⟨h₀, hl, find?_isSome_iff.mpr ⟨r, hr, by omega⟩, rfl⟩

theorem clear_of_objection?_none (h : objection? kind records capacity id = none) :
    clear kind records capacity id = .ok (put (.sentinel kind id.toNat) records) := by
  rw [clear_eq, h, Option.elim_none]

theorem objection?_of_clear {out : List Record} (h : clear kind records capacity id = .ok out) :
    objection? kind records capacity id = none := by
  rw [clear_eq] at h
  cases ho : objection? kind records capacity id
  case none => rfl
  case some => simp [ho, refuse] at h

theorem exists_clear (h : ∀ other ∈ id :: ids, objection? kind records capacity other = none) :
    ∃ out, clear kind records capacity id = .ok out ∧
      ∀ other ∈ ids, objection? kind out capacity other = none := by
  have ⟨ho, hs⟩ := List.forall_mem_cons.mp h
  have hc := clear_of_objection?_none ho
  exact ⟨_, hc, fun other hm => (objection?_congr (ids_of_clear hc)).trans (hs other hm)⟩

theorem put_eq_map (hd : (records.map (·.id)).Nodup) (hm : record.id ∈ records.map (·.id)) :
    put record records = records.map fun r => if r.id = record.id then record else r := by
  induction records
  case nil => cases hm
  case cons r records hi =>
    have ⟨hn, hd⟩ := List.nodup_cons.mp hd
    rw [put, List.map_cons]
    by_cases hr : r.id = record.id
    case pos =>
      have hs : ∀ s ∈ records, (if s.id = record.id then record else s) = s := by
        intro s hs
        exact if_neg fun he => hn (List.mem_map.mpr ⟨s, hs, he.trans hr.symm⟩)
      rw [if_pos hr, if_pos hr, List.map_congr_left hs, List.map_id']
    case neg =>
      have hm := (List.mem_cons.mp hm).resolve_left (Ne.symm hr)
      rw [if_neg hr, if_neg hr, hi hd hm]

theorem ids_emptied : (emptied kind ids records).map (·.id) = records.map (·.id) := by
  rw [emptied, List.map_map]
  refine List.map_congr_left fun r _ => ?_
  by_cases h : (r.id : Int) ∈ ids <;> simp [h]

theorem emptied_nil : emptied kind [] records = records := by
  simp [emptied]

theorem emptied_congr {more : List Int} (h : ∀ r ∈ records, (r.id : Int) ∈ ids ↔ (r.id : Int) ∈ more) :
    emptied kind ids records = emptied kind more records :=
  List.map_congr_left fun r hr => by simp only [h r hr]

theorem emptied_emptied (more : List Int) :
    emptied kind ids (emptied kind more records) = emptied kind (more ++ ids) records := by
  rw [emptied, emptied, List.map_map]
  refine List.map_congr_left fun r _ => ?_
  by_cases hm : (r.id : Int) ∈ more <;> simp [hm]

theorem put_sentinel (hd : (records.map (·.id)).Nodup) (h₀ : 0 ≤ id)
    (hm : id.toNat ∈ records.map (·.id)) :
    put (.sentinel kind id.toNat) records = emptied kind [id] records := by
  rw [put_eq_map hd (by rwa [Record.id_sentinel]), emptied]
  refine List.map_congr_left fun r _ => ?_
  have h : r.id = id.toNat ↔ (r.id : Int) = id := by omega
  by_cases hr : (r.id : Int) = id
  case pos => simp [hr, ← h.mpr hr]
  case neg => simp [hr, h]

theorem clear_eq_emptied (hd : (records.map (·.id)).Nodup)
    (ho : objection? kind records capacity id = none) :
    clear kind records capacity id = .ok (emptied kind [id] records) := by
  obtain ⟨h₀, -, hm⟩ := objection?_eq_none_iff.mp ho
  rw [clear_of_objection?_none ho, put_sentinel hd h₀ hm]

theorem putAll_sentinels (hd : (records.map (·.id)).Nodup)
    (hm : ∀ id ∈ ids, objection? kind records capacity id = none) :
    putAll records (sentinels kind ids) = emptied kind ids records := by
  induction ids generalizing records
  case nil => exact emptied_nil.symm
  case cons id ids hi =>
    have ⟨hid, hm⟩ := List.forall_mem_cons.mp hm
    have ⟨h₀, _, hs⟩ := objection?_eq_none_iff.mp hid
    have he : (emptied kind [id] records).map (·.id) = records.map (·.id) := ids_emptied
    rw [sentinels, List.map_cons, putAll, put_sentinel hd h₀ hs]
    have hm' : ∀ id' ∈ ids, objection? kind (emptied kind [id] records) capacity id' = none :=
      fun id' h => (objection?_congr he).trans (hm id' h)
    exact (hi (he ▸ hd) hm').trans (emptied_emptied [id])

end Slot

namespace Command

open Slot

variable {kind : Kind} {records : List Record} {capacity : Int} {ids : List Int}

theorem clearAll_eq (kind : Kind) (records : List Record) (capacity : Int) (ids : List Int) :
    clearAll kind records capacity ids =
      (ids.findSome? (objection? kind records capacity)).elim (.ok (putAll records (sentinels kind ids)))
        refuse := by
  induction ids generalizing records
  case nil => rfl
  case cons id ids hi =>
    rw [clearAll, List.foldlM_cons, List.findSome?_cons]
    cases h : objection? kind records capacity id
    case some refusal => rw [clear_eq, h]; rfl
    case none =>
      have hc := clear_of_objection?_none h
      have ho : objection? kind (put (.sentinel kind id.toNat) records) capacity =
          objection? kind records capacity :=
        funext fun _ => objection?_congr (ids_of_clear hc)
      rw [hc]
      exact (hi _).trans (by rw [ho]; rfl)

theorem clearAll_eq_emptied (hd : (records.map (·.id)).Nodup)
    (ho : ∀ id ∈ ids, objection? kind records capacity id = none) :
    clearAll kind records capacity ids = .ok (emptied kind ids records) := by
  rw [clearAll_eq, List.findSome?_eq_none_iff.mpr ho, Option.elim_none, putAll_sentinels hd ho]

end Command
end KeySlots
