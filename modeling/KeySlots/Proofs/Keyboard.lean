import KeySlots.Keyboard
import KeySlots.Proofs.Entries
import KeySlots.Proofs.Slot.Store

namespace KeySlots

namespace Slot

def putAll (records : List Record) : List Record → List Record
  | [] => records
  | r :: written => putAll (put r records) written

variable {records written : List Record} {capacity : Int}

theorem mem_putAll {r : Record} (h : r ∈ putAll records written) : r ∈ records ∨ r ∈ written := by
  induction written generalizing records
  case nil => exact .inl h
  case cons w written hi =>
    cases hi h
    case inl hm =>
      cases mem_put hm
      case inl he => exact .inr (he ▸ List.mem_cons_self)
      case inr hm => exact .inl hm
    case inr hm => exact .inr (List.mem_cons_of_mem _ hm)

theorem mem_ids_putAll {id : Nat} :
    id ∈ (putAll records written).map (·.id) ↔
      id ∈ records.map (·.id) ∨ id ∈ written.map (·.id) := by
  induction written generalizing records
  case nil => simp [putAll]
  case cons w written hi =>
    rw [putAll, hi, mem_ids_put, List.map_cons, List.mem_cons]
    exact or_assoc.trans or_left_comm

theorem Orderly.putAll (h : Orderly records capacity) (hw : ∀ r ∈ written, (r.id : Int) < capacity) :
    Orderly (putAll records written) capacity := by
  induction written generalizing records
  case nil => exact h
  case cons w written hi =>
    have ⟨hw, hs⟩ := List.forall_mem_cons.mp hw
    exact hi (h.put hw) hs

end Slot

namespace Keyboard

variable {k : Keyboard} {kind other : Kind} {records : List Record}

structure Reports (k : Keyboard) (kind : Kind) (records : List Record) (capacity : Int) : Prop where
  records : k.records? kind = some records
  count   : k.count? kind = some capacity

-- The records of every reported kind are in slots of their own, all of them below the number of slots.
def Sound (k : Keyboard) : Prop :=
  ∀ kind records capacity, k.Reports kind records capacity → Slot.Orderly records capacity

def Typed (k : Keyboard) : Prop :=
  ∀ kind records, k.records? kind = some records → ∀ r ∈ records, r.kind = kind

def slots (k : Keyboard) (kind : Kind) : List Nat :=
  ((k.records? kind).getD []).map (·.id)

def writeAll (k : Keyboard) (kind : Kind) : List Record → Keyboard
  | [] => k
  | r :: written => writeAll (k.write kind r) kind written

def vacant (kind : Kind) : Keyboard where
  counts := [(kind, some 1)]
  stored := [(kind, [])]

theorem reports_vacant (kind : Kind) : (vacant kind).Reports kind [] 1 := by
  constructor <;> simp [vacant, records?, count?, Entries.get?]

theorem sound_vacant (kind : Kind) : (vacant kind).Sound := by
  intro other records capacity ⟨hr, _⟩
  by_cases h : other = kind
  case pos =>
    subst h
    cases (reports_vacant other).records.symm.trans hr
    exact ⟨.nil, nofun⟩
  case neg =>
    rw [records?, vacant, Entries.get?_cons, if_neg h] at hr
    contradiction

theorem writeAll_append (k : Keyboard) (kind : Kind) (written more : List Record) :
    k.writeAll kind (written ++ more) = (k.writeAll kind written).writeAll kind more := by
  induction written generalizing k
  case nil => rfl
  case cons r written hi => exact hi (k.write kind r)

theorem counts_writeAll (k : Keyboard) (kind : Kind) (written : List Record) :
    (k.writeAll kind written).counts = k.counts := by
  induction written generalizing k
  case nil => rfl
  case cons r written hi => exact hi (k.write kind r)

theorem count?_writeAll (k : Keyboard) (kind other : Kind) (written : List Record) :
    (k.writeAll kind written).count? other = k.count? other := by
  simp [count?, counts_writeAll]

theorem capabilities_writeAll (k : Keyboard) (kind : Kind) (written : List Record) :
    (k.writeAll kind written).capabilities = k.capabilities := by
  induction written generalizing k
  case nil => rfl
  case cons r written hi => exact hi (k.write kind r)

theorem records?_write_self (h : k.records? kind = some records) (record : Record) :
    (k.write kind record).records? kind = some (Slot.put record records) := by
  simp [write, records?, show k.stored.get? kind = some records from h]

theorem records?_write_of_ne (h : other ≠ kind) (record : Record) :
    (k.write kind record).records? other = k.records? other :=
  Entries.get?_put_of_ne _ _ h

theorem records?_writeAll_self (h : k.records? kind = some records) (written : List Record) :
    (k.writeAll kind written).records? kind = some (Slot.putAll records written) := by
  induction written generalizing k records
  case nil => exact h
  case cons r written hi => exact hi (records?_write_self h r)

theorem records?_writeAll_of_ne (h : other ≠ kind) (written : List Record) :
    (k.writeAll kind written).records? other = k.records? other := by
  induction written generalizing k
  case nil => rfl
  case cons r written hi => exact hi.trans (records?_write_of_ne h r)

theorem writeAll_eq (h : k.records? kind = some records) (written : List Record) :
    k.writeAll kind written =
      { k with stored := k.stored.put kind (Slot.putAll records written) } := by
  induction written generalizing k records
  case nil => rw [writeAll, Slot.putAll, Entries.put_of_get? h]
  case cons r written hi =>
    rw [writeAll, hi (records?_write_self h r), write, h, Option.getD_some, Entries.put_put, Slot.putAll]

variable {capacity : Int} {written : List Record}

theorem Sound.writeAll (h : k.Sound) (hr : k.Reports kind records capacity)
    (hw : ∀ r ∈ written, (r.id : Int) < capacity) : (k.writeAll kind written).Sound := by
  intro other records' capacity' ⟨hs, hc⟩
  rw [count?_writeAll] at hc
  by_cases ho : other = kind
  case pos =>
    subst ho
    rw [records?_writeAll_self hr.records] at hs
    cases hs
    cases hr.count.symm.trans hc
    exact (h _ _ _ hr).putAll hw
  case neg =>
    rw [records?_writeAll_of_ne ho] at hs
    exact h _ _ _ ⟨hs, hc⟩

theorem Typed.writeAll (h : k.Typed) (hr : k.records? kind = some records)
    (hw : ∀ r ∈ written, r.kind = kind) : (k.writeAll kind written).Typed := by
  intro other records' hs r hm
  by_cases ho : other = kind
  case pos =>
    subst ho
    rw [records?_writeAll_self hr] at hs
    cases hs
    cases Slot.mem_putAll hm
    case inl hm => exact h _ _ hr r hm
    case inr hm => exact hw r hm
  case neg =>
    rw [records?_writeAll_of_ne ho] at hs
    exact h _ _ hs r hm

theorem isSome_records?_writeAll (hr : k.records? kind = some records) (other : Kind) :
    ((k.writeAll kind written).records? other).isSome = (k.records? other).isSome := by
  by_cases ho : other = kind
  case pos => rw [ho, records?_writeAll_self hr, hr]; rfl
  case neg => rw [records?_writeAll_of_ne ho]

theorem mem_slots_writeAll (hr : k.records? kind = some records) (other : Kind) {id : Nat} :
    id ∈ (k.writeAll kind written).slots other ↔
      id ∈ k.slots other ∨ other = kind ∧ id ∈ written.map (·.id) := by
  by_cases ho : other = kind
  case pos =>
    rw [slots, ho, records?_writeAll_self hr, slots, hr]
    simp only [Option.getD_some, true_and]
    exact Slot.mem_ids_putAll
  case neg =>
    rw [slots, records?_writeAll_of_ne ho, slots]
    simp [ho]

end Keyboard
end KeySlots
