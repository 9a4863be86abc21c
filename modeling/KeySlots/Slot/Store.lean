import KeySlots.Failure
import KeySlots.Record.Basic

namespace KeySlots.Slot

def find? (records : List Record) (id : Int) : Option Record :=
  records.find? fun r => (r.id : Int) = id

def put (record : Record) : List Record → List Record
  | [] => [record]
  | r :: records => if r.id = record.id then record :: records else r :: put record records

theorem find?_cons (r : Record) (records : List Record) (id : Int) :
    find? (r :: records) id = if (r.id : Int) = id then some r else find? records id := by
  by_cases h : (r.id : Int) = id <;> simp [find?, h]

@[simp]
theorem find?_put_self (record : Record) (records : List Record) :
    find? (put record records) record.id = some record := by
  induction records with
  | nil => simp [put, find?_cons]
  | cons r records ih =>
    by_cases h : r.id = record.id
    · simp [put, h, find?_cons]
    · have : (r.id : Int) ≠ record.id := by omega
      simp [put, h, find?_cons, this, ih]

theorem find?_put_of_ne {record : Record} {id : Int} (records : List Record)
    (h : (record.id : Int) ≠ id) : find? (put record records) id = find? records id := by
  induction records with
  | nil => simp [put, find?_cons, h]
  | cons r records ih =>
    by_cases hr : r.id = record.id
    · simp [put, hr, find?_cons, h]
    · simp [put, hr, find?_cons, ih]

def latest? (records : List Record) (id : Nat) : Option Record :=
  records.reverse.find? (·.id = id)

def isFree (records : List Record) (id : Nat) : Bool :=
  (latest? records id).all (·.isEmpty)

def firstFree? (records : List Record) : Nat → Nat → Option Nat
  | 0, _ => none
  | count + 1, id => if isFree records id then some id else firstFree? records count (id + 1)

-- The first free slot below the capacity. If none is found though there are fewer records than slots, it
-- is the slot whose number is how many records there are.
def firstEmpty (kind : Kind) (records : List Record) (capacity : Int) : Except Failure Nat :=
  match firstFree? records capacity.toNat 0 with
  | some id => .ok id
  | none =>
    if records.length < capacity then .ok records.length
    else refuse (.slotsExhausted kind capacity)

def checkRange (kind : Kind) (id capacity : Int) : Except Failure Nat :=
  if 0 ≤ id && id < capacity then .ok id.toNat else refuse (.outOfRange kind id capacity)

def lookup (kind : Kind) (records : List Record) (capacity id : Int) : Except Failure Record := do
  let _ ← checkRange kind id capacity
  match find? records id with
  | some r => .ok r
  | none => refuse (.notFound kind id)

def gaps (records : List Record) : List Nat :=
  (List.range ((records.map (·.id)).foldl max 0)).filter fun id => !records.any (·.id = id)

-- The records in the order of their slots, with empty records in the slots left out below the highest one.
-- Records of one slot keep their order.
def densify (kind : Kind) (records : List Record) : List Record :=
  (records ++ (gaps records).map (Record.sentinel kind)).mergeSort fun r s => r.id ≤ s.id

def allocate (kind : Kind) (records : List Record) (capacity id : Int) (record : Record) :
    Except Failure (List Record) := do
  let slot ← checkRange kind id capacity
  .ok (densify kind (put (record.withId slot) records))

def clear (kind : Kind) (records : List Record) (capacity id : Int) :
    Except Failure (List Record) := do
  let r ← lookup kind records capacity id
  .ok (put (.sentinel kind r.id) records)

def sentinel (kind : Kind) (id : Int) : Except Failure Record :=
  if id < 0 then fault (.invalid [⟨["id"], .below 0⟩]) else .ok (.sentinel kind id.toNat)

end KeySlots.Slot
