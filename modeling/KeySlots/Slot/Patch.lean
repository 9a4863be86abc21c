import KeySlots.Record.Schema
import KeySlots.Slot.Store

namespace KeySlots

def Json.isNumber (v : Json) (n : Int) : Bool :=
  match v with
  | int m => m = n
  | bool b => (if b then 1 else 0) = n
  | float x => x.toInt? = some n
  | _ => false

namespace Slot

abbrev Patch := Fields

def merge (record : Record) (patch : Patch) : Except Failure Record :=
  match Record.check record.kind (.object (record.fields.merge patch)) with
  | .accepted r => .ok r
  | .rejected issues => refuseDefinition (.fieldValue (issues.headD ⟨[], .missing⟩))

def unknownFields (kind : Kind) (patch : Patch) : List String :=
  ((patch.map (·.1)).filter fun name => !(Record.fieldNames kind).contains name).mergeSort
    fun a b => a ≤ b

-- The patch leaves a record in its slot: what it may give for the slot is the slot's number.
def keepsSlot (id : Int) (patch : Patch) : Bool :=
  patch.all fun (name, v) => name ≠ "id" || v.isNumber id

-- Checks a patch for the record in a slot by trying it on an empty record.
def checkPatch (kind : Kind) (id : Int) (patch : Patch) : Except Failure Unit := do
  if !keepsSlot id patch then
    refuseDefinition .moved
  match unknownFields kind patch with
  | [] => pure ()
  | name :: names => refuseDefinition (.unknownFields kind name (name :: names))
  let _ ← merge (.sentinel kind 0) (patch.erase "id")

def update (kind : Kind) (records : List Record) (capacity id : Int) (patch : Patch) :
    Except Failure (List Record) := do
  checkPatch kind id patch
  let r ← lookup kind records capacity id
  let patched ← merge r patch
  .ok (put patched records)

end Slot
end KeySlots
