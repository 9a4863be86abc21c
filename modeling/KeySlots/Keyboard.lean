import KeySlots.Outcome.Basic
import KeySlots.Slot.Store

namespace KeySlots

structure Capabilities where
  saves : List Kind := []
  genericSave : Bool := false
  deriving DecidableEq, Repr

def Capabilities.check : Schema.Check Capabilities :=
  let kinds : Schema.Check (List Kind) := fun
    | .array vs => Schema.items (Schema.oneOf Kind.all Kind.name) 0 vs
    | _ => .problem .notSet
  Schema.model "DeviceCapabilities" fun fields =>
    Capabilities.mk <$> Schema.optional fields "saves" [] kinds <*>
      Schema.optional fields "generic_save" false Schema.boolean

-- A keyboard. A kind of slot without a count or without records is one that it does not report.
structure Keyboard where
  capabilities : Capabilities := { saves := Kind.all }
  counts       : Entries Kind (Option Int) := []
  stored       : Entries Kind (List Record) := []
  deriving DecidableEq, Repr

namespace Keyboard

def count? (keyboard : Keyboard) (kind : Kind) : Option Int :=
  (keyboard.counts.get? kind).join

def records? (keyboard : Keyboard) (kind : Kind) : Option (List Record) :=
  keyboard.stored.get? kind

def write (keyboard : Keyboard) (kind : Kind) (record : Record) : Keyboard :=
  { keyboard with
    stored := keyboard.stored.put kind (Slot.put record ((keyboard.records? kind).getD [])) }

end Keyboard

inductive Call where
  | init
  | load
  -- Write the record of a slot; the call shows the slots of all records at hand.
  | push (kind : Kind) (id : Nat) (shown : List Nat)
  | save (kind : Option Kind)
  | close
  deriving DecidableEq, Repr

structure Breakdowns where
  init  : Option String := none
  load  : Option String := none
  push  : Nat → Option String := fun _ => none
  save  : Option String := none
  close : Option String := none

end KeySlots
