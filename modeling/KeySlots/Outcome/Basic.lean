import KeySlots.Failure
import KeySlots.Record.Schema

namespace KeySlots

inductive Stage where
  | unloaded
  | loaded
  | mutated
  | pushed
  | saved
  | saveSkipped
  | validationFailed
  | deviceIoFailed
  deriving DecidableEq, Repr

namespace Stage

def all : List Stage :=
  [unloaded, loaded, mutated, pushed, saved, saveSkipped, validationFailed, deviceIoFailed]

def name : Stage → String
  | unloaded => "unloaded"
  | loaded => "loaded"
  | mutated => "mutated"
  | pushed => "pushed"
  | saved => "saved"
  | saveSkipped => "save_skipped"
  | validationFailed => "validation_failed"
  | deviceIoFailed => "device_io_failed"

end Stage

structure Outcome where
  ok        : Bool
  command   : String
  kind      : Kind
  stage     : Stage
  slotId    : Option Int := none
  slotIds   : List Int := []
  committed : List Int := []
  capacity  : Option Int := none
  records   : List Record := []
  error     : Option String := none
  message   : String := ""
  warnings  : List String := []
  deriving DecidableEq, Repr

namespace Outcome

def start (command : String) (kind : Kind) : Outcome :=
  { ok := false, command, kind, stage := .unloaded }

def fail (outcome : Outcome) (refusal : Refusal) : Outcome :=
  match refusal with
  | .callFailed text =>
    { outcome with
      ok := false, stage := .deviceIoFailed, error := some refusal.name
      message := "An unexpected error occurred: " ++ text }
  | _ =>
    { outcome with
      ok := false, stage := .validationFailed, error := some refusal.name
      message := refusal.message }

def exitCode (outcome : Outcome) : Nat :=
  if outcome.ok then 0 else 1

def numberOrNull : Option Int → Json
  | some n => .int n
  | none => .null

def textOrNull : Option String → Json
  | some s => .text s
  | none => .null

def toJson (o : Outcome) : Json :=
  .object [
    ("ok", .bool o.ok), ("command", .text o.command), ("kind", .text o.kind.name),
    ("state", .text o.stage.name), ("slot_id", numberOrNull o.slotId),
    ("slot_ids", .array (o.slotIds.map .int)), ("committed", .array (o.committed.map .int)),
    ("capacity", numberOrNull o.capacity), ("records", .array (o.records.map Record.toJson)),
    ("error", textOrNull o.error),
    ("message", .text o.message), ("warnings", .array (o.warnings.map .text))]

open Schema

def check (records : List Record) : Check Outcome :=
  model "Outcome" fun fields =>
    (fun ok command kind stage slotId slotIds committed capacity error message warnings =>
        { ok, command, kind, stage, slotId, slotIds, committed, capacity, records, error, message,
          warnings }) <$>
      required fields "ok" boolean <*> required fields "command" text <*>
      required fields "kind" (oneOf Kind.all Kind.name) <*>
      required fields "state" (oneOf Stage.all Stage.name) <*>
      optional fields "slot_id" none (nullable integer) <*>
      optional fields "slot_ids" [] (array integer) <*>
      optional fields "committed" [] (array integer) <*>
      optional fields "capacity" none (nullable integer) <*>
      optional fields "error" none (nullable text) <*>
      optional fields "message" "" text <*>
      optional fields "warnings" [] (array text)

end Outcome
end KeySlots
