import KeySlots.Definition.Record
import KeySlots.Schema.Scalar
import KeySlots.Toml.Document

namespace KeySlots

inductive LogLevel where
  | debug
  | info
  | warning
  | error
  deriving DecidableEq, Repr

namespace LogLevel

def all : List LogLevel := [debug, info, warning, error]

def name : LogLevel → String
  | debug => "DEBUG"
  | info => "INFO"
  | warning => "WARNING"
  | error => "ERROR"

def number : LogLevel → Nat
  | debug => 10
  | info => 20
  | warning => 30
  | error => 40

end LogLevel

structure Settings where
  tappingTerm : Nat := 200
  maxTriggers : Nat := 4
  comboTerm : Nat := 50
  layers : Layers := Layers.all
  logLevel : LogLevel := .warning
  one_le_maxTriggers : 1 ≤ maxTriggers := by decide
  maxTriggers_le : maxTriggers ≤ Combo.maxTriggers := by decide
  deriving DecidableEq, Repr

namespace Settings

open Schema

def checkTriggers : Check { n : Nat // 1 ≤ n ∧ n ≤ Combo.maxTriggers } := fun v =>
  (integer v).andThen fun n =>
    if n < 1 then .problem (.below 1)
    else if h : 1 ≤ n.toNat ∧ n.toNat ≤ Combo.maxTriggers then .accepted ⟨n.toNat, h⟩
    else .problem (.above Combo.maxTriggers)

def check : Check Settings :=
  model "KeybardConfig" fun fields =>
    (fun tappingTerm triggers comboTerm layers logLevel =>
        { tappingTerm, comboTerm, layers, logLevel
          maxTriggers := triggers.val
          one_le_maxTriggers := triggers.property.1
          maxTriggers_le := triggers.property.2 }) <$>
      optional fields "tapping_term" 200 natural <*>
      optional fields "max_combo_trigger_keys" ⟨4, by decide⟩ checkTriggers <*>
      optional fields "combo_term" 50 natural <*>
      optional fields "default_layers" Layers.all (bits 16) <*>
      optional fields "log_level" .warning (oneOf LogLevel.all LogLevel.name)

def read (document : String) : Except Failure Settings :=
  match Toml.read document with
  | .ok root => valid (check ((root.get? "keybard").getD (.object [])))
  | .error (.overlongNumeral digits) => fault (.overlongNumeral digits)
  | .error .malformed => fault .malformedSettings

def toJson (s : Settings) : Json :=
  .object [
    ("tapping_term", .int s.tappingTerm), ("max_combo_trigger_keys", .int s.maxTriggers),
    ("combo_term", .int s.comboTerm), ("default_layers", .int s.layers.toNat),
    ("log_level", .text s.logLevel.name)]

def context (s : Settings) : Definition.Context where
  tapDanceTerm := .int s.tappingTerm
  maxTriggers := .int s.maxTriggers
  comboTerm := .int s.comboTerm

end Settings
end KeySlots
