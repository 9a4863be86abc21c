import KeySlots.Json.Basic
import KeySlots.Schema.Issue

namespace KeySlots.Schema

inductive Checked (α : Type) where
  | accepted (value : α)
  | rejected (issues : List Issue)
  deriving Repr

namespace Checked

def problem {α : Type} (p : Problem) : Checked α :=
  rejected [⟨[], p⟩]

def map {α β : Type} (f : α → β) : Checked α → Checked β
  | accepted a => accepted (f a)
  | rejected issues => rejected issues

-- Two parts put together; complaints about both are kept.
def ap {α β : Type} : Checked (α → β) → Checked α → Checked β
  | accepted f, accepted a => accepted (f a)
  | accepted _, rejected issues => rejected issues
  | rejected issues, accepted _ => rejected issues
  | rejected issues, rejected more => rejected (issues ++ more)

instance : Applicative Checked where
  pure := accepted
  map := map
  seq f x := ap f (x ())

def andThen {α β : Type} (checked : Checked α) (check : α → Checked β) : Checked β :=
  match checked with
  | accepted a => check a
  | rejected issues => rejected issues

def under {α : Type} (step : String) : Checked α → Checked α
  | accepted a => accepted a
  | rejected issues => rejected (issues.map fun issue => { issue with path := step :: issue.path })

end Checked

abbrev Check (α : Type) := Json → Checked α

def required {α : Type} (fields : Fields) (name : String) (check : Check α) : Checked α :=
  match fields.get? name with
  | some v => (check v).under name
  | none => .rejected [⟨[name], .missing⟩]

def optional {α : Type} (fields : Fields) (name : String) (default : α) (check : Check α) :
    Checked α :=
  match fields.get? name with
  | some v => (check v).under name
  | none => .accepted default

def items {α : Type} (check : Check α) (n : Nat) : List Json → Checked (List α)
  | [] => .accepted []
  | v :: vs => List.cons <$> (check v).under (Numeral.decimalText n) <*> items check (n + 1) vs

def array {α : Type} (check : Check α) : Check (List α)
  | .array vs => items check 0 vs
  | _ => .problem .notArray

-- The check of an object with the fields of a model; fields of other names are ignored.
def model {α : Type} (name : String) (check : Fields → Checked α) : Check α
  | .object fields => check fields
  | _ => .problem (.notModel name)

end KeySlots.Schema
