

namespace KeySlots

inductive Kind where
  | keyMacro
  | tapDance
  | keyOverride
  | combo
  deriving DecidableEq, Repr

namespace Kind

def all : List Kind := [keyMacro, tapDance, keyOverride, combo]

def name : Kind → String
  | keyMacro => "macro"
  | tapDance => "tapdance"
  | keyOverride => "key_override"
  | combo => "combo"

def ofName? (name : String) : Option Kind :=
  all.find? (·.name = name)

@[simp]
theorem ofName?_name (kind : Kind) : ofName? kind.name = some kind := by
  cases kind <;> rfl

def label : Kind → String
  | keyMacro => "Macro"
  | tapDance => "Tapdance"
  | keyOverride => "Key override"
  | combo => "Combo"

def lowerLabel : Kind → String
  | keyMacro => "macro"
  | tapDance => "tapdance"
  | keyOverride => "key override"
  | combo => "combo"

def recordName : Kind → String
  | keyMacro => "Macro"
  | tapDance => "Tapdance"
  | keyOverride => "KeyOverride"
  | combo => "Combo"

def countField (kind : Kind) : String :=
  kind.name ++ "_count"

def recordsField (kind : Kind) : String :=
  kind.name ++ "s"

end Kind
end KeySlots
