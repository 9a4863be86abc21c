import KeySlots.Kind

namespace KeySlots

abbrev KeyCode := Int

def KeyCode.none : KeyCode := 0

inductive Action where
  | tap (key : KeyCode)
  | down (key : KeyCode)
  | up (key : KeyCode)
  | delay (ms : Nat)
  | text (text : String)
  deriving DecidableEq, Repr

structure Macro where
  id      : Nat := 0
  actions : List Action := []
  deriving DecidableEq, Repr

structure TapDance where
  id        : Nat := 0
  tap       : KeyCode := KeyCode.none
  hold      : KeyCode := KeyCode.none
  doubleTap : KeyCode := KeyCode.none
  tapHold   : KeyCode := KeyCode.none
  term      : Nat := 200
  deriving DecidableEq, Repr

abbrev Layers := BitVec 16

def Layers.all : Layers := BitVec.allOnes 16

abbrev Modifiers := BitVec 8

structure KeyOverride where
  id             : Nat := 0
  trigger        : KeyCode := KeyCode.none
  replacement    : KeyCode := KeyCode.none
  layers         : Layers := Layers.all
  triggerMods    : Modifiers := 0
  negativeMods   : Modifiers := 0
  suppressedMods : Modifiers := 0
  enabled        : Bool := true
  deriving DecidableEq, Repr

def Combo.maxTriggers : Nat := 4

abbrev Combo.Triggers := Vector KeyCode Combo.maxTriggers

def Combo.Triggers.ofList? (keys : List KeyCode) : Option Combo.Triggers :=
  if h : keys.length ≤ Combo.maxTriggers then
    some ⟨(keys ++ List.replicate (Combo.maxTriggers - keys.length) KeyCode.none).toArray, by
      simp; omega⟩
  else
    none

structure Combo where
  id       : Nat := 0
  triggers : Combo.Triggers := Vector.replicate Combo.maxTriggers KeyCode.none
  action   : KeyCode := KeyCode.none
  term     : Nat := 50
  enabled  : Bool := true
  deriving DecidableEq, Repr

inductive Record where
  | keyMacro (m : Macro)
  | tapDance (t : TapDance)
  | keyOverride (o : KeyOverride)
  | combo (c : Combo)
  deriving DecidableEq, Repr

namespace Record

def kind : Record → Kind
  | keyMacro _ => .keyMacro
  | tapDance _ => .tapDance
  | keyOverride _ => .keyOverride
  | combo _ => .combo

def id : Record → Nat
  | keyMacro m => m.id
  | tapDance t => t.id
  | keyOverride o => o.id
  | combo c => c.id

def withId (id : Nat) : Record → Record
  | keyMacro m => keyMacro { m with id }
  | tapDance t => tapDance { t with id }
  | keyOverride o => keyOverride { o with id }
  | combo c => combo { c with id }

@[simp]
theorem id_withId (id : Nat) (r : Record) : (r.withId id).id = id := by
  cases r <;> rfl

@[simp]
theorem kind_withId (id : Nat) (r : Record) : (r.withId id).kind = r.kind := by
  cases r <;> rfl

def isEmpty : Record → Bool
  | keyMacro m => m.actions.isEmpty
  | tapDance t =>
    t.tap = KeyCode.none && t.hold = KeyCode.none && t.doubleTap = KeyCode.none &&
      t.tapHold = KeyCode.none
  | keyOverride o => o.trigger = KeyCode.none && o.replacement = KeyCode.none
  | combo c => c.action = KeyCode.none && c.triggers.all (· = KeyCode.none)

def isDisabled : Record → Bool
  | keyOverride o => !(keyOverride o).isEmpty && !o.enabled
  | _ => false

def sentinel (kind : Kind) (id : Nat) : Record :=
  match kind with
  | .keyMacro => keyMacro { id }
  | .tapDance => tapDance { id }
  | .keyOverride => keyOverride { id, enabled := false }
  | .combo => combo { id, enabled := false }

@[simp]
theorem id_sentinel (kind : Kind) (id : Nat) : (sentinel kind id).id = id := by
  cases kind <;> rfl

@[simp]
theorem kind_sentinel (kind : Kind) (id : Nat) : (sentinel kind id).kind = kind := by
  cases kind <;> rfl

@[simp]
theorem isEmpty_sentinel (kind : Kind) (id : Nat) : (sentinel kind id).isEmpty = true := by
  cases kind <;> simp [sentinel, isEmpty]

theorem isEmpty_withId (id : Nat) (r : Record) : (r.withId id).isEmpty = r.isEmpty := by
  cases r <;> rfl

end Record
end KeySlots
