import KeySlots.Keyboard

namespace KeySlots

structure Session where
  keyboard : Keyboard
  calls    : List Call := []
  outcome  : Outcome

abbrev Session.Step (α : Type) := EStateM Failure Session α

namespace Session

def attempt {α : Type} : Except Failure α → Step α
  | .ok a => pure a
  | .error failure => throw failure

def report (f : Outcome → Outcome) : Step Unit :=
  modify fun s => { s with outcome := f s.outcome }

def advance (stage : Stage) : Step Unit :=
  report fun o => { o with stage }

-- Reports success with a message, in which the given numbers are written in decimal.
def succeed (numbers : List Int) (message : String) : Step Unit :=
  if numbers.all Numeral.isWritable then
    report fun o => { o with ok := true, message }
  else
    throw (.faulted .unwritableNumber)

def call (name : Call) (broken : Option String) : Step Unit := do
  modify fun s => { s with calls := s.calls ++ [name] }
  match broken with
  | some text => attempt (refuse (.callFailed text))
  | none => pure ()

def missingFields (kind : Kind) (count : Option Int) (records : Option (List Record)) :
    List String :=
  (if count.isNone then [kind.countField] else []) ++
    (if records.isNone then [kind.recordsField] else [])

def load (broken : Breakdowns) (kind : Kind) : Step (List Record × Int) := do
  call .init broken.init
  call .load broken.load
  let keyboard := (← get).keyboard
  match keyboard.records? kind, keyboard.count? kind with
  | some records, some capacity =>
    report fun o => { o with capacity := some capacity, stage := .loaded }
    pure (records, capacity)
  | records, count =>
    attempt (refuse (.notPopulated kind (missingFields kind count records)))

def push (broken : Breakdowns) (kind : Kind) (id : Nat) (records : List Record) : Step Unit := do
  advance .mutated
  call (.push kind id (records.map (·.id))) (broken.push id)
  match Slot.find? records id with
  | some record => modify fun s => { s with keyboard := s.keyboard.write kind record }
  | none => pure ()
  report fun o => { o with stage := .pushed, committed := o.committed ++ [(id : Int)] }

def unsavedWarning (kind : Kind) : String :=
  s!"No save function available for {kind.lowerLabel}s. " ++
    "Changes might be volatile or rely on firmware auto-save."

-- Saves the slots of a kind, on their own if the keyboard can, else all if it can.
def save (broken : Breakdowns) (kind : Kind) : Step Unit := do
  let capabilities := (← get).keyboard.capabilities
  if capabilities.saves.contains kind then
    call (.save (some kind)) broken.save
    advance .saved
  else if capabilities.genericSave then
    call (.save none) broken.save
    advance .saved
  else
    report fun o => { o with stage := .saveSkipped, warnings := o.warnings ++ [unsavedWarning kind] }

structure Ending where
  result   : Except Fault Outcome
  calls    : List Call
  keyboard : Keyboard

-- The ending of a session that closes the keyboard. A failure to close makes any outcome one of a failed
-- call.
def close (broken : Breakdowns) (result : Except Fault Outcome) (s : Session) : Ending where
  result := result.map fun outcome =>
    match broken.close with
    | some text => outcome.fail (.callFailed text)
    | none => outcome
  calls := s.calls ++ [.close]
  keyboard := s.keyboard

def run (broken : Breakdowns) (command : String) (kind : Kind) (keyboard : Keyboard)
    (steps : Step Unit) : Ending :=
  match steps.run { keyboard, outcome := .start command kind } with
  | .ok _ s => close broken (.ok s.outcome) s
  | .error (.refused refusal) s => close broken (.ok (s.outcome.fail refusal)) s
  | .error (.faulted f) s => close broken (.error f) s

end Session
end KeySlots
