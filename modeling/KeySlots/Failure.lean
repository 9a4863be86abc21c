import KeySlots.Kind
import KeySlots.Schema.Checked
import KeySlots.Text.Quoted

namespace KeySlots

inductive Given where
  | int (n : Int)
  | bool (b : Bool)
  | float (x : Numeral.Binary64)
  | text (s : String)
  deriving DecidableEq, Repr

namespace Given

def shown : Given → String
  | int n => Numeral.decimalText n
  | bool b => if b then "True" else "False"
  | float x => x.text
  | text s => s

def numbers : Given → List Int
  | int n => [n]
  | _ => []

end Given

inductive DefinitionError where
  | macroDelay (call : String)
  | macroEmpty (definition : String)
  | tapDanceTerm (call : String)
  | tapDanceAction (piece : String)
  | tapDanceEmpty (definition : String)
  | comboFormat (definition : String)
  | comboNoTriggers (triggers : String)
  | comboTriggers (triggers : String) (greatest : Given) (count : Nat)
  | term (given : Given)
  | mask (name : String) (given : Given)
  | maskWidth (name : String) (given : Given) (width : Int)
  | json (reason : String) (definition : String)
  | jsonTrigger (definition : String)
  | jsonReplacement (definition : String)
  | noChange
  | noSlot
  | moved
  | unknownFields (kind : Kind) (first : String) (names : List String)
  | fieldValue (issue : Schema.Issue)
  deriving DecidableEq, Repr

namespace DefinitionError

def message : DefinitionError → String
  | macroDelay call => s!"Invalid delay value in macro sequence: \"{call}\""
  | macroEmpty definition => "Macro sequence is empty or invalid: " ++ Text.quoted definition
  | tapDanceTerm call => s!"Invalid tapping term value in tapdance sequence: \"{call}\""
  | tapDanceAction piece => s!"Unknown or invalid action format in tapdance sequence: \"{piece}\""
  | tapDanceEmpty _ =>
    "Tapdance sequence must contain at least one action (TAP, HOLD, DOUBLE, TAPHOLD)."
  | comboFormat _ =>
    "Invalid combo definition string. Expected format: " ++
      "\"TRIGGER_KEY1+TRIGGER_KEY2... ACTION_KEY\" (e.g., \"KC_A+KC_S KC_D\")"
  | comboNoTriggers triggers => s!"No trigger keys specified in combo definition: \"{triggers}\""
  | comboTriggers triggers greatest count =>
    s!"Too many trigger keys in \"{triggers}\". Maximum is " ++ greatest.shown ++ ". Found: " ++
      Numeral.decimalText count
  | term given => "Invalid term value \"" ++ given.shown ++ "\". Must be a non-negative integer."
  | mask name given => s!"Invalid {name} value: \"" ++ given.shown ++ "\""
  | maskWidth name given width =>
    s!"Invalid {name} value: \"" ++ given.shown ++ "\" (must fit in " ++ Numeral.decimalText width ++
      " bits)"
  | json reason _ => s!"Invalid JSON: {reason}"
  | jsonTrigger _ => "JSON must contain \"trigger_key\" or \"trigger_key_str\" field"
  | jsonReplacement _ => "JSON must contain \"override_key\" or \"override_key_str\" field"
  | noChange => "No changes specified."
  | noSlot => "At least one ID must be provided."
  | moved => "Slot id cannot be changed by an update."
  | unknownFields kind _ names =>
    s!"Unknown fields for {kind.lowerLabel}: " ++ ", ".intercalate names
  | fieldValue issue => s!"Invalid value for {issue.location}: {issue.problem.message}"

def token? : DefinitionError → Option String
  | macroDelay call => some call
  | macroEmpty definition => some definition
  | tapDanceTerm call => some call
  | tapDanceAction piece => some piece
  | tapDanceEmpty definition => some definition
  | comboFormat definition => some definition
  | comboNoTriggers triggers => some triggers
  | comboTriggers triggers _ _ => some triggers
  | term given => some given.shown
  | mask _ given => some given.shown
  | maskWidth _ given _ => some given.shown
  | json _ definition => some definition
  | jsonTrigger definition => some definition
  | jsonReplacement definition => some definition
  | noChange => none
  | noSlot => none
  | moved => some "id"
  | unknownFields _ first _ => some first
  | fieldValue issue => some issue.location

def numbers : DefinitionError → List Int
  | comboTriggers _ greatest _ => greatest.numbers
  | term given => given.numbers
  | mask _ given => given.numbers
  | maskWidth _ given _ => given.numbers
  | _ => []

end DefinitionError

inductive KeyUse where
  | macroAction
  | macroPiece
  | tapDance (action : String)
  | comboTrigger
  | comboAction
  | overrideTrigger (given : String)
  | overrideReplacement (given : String)
  | overrideField (field : String)
  deriving DecidableEq, Repr

def KeyUse.message (token : String) : KeyUse → String
  | macroAction => s!"Invalid key string in macro sequence: \"{token}\""
  | macroPiece => s!"Invalid key string or unknown action in macro sequence: \"{token}\""
  | tapDance action => s!"Invalid key string in tapdance sequence: \"{token}\" for action {action}"
  | comboTrigger => s!"Invalid or KC_NO trigger key: \"{token}\""
  | comboAction => s!"Invalid action key: \"{token}\""
  | overrideTrigger given => s!"Invalid trigger key: \"{given}\""
  | overrideReplacement given => s!"Invalid override key: \"{given}\""
  | overrideField field => s!"Invalid {field} key: \"{token}\""

inductive Refusal where
  | definition (error : DefinitionError)
  | invalidKey (use : KeyUse) (token : String)
  | slotsExhausted (kind : Kind) (capacity : Int)
  | notFound (kind : Kind) (id : Int)
  | outOfRange (kind : Kind) (id capacity : Int)
  | notPopulated (kind : Kind) (missing : List String)
  | callFailed (text : String)
  deriving DecidableEq, Repr

namespace Refusal

def name : Refusal → String
  | definition _ => "ParseError"
  | invalidKey _ _ => "InvalidKey"
  | slotsExhausted _ _ => "SlotsExhausted"
  | notFound _ _ => "NotFound"
  | outOfRange _ _ _ => "OutOfRange"
  | notPopulated _ _ => "DataNotPopulated"
  | callFailed _ => "DeviceIOError"

def message : Refusal → String
  | definition error => error.message
  | invalidKey use token => use.message token
  | slotsExhausted kind capacity =>
    s!"No empty {kind.lowerLabel} slots available. Max " ++ Numeral.decimalText capacity ++ " reached."
  | notFound kind id => kind.label ++ " with ID " ++ Numeral.decimalText id ++ " not found."
  | outOfRange kind id capacity =>
    kind.label ++ " ID " ++ Numeral.decimalText id ++ " is out of range " ++
      if 0 < capacity then "[0-" ++ Numeral.decimalText (capacity - 1) ++ "]."
      else "(no slots available)."
  | notPopulated kind missing =>
    kind.label ++ " data not fully populated by the device. Missing: " ++
      ", ".intercalate missing ++ "."
  | callFailed text => text

-- The numbers that the report writes in decimal and that may be too long for it. The capacity of exhausted
-- slots is not among them unless it is negative: its slots have been counted.
def numbers : Refusal → List Int
  | definition error => error.numbers
  | invalidKey _ _ => []
  | slotsExhausted _ capacity => [min capacity 0]
  | notFound _ id => [id]
  | outOfRange _ id capacity => if 0 < capacity then [id, capacity - 1] else [id]
  | notPopulated _ _ => []
  | callFailed _ => []

end Refusal

inductive Fault where
  | overlongNumeral (digits : Nat)
  | unwritableNumber
  | fractionAsText
  | textAsNumber
  | unknownKind (shown : String)
  | unknownKey (alternative target : String)
  | negativeWidth
  | overrideRedefinition
  | wrongKind (expected found : Kind)
  | invalid (issues : List Schema.Issue)
  | malformedSettings
  deriving DecidableEq, Repr

def Fault.message : Fault → String
  | overlongNumeral digits =>
    "Exceeds the limit (4300 digits) for integer string conversion: value has " ++
      Numeral.decimalText digits ++
      " digits; use sys.set_int_max_str_digits() to increase the limit"
  | unwritableNumber =>
    "Exceeds the limit (4300 digits) for integer string conversion; " ++
      "use sys.set_int_max_str_digits() to increase the limit"
  | fractionAsText => "'float' object has no attribute 'strip'"
  | textAsNumber => "'>' not supported between instances of 'int' and 'str'"
  | unknownKind shown => s!"{shown} is not a valid EntityKind"
  | unknownKey alternative target =>
    "alias " ++ Text.quoted alternative ++ " points at unknown key " ++ Text.quoted target
  | negativeWidth => "negative shift count"
  | overrideRedefinition => "key overrides are edited with edit_key_override"
  | wrongKind expected found => s!"expected {expected.recordName}, got {found.recordName}"
  | invalid issues => "\n".intercalate (issues.map Schema.Issue.message)
  | malformedSettings => ""

inductive Failure where
  | refused (refusal : Refusal)
  | faulted (fault : Fault)
  deriving DecidableEq, Repr

-- The failure for a refusal. A refusal whose report would have to write too long a number becomes a fault.
def Refusal.failure (refusal : Refusal) : Failure :=
  if refusal.numbers.all Numeral.isWritable then .refused refusal else .faulted .unwritableNumber

def refuse {α : Type} (refusal : Refusal) : Except Failure α :=
  .error refusal.failure

def refuseDefinition {α : Type} (error : DefinitionError) : Except Failure α :=
  refuse (.definition error)

def fault {α : Type} (f : Fault) : Except Failure α :=
  .error (.faulted f)

-- What was given is a number less than another one. A truth value counts as one or zero.
def Given.isBelow (n : Int) : Given → Except Failure Bool
  | int m => .ok (m < n)
  | bool b => .ok ((if b then 1 else 0) < n)
  | float x => .ok (x.isBelow n)
  | text _ => fault .textAsNumber

def valid {α : Type} : Schema.Checked α → Except Failure α
  | .accepted a => .ok a
  | .rejected issues => fault (.invalid issues)

def Kind.unknown (v : Json) : Fault :=
  if v.integers.all Numeral.isWritable then .unknownKind v.shown else .unwritableNumber

def Kind.read (v : Json) : Except Failure Kind :=
  match v with
  | .text s =>
    match ofName? s with
    | some kind => .ok kind
    | none => fault (unknown v)
  | _ => fault (unknown v)

end KeySlots
