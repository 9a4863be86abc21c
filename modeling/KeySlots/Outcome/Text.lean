import KeySlots.Json.Printer
import KeySlots.Key.Table
import KeySlots.Outcome.Basic

namespace KeySlots

variable {κ : Type} [KeyCodec κ]

def modifierNames : List String :=
  ["LCTL", "LSFT", "LALT", "LGUI", "RCTL", "RSFT", "RALT", "RGUI"]

-- The bit of a number, which is taken to have endlessly many sign bits.
def hasBit (n : Int) (bit : Nat) : Bool :=
  n / (2 ^ bit : Nat) % 2 = 1

def modifiersText (mask : Int) : String :=
  " + ".intercalate
    ((modifierNames.zipIdx.filter fun (_, bit) => hasBit mask bit).map (·.1))

def layersText (mask : Int) : String :=
  if mask = 0xFFFF then
    "all"
  else
    match (List.range 16).filter (hasBit mask) with
    | [] => "none"
    | layers => ", ".intercalate (layers.map fun (layer : Nat) => Numeral.decimalText layer)

namespace Action

def shown (keys : κ) : Action → String
  | tap key => "Tap(" ++ KeyCodec.stringify keys key ++ ")"
  | down key => "Down(" ++ KeyCodec.stringify keys key ++ ")"
  | up key => "Up(" ++ KeyCodec.stringify keys key ++ ")"
  | delay ms => "Delay(" ++ Numeral.decimalText ms ++ "ms)"
  | text s => "Text(\"" ++ s ++ "\")"

def numbers : Action → List Int
  | delay ms => [ms]
  | _ => []

end Action

def statusText (enabled : Bool) : String :=
  if enabled then "enabled" else "disabled"

def KeyOverride.lines (keys : κ) (verbose : Bool) (o : KeyOverride) : List String :=
  let head :=
    "Override " ++ Numeral.decimalText o.id ++ ": " ++ KeyCodec.stringify keys o.trigger ++
      " -> " ++ KeyCodec.stringify keys o.replacement ++ " (" ++ statusText o.enabled ++ ")"
  let layers := if o.layers = Layers.all then [] else ["  Layers: " ++ layersText o.layers.toNat]
  let mods (label : String) (mask : Modifiers) :=
    if mask = 0 then [] else ["  " ++ label ++ " modifiers: " ++ modifiersText mask.toNat]
  if verbose then
    head :: layers ++ mods "Trigger" o.triggerMods ++ mods "Negative" o.negativeMods ++
      mods "Suppressed" o.suppressedMods
  else
    [head]

namespace Record

def lines (keys : κ) (verbose : Bool) : Record → List String
  | keyMacro m =>
    ["Macro " ++ Numeral.decimalText m.id ++ ": " ++
      " ".intercalate (m.actions.map (Action.shown keys))]
  | tapDance t =>
    let key (label : String) (code : KeyCode) :=
      if code = KeyCode.none then [] else [label ++ "(" ++ KeyCodec.stringify keys code ++ ")"]
    let parts := key "Tap" t.tap ++ key "Hold" t.hold ++ key "DoubleTap" t.doubleTap ++
      key "TapHold" t.tapHold ++ ["Term(" ++ Numeral.decimalText t.term ++ "ms)"]
    ["Tapdance " ++ Numeral.decimalText t.id ++ ": " ++ " ".intercalate parts]
  | keyOverride o => o.lines keys verbose
  | combo c =>
    let triggers := (c.triggers.toList.filter (· ≠ KeyCode.none)).map (KeyCodec.stringify keys)
    let details :=
      if c.term = 0 then statusText c.enabled
      else "Term: " ++ Numeral.decimalText c.term ++ "ms, " ++ statusText c.enabled
    ["Combo " ++ Numeral.decimalText c.id ++ ": " ++ " + ".intercalate triggers ++ " -> " ++
      KeyCodec.stringify keys c.action ++ " (" ++ details ++ ")"]

def numbers : Record → List Int
  | keyMacro m => (m.id : Int) :: m.actions.flatMap Action.numbers
  | tapDance t => [(t.id : Int), t.term]
  | keyOverride o => [(o.id : Int)]
  | combo c => [(c.id : Int), c.term]

end Record

def writing (numbers : List Int) (text : String) : Except Failure String :=
  if numbers.all Numeral.isWritable then .ok text else fault .unwritableNumber

def Record.text (keys : κ) (verbose : Bool) (r : Record) : Except Failure String :=
  writing r.numbers ("\n".intercalate (r.lines keys verbose))

def indented (s : String) : String :=
  "  " ++ String.ofList (s.toList.flatMap fun c => if c = '\n' then ['\n', ' ', ' '] else [c])

namespace Outcome

def text (keys : κ) (verbose : Bool) (o : Outcome) : Except Failure String :=
  if o.ok then
    let records := o.records.map fun r => indented ("\n".intercalate (r.lines keys verbose))
    let message := if o.message = "" then [] else [o.message]
    writing (o.records.flatMap Record.numbers)
      ("\n".intercalate (o.warnings.map ("Warning: " ++ ·) ++ message ++ records))
  else
    .ok ("Error: " ++ o.message)

def jsonText (o : Outcome) : Except Failure String :=
  writing o.toJson.integers o.toJson.print

def render (keys : κ) (format : String) (verbose : Bool) (o : Outcome) :
    Except Failure String :=
  if format.toList.map Char.toLower = "json".toList then o.jsonText else o.text keys verbose

end Outcome
end KeySlots
