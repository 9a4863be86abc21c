import KeySlots.Command.Change
import KeySlots.Command.Session

namespace KeySlots

variable {κ : Type} [KeyCodec κ]

inductive Command where
  | add (kind : Kind) (definition : String)
  | addKeyOverride (request : OverrideRequest)
  | addCombo (definition : String) (term : Option Given)
  | addRecord (kind : Kind) (record : Record)
  | edit (kind : Kind) (id : Int) (patch : Slot.Patch)
  -- Replace a record by that of a definition; a combo keeps its term and whether it is enabled.
  | editDefinition (kind : Kind) (id : Int) (definition : String)
  | editKeyOverride (id : Int) (change : OverrideChange)
  | editCombo (id : Int) (change : ComboChange)
  | delete (kind : Kind) (ids : List Int)
  | deleteMatching (kind : Kind) (predicate : Record → Bool) (description : String)
  | deleteAllEmpty (kind : Kind)
  | deleteAllDisabled
  | list (kind : Kind)
  | get (kind : Kind) (id : Int)

namespace Command

def kind : Command → Kind
  | add kind _ | addRecord kind _ | edit kind _ _ | editDefinition kind _ _ | delete kind _
  | deleteMatching kind _ _ | deleteAllEmpty kind | list kind | get kind _ => kind
  | addKeyOverride _ | editKeyOverride _ _ | deleteAllDisabled => .keyOverride
  | addCombo _ _ | editCombo _ _ => .combo

def verb : Command → String
  | add _ _ | addKeyOverride _ | addCombo _ _ | addRecord _ _ => "add"
  | edit _ _ _ | editDefinition _ _ _ | editKeyOverride _ _ | editCombo _ _ => "edit"
  | delete _ _ | deleteMatching _ _ _ | deleteAllEmpty _ | deleteAllDisabled => "delete"
  | list _ => "list"
  | get _ _ => "get"

open Session

def addStep (broken : Breakdowns) (kind : Kind) (record : Record) : Step Unit := do
  if record.kind ≠ kind then
    throw (.faulted (.wrongKind kind record.kind))
  let (records, capacity) ← load broken kind
  let id ← attempt (Slot.firstEmpty kind records capacity)
  let records ← attempt (Slot.allocate kind records capacity id record)
  report fun o => { o with slotId := some (id : Int), slotIds := [(id : Int)] }
  push broken kind id records
  save broken kind
  succeed [] (kind.label ++ " successfully added with ID " ++ Numeral.decimalText id ++ ".")

-- Changes fields of the record in a slot. The patch is checked before the keyboard is called.
def editStep (broken : Breakdowns) (kind : Kind) (id : Int) (patch : Slot.Patch) : Step Unit := do
  report fun o => { o with slotId := some id, slotIds := [id] }
  attempt (Slot.checkPatch kind id patch)
  let (records, capacity) ← load broken kind
  let records ← attempt (Slot.update kind records capacity id patch)
  push broken kind id.toNat records
  save broken kind
  succeed [id] (kind.label ++ " " ++ Numeral.decimalText id ++ " updated successfully.")

def editSome (broken : Breakdowns) (kind : Kind) (id : Int) (patch : Slot.Patch) : Step Unit := do
  if patch.isEmpty then
    attempt (refuseDefinition .noChange)
  editStep broken kind id patch

def clearAll (kind : Kind) (records : List Record) (capacity : Int) (ids : List Int) :
    Except Failure (List Record) :=
  ids.foldlM (fun records id => Slot.clear kind records capacity id) records

def pushCleared (broken : Breakdowns) (kind : Kind) (capacity : Int) :
    List Record → List Int → Step Unit
  | _, [] => pure ()
  | records, id :: ids => do
    let records ← attempt (Slot.clear kind records capacity id)
    push broken kind id.toNat records
    pushCleared broken kind capacity records ids

def deletedMessage (kind : Kind) : List Int → String
  | [id] => kind.label ++ " ID " ++ Numeral.decimalText id ++ " successfully deleted."
  | ids =>
    Numeral.decimalText ids.length ++ s!" {kind.lowerLabel}s successfully deleted (IDs: " ++
      ", ".intercalate (ids.map Numeral.decimalText) ++ ")."

-- Clears slots. All of them are checked before the first is written.
def clearStep (broken : Breakdowns) (kind : Kind) (records : List Record) (capacity : Int)
    (ids : List Int) (nothing : String) : Step Unit := do
  report fun o => { o with slotIds := ids }
  if ids.isEmpty then
    succeed [] nothing
  else
    let _ ← attempt (clearAll kind records capacity ids)
    pushCleared broken kind capacity records ids
    save broken kind
    if ids.length = 1 then
      report fun o => { o with slotId := ids.head? }
    succeed ids (deletedMessage kind ids)

def deleteWhere (broken : Breakdowns) (kind : Kind) (predicate : Record → Bool)
    (description : String) : Step Unit := do
  let (records, capacity) ← load broken kind
  let ids := ((records.filter predicate).map fun r => (r.id : Int)).mergeSort (· ≤ ·)
  clearStep broken kind records capacity ids
    s!"No {description} {kind.lowerLabel}s found to delete."

def keptFields : Kind → List String
  | .combo => ["id", "term", "enabled"]
  | _ => ["id"]

def redefinition (record : Record) : Slot.Patch :=
  record.fields.filter fun (name, _) => !(keptFields record.kind).contains name

def steps (keys : κ) (settings : Settings) (broken : Breakdowns) : Command → Step Unit
  | add kind definition => do
    let record ← attempt (Definition.readRecord keys settings.context kind definition)
    addStep broken kind record
  | addKeyOverride request => do
    let o ← attempt (Definition.readKeyOverride keys (request.definition settings))
    addStep broken .keyOverride (.keyOverride o)
  | addCombo definition term => do
    let term := term.getD (.int settings.comboTerm)
    let c ← attempt (Definition.readCombo keys definition (.int settings.maxTriggers) term)
    addStep broken .combo (.combo c)
  | addRecord kind record => addStep broken kind record
  | edit kind id patch => editSome broken kind id patch
  | editDefinition kind id definition => do
    if kind = .keyOverride then
      throw (.faulted .overrideRedefinition)
    let context := { settings.context with comboTerm := .int 50 }
    let record ← attempt (Definition.readRecord keys context kind definition)
    editStep broken kind id (redefinition record)
  | editKeyOverride id change => do
    let patch ← attempt (change.patch keys)
    editSome broken .keyOverride id patch
  | editCombo id change => do
    let patch ← attempt (change.patch keys settings)
    editSome broken .combo id patch
  | delete kind ids => do
    let ids := ids.eraseDups.mergeSort (· ≤ ·)
    if ids.isEmpty then
      attempt (refuseDefinition .noSlot)
    let (records, capacity) ← load broken kind
    clearStep broken kind records capacity ids ""
  | deleteMatching kind predicate description => deleteWhere broken kind predicate description
  | deleteAllEmpty kind => deleteWhere broken kind (·.isEmpty) "empty"
  | deleteAllDisabled => deleteWhere broken .keyOverride (·.isDisabled) "disabled"
  | list kind => do
    let (records, capacity) ← load broken kind
    let occupied := records.filter (!·.isEmpty)
    report fun o => { o with records := occupied, slotIds := occupied.map fun r => (r.id : Int) }
    succeed [capacity] ("Found " ++ Numeral.decimalText occupied.length ++
      s!" active {kind.lowerLabel}(s) (total slots: " ++ Numeral.decimalText capacity ++ ").")
  | get kind id => do
    report fun o => { o with slotId := some id }
    let (records, capacity) ← load broken kind
    let record ← attempt (Slot.lookup kind records capacity id)
    if record.isEmpty then
      attempt (refuse (.notFound kind id))
    report fun o => { o with records := [record], slotIds := [id] }
    succeed [id] (kind.label ++ " " ++ Numeral.decimalText id ++ " found.")

def run (keys : κ) (settings : Settings) (broken : Breakdowns) (keyboard : Keyboard)
    (command : Command) : Ending :=
  Session.run broken command.verb command.kind keyboard (command.steps keys settings broken)

end Command
end KeySlots
