import KeySlots.Definition.Basic
import KeySlots.Schema.Scalar

namespace KeySlots.Definition

variable {κ : Type} [KeyCodec κ]

def keyAction? : String → Option (KeyCode → Action)
  | "TAP" => some .tap
  | "DOWN" => some .down
  | "UP" => some .up
  | _ => none

def tapOfPiece (keys : κ) (piece : List Char) : Except Failure Action :=
  (resolve keys .macroPiece (String.ofList piece)).map .tap

-- The action of a piece of a macro. An action on a key needs an argument; `TEXT` takes its argument as it
-- stands.
def readAction (keys : κ) (piece : List Char) : Except Failure Action :=
  match Call.ofText? piece with
  | none => tapOfPiece keys piece
  | some call =>
    if call.name = "DELAY" then
      (readNatural call.body (.macroDelay (String.ofList piece))).map .delay
    else if call.name = "TEXT" then
      .ok (.text (String.ofList call.body))
    else
      match keyAction? call.name, call.body with
      | some action, _ :: _ =>
        (resolve keys .macroAction (String.ofList (Text.trim call.body))).map action
      | _, _ => tapOfPiece keys piece

def readMacro (keys : κ) (definition : String) : Except Failure Macro := do
  let actions ← (Text.pieces ',' definition.toList).mapM (readAction keys)
  if actions.isEmpty then
    refuseDefinition (.macroEmpty definition)
  else
    .ok { actions }

variable {κ : Type} [KeyCodec κ]

inductive Press where
  | tap
  | hold
  | doubleTap
  | tapHold
  deriving DecidableEq, Repr

def Press.ofName? : String → Option Press
  | "TAP" => some tap
  | "HOLD" => some hold
  | "DOUBLE" => some doubleTap
  | "TAPHOLD" => some tapHold
  | _ => none

inductive TapDanceClause where
  | key (press : Press) (code : KeyCode)
  | term (ms : Nat)
  deriving DecidableEq, Repr

namespace TapDanceClause

def isKey : TapDanceClause → Bool
  | key _ _ => true
  | term _ => false

def term? : TapDanceClause → Option Nat
  | key _ _ => none
  | term ms => some ms

def apply (t : TapDance) : TapDanceClause → TapDance
  | key .tap code => { t with tap := code }
  | key .hold code => { t with hold := code }
  | key .doubleTap code => { t with doubleTap := code }
  | key .tapHold code => { t with tapHold := code }
  | term ms => { t with term := ms }

end TapDanceClause

def readTapDanceClause (keys : κ) (piece : List Char) : Except Failure TapDanceClause :=
  match Call.ofText? piece with
  | none => refuseDefinition (.tapDanceAction (String.ofList piece))
  | some call =>
    if call.name = "TERM" then
      (readNatural call.body (.tapDanceTerm (String.ofList piece))).map .term
    else
      match Press.ofName? call.name, call.body with
      | some press, _ :: _ =>
        (resolve keys (.tapDance call.name) (String.ofList (Text.trim call.body))).map (.key press)
      | _, _ => refuseDefinition (.tapDanceAction (String.ofList piece))

-- Reads a tap-dance. `term` is its term unless the definition gives one, and only then need it be a number
-- of milliseconds.
def readTapDance (keys : κ) (definition : String) (term : Json) :
    Except Failure TapDance := do
  let clauses ← (Text.pieces ',' definition.toList).mapM (readTapDanceClause keys)
  if !clauses.any (·.isKey) then
    refuseDefinition (.tapDanceEmpty definition)
  else if clauses.any (·.term?.isSome) then
    .ok (clauses.foldl TapDanceClause.apply {})
  else
    let term ← valid ((Schema.natural term).under "term_ms")
    .ok (clauses.foldl TapDanceClause.apply { term })

variable {κ : Type} [KeyCodec κ]

def readTrigger (keys : κ) (name : List Char) : Except Failure KeyCode :=
  let token := String.ofList name
  match KeyCodec.parse keys token with
  | some code =>
    if code = KeyCode.none then refuse (.invalidKey .comboTrigger token) else .ok code
  | none => refuse (.invalidKey .comboTrigger token)

def readCombo (keys : κ) (definition : String) (maxTriggers term : Given) :
    Except Failure Combo :=
  match Text.words definition.toList with
  | [group, action] => do
    let names := Text.pieces '+' group
    if names.isEmpty then
      refuseDefinition (.comboNoTriggers (String.ofList group))
    else if ← maxTriggers.isBelow names.length then
      refuseDefinition (.comboTriggers (String.ofList group) maxTriggers names.length)
    else
      let codes ← names.mapM (readTrigger keys)
      let action ← resolve keys .comboAction (String.ofList action)
      let term ← readTerm term
      match Combo.Triggers.ofList? codes with
      | some triggers => .ok { triggers, action, term }
      | none => fault (.invalid [⟨["trigger_keys"], .tooManyTriggers codes.length⟩])
  | _ => refuseDefinition (.comboFormat (Text.trimmed definition))

end KeySlots.Definition
