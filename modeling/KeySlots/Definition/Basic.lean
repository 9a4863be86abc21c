import KeySlots.Failure
import KeySlots.Key.Table

namespace KeySlots.Definition

variable {κ : Type} [KeyCodec κ]

def isLetter (c : Char) : Bool :=
  c.isAlpha

structure Call where
  name : String
  body : List Char
  deriving DecidableEq, Repr

-- The call that a piece of a definition is: letters, an opening bracket, and a closing bracket as the last
-- character. The body may hold brackets of its own.
def Call.ofText? (piece : List Char) : Option Call :=
  let letters := piece.takeWhile isLetter
  match letters, piece.dropWhile isLetter with
  | _ :: _, '(' :: rest =>
    if rest.getLast? = some ')' then
      some ⟨String.ofList (letters.map Char.toUpper), rest.dropLast⟩
    else
      none
  | _, _ => none

def resolve (keys : κ) (use : KeyUse) (token : String) : Except Failure KeyCode :=
  match KeyCodec.parse keys token with
  | some code => .ok code
  | none => refuse (.invalidKey use token)

def readNatural (cs : List Char) (otherwise : DefinitionError) : Except Failure Nat :=
  let digits := Text.trim cs
  if !Numeral.isNatural digits then
    refuseDefinition otherwise
  else if Numeral.maxDigits < digits.length then
    fault (.overlongNumeral digits.length)
  else
    .ok (Numeral.naturalValue digits)

def readTerm : Given → Except Failure Nat
  | .int n => if n < 0 then refuseDefinition (.term (.int n)) else .ok n.toNat
  | .bool b => refuseDefinition (.term (.bool b))
  | .float _ => fault .fractionAsText
  | .text s => readNatural s.toList (.term (.text s))

def readMaskNumber (name : String) : Given → Except Failure Int
  | .int n => .ok n
  | .bool b => refuseDefinition (.mask name (.bool b))
  | .float _ => fault .fractionAsText
  | .text s =>
    match Numeral.integer? s.toList with
    | some n => .ok n
    | none => refuseDefinition (.mask name (.text s))

def readMask (width : Int) (name : String) (given : Given) : Except Failure Nat := do
  let n ← readMaskNumber name given
  if n < 0 then
    refuseDefinition (.maskWidth name given width)
  else if width < 0 then
    fault .negativeWidth
  else if Numeral.fits width.toNat n.toNat then
    .ok n.toNat
  else
    refuseDefinition (.maskWidth name given width)

end KeySlots.Definition
