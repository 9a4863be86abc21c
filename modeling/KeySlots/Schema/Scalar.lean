import KeySlots.Numeral.Basic
import KeySlots.Schema.Spelling

namespace KeySlots.Schema

def wordBound : Int :=
  0x8000000000000000

def integer : Check Int
  | .int n => .accepted n
  | .bool b => .accepted (if b then 1 else 0)
  | .float x =>
    if x.isFinite then
      match x.toInt? with
      | some n => if -wordBound < n && n < wordBound then .accepted n else .problem .oversized
      | none => .problem .fractional
    else
      .problem .notFinite
  | .text s => spelledInteger s
  | .brokenText _ => .problem .brokenText
  | _ => .problem .notInteger

def natural : Check Nat := fun v =>
  (integer v).andThen fun n => if n < 0 then .problem (.below 0) else .accepted n.toNat

def integerBetween (least greatest : Int) : Check Int := fun v =>
  (integer v).andThen fun n =>
    if n < least then .problem (.below least)
    else if greatest < n then .problem (.above greatest)
    else .accepted n

def bits (width : Nat) : Check (BitVec width) := fun v =>
  (integerBetween 0 ((2 ^ width : Nat) - 1) v).map (BitVec.ofInt width)

def trueWords : List String := ["true", "t", "yes", "y", "on", "1"]

def falseWords : List String := ["false", "f", "no", "n", "off", "0"]

def bit (n : Int) : Checked Bool :=
  if n = 1 then .accepted true else if n = 0 then .accepted false else .problem .unclearBoolean

def boolean : Check Bool
  | .bool b => .accepted b
  | .int n => if -wordBound ≤ n && n < wordBound then bit n else .problem .notBoolean
  | .float x =>
    match x.toInt? with
    | some n => if -wordBound < n && n < wordBound then bit n else .problem .notBoolean
    | none => .problem .notBoolean
  | .text s =>
    let word := String.ofList (s.toList.map Char.toLower)
    if trueWords.contains word then .accepted true
    else if falseWords.contains word then .accepted false
    else .problem .unclearBoolean
  | .brokenText _ => .problem .brokenText
  | _ => .problem .notBoolean

def text : Check String
  | .text s | .brokenText s => .accepted s
  | _ => .problem .notText

def nullable {α : Type} (check : Check α) : Check (Option α)
  | .null => .accepted none
  | v => (check v).map some

def oneOf {α : Type} (choices : List α) (name : α → String) : Check α
  | .text s =>
    match choices.find? (name · = s) with
    | some choice => .accepted choice
    | none => .problem (.notOneOf (choices.map name))
  | _ => .problem (.notOneOf (choices.map name))

end KeySlots.Schema
