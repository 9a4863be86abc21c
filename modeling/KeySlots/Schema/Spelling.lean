import KeySlots.Schema.Checked
import KeySlots.Text.Basic

namespace KeySlots.Schema

-- A blank around a number in a text: the white space of Unicode, which leaves out the information
-- separators of ASCII.
def isWhiteSpace (c : Char) : Bool :=
  Text.isBlank c && !(0x1C ≤ c.toNat && c.toNat ≤ 0x1F)

-- The integer of a plain numeral: perhaps a minus sign, then a single zero or digits that start with
-- another one. The limit on digits counts the sign, too.
def plainInteger? (cs : List Char) : Option Int :=
  let (negative, digits) := Numeral.splitMinus cs
  let isPlain := digits = ['0'] || (Numeral.isNatural digits && digits.head? ≠ some '0')
  if isPlain && cs.length ≤ Numeral.maxDigits then
    some (Numeral.signed negative (Numeral.naturalValue digits))
  else
    none

-- The text starts with what would be a plain numeral if it were shorter.
def isOverlong (cs : List Char) : Bool :=
  let (negative, body) := Numeral.splitMinus cs
  let digits := body.takeWhile Char.isDigit
  digits.head? ≠ some '0' && Numeral.maxDigits < digits.length + if negative then 1 else 0

def withoutPlus : List Char → List Char
  | '+' :: '-' :: cs => '+' :: '-' :: cs
  | '+' :: cs => cs
  | cs => cs

-- The text without its leading zeros and the underscores among them. The last of these characters stays if
-- nothing or a point follows.
def withoutZeros (cs : List Char) : List Char :=
  if cs.head? = some '0' then
    let (zeros, rest) := cs.span fun c => c = '0' || c = '_'
    match rest with
    | [] | '.' :: _ => zeros.getLastD '0' :: rest
    | _ => rest
  else
    cs

def withoutFraction (cs : List Char) : List Char :=
  let fraction := (cs.dropWhile (· ≠ '.')).drop 1
  if !fraction.isEmpty && fraction.all (· = '0') then cs.takeWhile (· ≠ '.') else cs

def withoutUnderscores (cs : List Char) : List Char :=
  if cs.head? = some '_' || cs.getLast? = some '_' || (cs.zip (cs.drop 1)).contains ('_', '_') then
    cs
  else
    cs.filter (· ≠ '_')

-- The text with all dropped that a spelled integer may have besides its numeral. A minus sign in front is
-- set aside meanwhile; one that comes after leading zeros is not.
def tidied (cs : List Char) : List Char :=
  let (negative, body) := Numeral.splitMinus (withoutPlus (Text.trimOf isWhiteSpace cs))
  let numeral := withoutUnderscores (withoutFraction (withoutZeros body))
  if negative then '-' :: numeral else numeral

def spelledInteger (s : String) : Checked Int :=
  match plainInteger? s.toList with
  | some n => .accepted n
  | none =>
    if isOverlong s.toList then
      .problem .oversized
    else
      match plainInteger? (tidied s.toList) with
      | some n => .accepted n
      | none => .problem .unreadableInteger

end KeySlots.Schema
