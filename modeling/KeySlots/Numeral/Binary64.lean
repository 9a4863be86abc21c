import KeySlots.Numeral.Basic

namespace KeySlots.Numeral

inductive Binary64 where
  | nan
  | infinite (negative : Bool)
  -- The number `mantissa · 2 ^ exponent` with a sign, which a zero has too.
  | finite (negative : Bool) (mantissa : Nat) (exponent : Int)
  deriving DecidableEq, Repr

def divNearestEven (num den : Nat) : Nat :=
  let quotient := num / den
  let doubled := 2 * (num % den)
  if den < doubled || (doubled = den && quotient % 2 = 1) then quotient + 1 else quotient

namespace Binary64

def leadingExponent (num den : Nat) : Int :=
  let guess : Int := (num.log2 : Int) - den.log2
  if num * 2 ^ (-guess).toNat < den * 2 ^ guess.toNat then guess - 1 else guess

-- The fraction `num / den` rounded to 53 bits, or to fewer where the exponent ends at -1074; too great a
-- fraction becomes infinite.
def ofFraction (negative : Bool) (num den : Nat) : Binary64 :=
  if num = 0 then
    finite negative 0 0
  else
    let exponent := max (leadingExponent num den - 52) (-1074)
    let mantissa := divNearestEven (num * 2 ^ (-exponent).toNat) (den * 2 ^ exponent.toNat)
    if (mantissa.log2 : Int) + exponent < 1024 then
      finite negative mantissa exponent
    else
      infinite negative

-- The decimal number `digits · 10 ^ scale`, rounded. Its magnitude is looked at first, so that no great
-- power of ten is computed only to overflow or vanish.
def ofDecimal (negative : Bool) (digits : Nat) (scale : Int) : Binary64 :=
  let magnitude := ((Nat.toDigits 10 digits).length : Int) + scale
  if digits = 0 || magnitude < -400 then
    finite negative 0 0
  else if 400 < magnitude then
    infinite negative
  else
    ofFraction negative (digits * 10 ^ scale.toNat) (10 ^ (-scale).toNat)

def isFinite : Binary64 → Bool
  | finite .. => true
  | _ => false

def isBelow (x : Binary64) (n : Int) : Bool :=
  match x with
  | nan => false
  | infinite negative => negative
  | finite negative mantissa exponent =>
    let whole := mantissa * 2 ^ exponent.toNat
    (if negative then -(whole : Int) else whole) < n * (2 ^ (-exponent).toNat : Nat)

def toInt? : Binary64 → Option Int
  | finite negative mantissa exponent =>
    let whole := mantissa * 2 ^ exponent.toNat
    let unit := 2 ^ (-exponent).toNat
    if whole % unit = 0 then
      some (if negative then -((whole / unit : Nat) : Int) else (whole / unit : Nat))
    else
      none
  | _ => none

end Binary64
end KeySlots.Numeral
