import KeySlots.Text.Basic

namespace KeySlots.Numeral

-- Under Mathlib, too, powers of numbers are those of the core library.
attribute [instance (2000)] instPowNat

-- The number has at most so many binary digits. No power is formed, as the width may be great.
def fits (width n : Nat) : Bool :=
  n = 0 || n.log2 < width

theorem fits_iff {width n : Nat} : fits width n = true ↔ n < 2 ^ width := by
  by_cases h : n = 0
  · subst h
    exact iff_of_true rfl (Nat.two_pow_pos width)
  · simp [fits, h, Nat.log2_lt]

-- The most digits a decimal numeral may have, read or written. Hexadecimal numerals have no such limit:
-- they are read digit by digit in linear time.
def maxDigits : Nat := 4300

def isWritable (n : Int) : Bool :=
  n.natAbs < 10 ^ maxDigits

def decimalText (n : Int) : String :=
  let digits := Nat.toDigits 10 n.natAbs
  String.ofList (if n < 0 then '-' :: digits else digits)

def isNatural (cs : List Char) : Bool :=
  !cs.isEmpty && cs.all Char.isDigit

def naturalValue (cs : List Char) : Nat :=
  Nat.ofDigitChars 10 cs 0

def ofDigits (base : Nat) (digits : List Nat) : Nat :=
  digits.foldl (fun n d => n * base + d) 0

def moreDigits (value : Char → Option Nat) : List Char → Option (List Nat)
  | [] => some []
  | '_' :: c :: cs => do
    let d ← value c
    (moreDigits value cs).map (d :: ·)
  | c :: cs => do
    let d ← value c
    (moreDigits value cs).map (d :: ·)

def groupedDigits (value : Char → Option Nat) : List Char → Option (List Nat)
  | [] => none
  | c :: cs => do
    let d ← value c
    (moreDigits value cs).map (d :: ·)

def splitSign : List Char → Bool × List Char
  | '-' :: cs => (true, cs)
  | '+' :: cs => (false, cs)
  | cs => (false, cs)

def splitMinus : List Char → Bool × List Char
  | '-' :: cs => (true, cs)
  | cs => (false, cs)

def signed (negative : Bool) (n : Nat) : Int :=
  if negative then -(n : Int) else n

def hexValue? (c : Char) : Option Nat :=
  if 'a' ≤ c && c ≤ 'f' then some (c.toNat - 'a'.toNat + 10)
  else if 'A' ≤ c && c ≤ 'F' then some (c.toNat - 'A'.toNat + 10)
  else Text.digitValue? c

def hexadecimal? : List Char → Option Nat
  | '_' :: cs => (groupedDigits hexValue? cs).map (ofDigits 16)
  | cs => (groupedDigits hexValue? cs).map (ofDigits 16)

def decimal? (cs : List Char) : Option Int :=
  let (negative, body) := splitSign cs
  match groupedDigits Text.digitValue? body with
  | some digits =>
    if digits.length ≤ maxDigits then some (signed negative (ofDigits 10 digits)) else none
  | none => none

def integer? (cs : List Char) : Option Int :=
  match Text.trim cs with
  | '0' :: 'x' :: digits => (hexadecimal? digits).map Int.ofNat
  | '0' :: 'X' :: digits => (hexadecimal? digits).map Int.ofNat
  | text => decimal? text

def padZeros (width : Nat) (digits : List Char) : List Char :=
  List.replicate (width - digits.length) '0' ++ digits

def hexDigits (width n : Nat) : List Char :=
  padZeros width (Nat.toDigits 16 n)

-- Upper-case hexadecimal text in a field of at least four characters. A minus sign takes up one place of
-- the field and the zeros follow it.
def hexField (n : Int) : String :=
  if n < 0 then
    String.ofList ('-' :: (hexDigits 3 n.natAbs).map Char.toUpper)
  else
    String.ofList ((hexDigits 4 n.natAbs).map Char.toUpper)

end KeySlots.Numeral
