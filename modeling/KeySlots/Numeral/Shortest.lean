import KeySlots.Numeral.Binary64

namespace KeySlots.Numeral.Binary64

def scaled (num : Nat) (binary decimal : Int) : Nat × Nat :=
  (num * 2 ^ binary.toNat * 10 ^ decimal.toNat, 2 ^ (-binary).toNat * 10 ^ (-decimal).toNat)

-- The decimal number `digits · 10 ^ scale` reads back as `mantissa · 2 ^ exponent`: it lies between the
-- midpoints to the number's neighbours, where a midpoint itself counts if the mantissa is even. The gap
-- below a power of two is half the gap above it.
def readsBack (mantissa : Nat) (exponent : Int) (digits : Nat) (scale : Int) : Bool :=
  let below := if mantissa = 0x10000000000000 && -1074 < exponent then 1 else 2
  -- both sides in quarters of the number's last place
  let (num, den) := scaled digits (2 - exponent) scale
  let low := (4 * mantissa - below) * den
  let high := (4 * mantissa + 2) * den
  if mantissa % 2 = 0 then low ≤ num && num ≤ high else low < num && num < high

def onGrid (mantissa : Nat) (exponent : Int) (scale : Int) : Option Nat :=
  let (num, den) := scaled mantissa exponent (-scale)
  let lower := num / den
  let fits := readsBack mantissa exponent
  match decide (0 < lower) && fits lower scale, fits (lower + 1) scale with
  | true, true => some (divNearestEven num den)
  | true, false => some lower
  | false, true => some (lower + 1)
  | false, false => none

-- The digits and the scale on the coarsest grid, from `scale` downwards, that has a number reading back.
def shortest (mantissa : Nat) (exponent : Int) : Nat → Int → Nat × Int
  | 0, scale => (mantissa, scale)
  | steps + 1, scale =>
    match onGrid mantissa exponent scale with
    | some digits => (digits, scale)
    | none => shortest mantissa exponent steps (scale - 1)

def positional (digits : List Char) (point : Int) : List Char :=
  if point ≤ 0 then
    '0' :: '.' :: (List.replicate (-point).toNat '0' ++ digits)
  else if (digits.length : Int) ≤ point then
    digits ++ List.replicate (point.toNat - digits.length) '0' ++ ['.', '0']
  else
    digits.take point.toNat ++ '.' :: digits.drop point.toNat

def scientific (digits : List Char) (exponent : Int) : List Char :=
  let power := Nat.toDigits 10 exponent.natAbs
  let fraction := if digits.length ≤ 1 then [] else '.' :: digits.drop 1
  digits.take 1 ++ fraction ++ ['e', if exponent < 0 then '-' else '+'] ++
    (if power.length < 2 then '0' :: power else power)

def text : Binary64 → String
  | nan => "nan"
  | infinite negative => if negative then "-inf" else "inf"
  | finite negative mantissa exponent =>
    let unsigned :=
      if mantissa = 0 then
        "0.0".toList
      else
        -- from 10³⁰⁹, above every number, to 10⁻³²⁴, below the gap between any two
        let (number, scale) := shortest mantissa exponent 640 309
        let digits := Nat.toDigits 10 number
        let leading := (digits.length : Int) + scale - 1
        if -4 ≤ leading && leading < 16 then
          positional digits (leading + 1)
        else
          scientific digits leading
    String.ofList (if negative then '-' :: unsigned else unsigned)

end KeySlots.Numeral.Binary64
