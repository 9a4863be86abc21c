import KeySlots.Toml.Text

namespace KeySlots.Toml

def moreDigits (isDigit : Char → Bool) : List Char → List Char × List Char
  | '_' :: c :: cs =>
    if isDigit c then
      let (digits, rest) := moreDigits isDigit cs
      (c :: digits, rest)
    else
      ([], '_' :: c :: cs)
  | c :: cs =>
    if isDigit c then
      let (digits, rest) := moreDigits isDigit cs
      (c :: digits, rest)
    else
      ([], c :: cs)
  | [] => ([], [])

def digits? (isDigit : Char → Bool) : List Char → Option (List Char × List Char)
  | c :: cs =>
    if isDigit c then
      let (digits, rest) := moreDigits isDigit cs
      some (c :: digits, rest)
    else
      none
  | [] => none

def inBase? (base : Nat) (cs : List Char) : Option (Json × List Char) := do
  let (digits, rest) ← digits? (fun c => (Json.Reader.hexValue? c).any (· < base)) cs
  let values ← digits.mapM Json.Reader.hexValue?
  some (.int (Numeral.ofDigits base values), rest)

def prefixed? : List Char → Option (Json × List Char)
  | '0' :: 'x' :: cs => inBase? 16 cs
  | '0' :: 'b' :: cs => inBase? 2 cs
  | '0' :: 'o' :: cs => inBase? 8 cs
  | _ => none

def whole? : List Char → Option (List Char × List Char)
  | '0' :: cs => some (['0'], cs)
  | cs => digits? Char.isDigit cs

def fraction : List Char → List Char × List Char
  | '.' :: cs => (digits? Char.isDigit cs).getD ([], '.' :: cs)
  | cs => ([], cs)

def exponent? : List Char → Option (Int × List Char)
  | [] => none
  | e :: cs =>
    if e = 'e' || e = 'E' then do
      let (negative, body) := Numeral.splitSign cs
      let (digits, rest) ← digits? Char.isDigit body
      some (Numeral.signed negative (Numeral.naturalValue digits), rest)
    else
      none

def decimal? (cs : List Char) : Option (Except ReadError (Json × List Char)) := do
  let (negative, body) := Numeral.splitSign cs
  let (whole, afterWhole) ← whole? body
  let (fraction, afterFraction) := fraction afterWhole
  let float (exponent : Int) : Json :=
    .float (.ofDecimal negative (Numeral.naturalValue (whole ++ fraction))
      (exponent - fraction.length))
  match exponent? afterFraction with
  | some (exponent, rest) => some (.ok (float exponent, rest))
  | none =>
    if !fraction.isEmpty then
      some (.ok (float 0, afterFraction))
    else if Numeral.maxDigits < whole.length then
      some (.error (.overlongNumeral whole.length))
    else
      some (.ok (.int (Numeral.signed negative (Numeral.naturalValue whole)), afterFraction))

def special? : List Char → Option (Json × List Char)
  | 'i' :: 'n' :: 'f' :: rest | '+' :: 'i' :: 'n' :: 'f' :: rest => some (.float (.infinite false), rest)
  | '-' :: 'i' :: 'n' :: 'f' :: rest => some (.float (.infinite true), rest)
  | 'n' :: 'a' :: 'n' :: rest | '+' :: 'n' :: 'a' :: 'n' :: rest | '-' :: 'n' :: 'a' :: 'n' :: rest =>
    some (.float .nan, rest)
  | _ => none

def fixedDigits? (count : Nat) (cs : List Char) : Option (Nat × List Char) :=
  let digits := cs.take count
  if digits.length = count && digits.all Char.isDigit then
    some (Numeral.naturalValue digits, cs.drop count)
  else
    none

def twoDigits? (least greatest : Nat) (cs : List Char) : Option (Nat × List Char) :=
  (fixedDigits? 2 cs).filter fun (n, _) => least ≤ n && n ≤ greatest

def after? (c : Char) : List Char → Option (List Char)
  | d :: cs => if d = c then some cs else none
  | [] => none

def time? (cs : List Char) : Option (List Char) := do
  let (_, cs) ← twoDigits? 0 23 cs
  let cs ← after? ':' cs
  let (_, cs) ← twoDigits? 0 59 cs
  let cs ← after? ':' cs
  let (_, cs) ← twoDigits? 0 59 cs
  match cs with
  | '.' :: c :: rest => if c.isDigit then some (rest.dropWhile Char.isDigit) else some cs
  | _ => some cs

def skipOffset (cs : List Char) : List Char :=
  match cs with
  | 'Z' :: rest | 'z' :: rest => rest
  | sign :: rest =>
    let offset := do
      let (_, rest) ← twoDigits? 0 23 rest
      let rest ← after? ':' rest
      let (_, rest) ← twoDigits? 0 59 rest
      some rest
    if sign = '+' || sign = '-' then offset.getD cs else cs
  | [] => cs

def daysOf (year month : Nat) : Nat :=
  if month = 2 then
    if year % 4 = 0 && (year % 100 ≠ 0 || year % 400 = 0) then 29 else 28
  else if month = 4 || month = 6 || month = 9 || month = 11 then 30
  else 31

def date? (cs : List Char) : Option (Except ReadError (List Char)) := do
  let (year, cs) ← fixedDigits? 4 cs
  let cs ← after? '-' cs
  let (month, cs) ← twoDigits? 1 12 cs
  let cs ← after? '-' cs
  let (day, cs) ← twoDigits? 1 31 cs
  let rest := match cs with
    | separator :: clock =>
      if separator = 'T' || separator = 't' || separator = ' ' then
        ((time? clock).map skipOffset).getD cs
      else
        cs
    | [] => cs
  some (if 1 ≤ year && day ≤ daysOf year month then .ok rest else .error .malformed)

end KeySlots.Toml
