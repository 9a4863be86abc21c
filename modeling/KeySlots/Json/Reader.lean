import KeySlots.Json.Basic

namespace KeySlots.Json

inductive ReadError where
  | byteOrderMark
  | expectingValue
  | expectingName
  | expectingColon
  | expectingComma
  | extraData
  | unterminatedString
  | controlCharacter
  | badEscape
  | badUnicodeEscape
  | overlongNumeral (digits : Nat)
  deriving DecidableEq, Repr

-- The text of a failure. A numeral that is too long is told about by its reader.
def ReadError.message : ReadError → String
  | byteOrderMark => "Unexpected UTF-8 BOM (decode using utf-8-sig)"
  | expectingValue => "Expecting value"
  | expectingName => "Expecting property name enclosed in double quotes"
  | expectingColon => "Expecting ':' delimiter"
  | expectingComma => "Expecting ',' delimiter"
  | extraData => "Extra data"
  | unterminatedString => "Unterminated string starting at"
  | controlCharacter => "Invalid control character at"
  | badEscape => "Invalid \\escape"
  | badUnicodeEscape => "Invalid \\uXXXX escape"
  | overlongNumeral _ => ""

namespace Reader

def isSpace (c : Char) : Bool :=
  c = ' ' || c = '\t' || c = '\n' || c = '\r'

def skip (cs : List Char) : List Char :=
  cs.dropWhile isSpace

def hexValue? (c : Char) : Option Nat :=
  if c.isDigit then some (c.toNat - '0'.toNat)
  else if 'a' ≤ c && c ≤ 'f' then some (c.toNat - 'a'.toNat + 10)
  else if 'A' ≤ c && c ≤ 'F' then some (c.toNat - 'A'.toNat + 10)
  else none

def codeUnit? (a b c d : Char) : Option Nat := do
  let a ← hexValue? a
  let b ← hexValue? b
  let c ← hexValue? c
  let d ← hexValue? d
  some (((a * 16 + b) * 16 + c) * 16 + d)

def isHighSurrogate (unit : Nat) : Bool :=
  0xD800 ≤ unit && unit ≤ 0xDBFF

def isLowSurrogate (unit : Nat) : Bool :=
  0xDC00 ≤ unit && unit ≤ 0xDFFF

def joinSurrogates (high low : Nat) : Char :=
  Char.ofNat (0x10000 + (high - 0xD800) * 0x400 + (low - 0xDC00))

-- The characters of a string's code points, where two halves of a surrogate pair are joined and `none`
-- stands for half a pair on its own.
def joinUnits : List Nat → List (Option Char)
  | [] => []
  | [unit] => [if isHighSurrogate unit || isLowSurrogate unit then none else some (Char.ofNat unit)]
  | unit :: next :: units =>
    if isHighSurrogate unit && isLowSurrogate next then
      some (joinSurrogates unit next) :: joinUnits units
    else if isHighSurrogate unit || isLowSurrogate unit then
      none :: joinUnits (next :: units)
    else
      some (Char.ofNat unit) :: joinUnits (next :: units)

def escapeChar? : Char → Option Char
  | '"' => some '"'
  | '\\' => some '\\'
  | '/' => some '/'
  | 'b' => some '\x08'
  | 'f' => some '\x0c'
  | 'n' => some '\n'
  | 'r' => some '\r'
  | 't' => some '\t'
  | _ => none

-- The code points of a string after its opening quotation mark, and the text after the closing one. An
-- escape `\u` must have four digits and at least one character more after it.
def chars : List Char → Except ReadError (List Nat × List Char)
  | [] => .error .unterminatedString
  | '"' :: cs => .ok ([], cs)
  | ['\\'] => .error .unterminatedString
  | '\\' :: 'u' :: a :: b :: c :: d :: e :: cs =>
    match codeUnit? a b c d with
    | some unit => (chars (e :: cs)).map fun (units, rest) => (unit :: units, rest)
    | none => .error .badUnicodeEscape
  | '\\' :: e :: cs =>
    if e = 'u' then
      .error .badUnicodeEscape
    else
      match escapeChar? e with
      | some c => (chars cs).map fun (units, rest) => (c.toNat :: units, rest)
      | none => .error .badEscape
  | c :: cs =>
    if c.toNat < 0x20 then
      .error .controlCharacter
    else
      (chars cs).map fun (units, rest) => (c.toNat :: units, rest)

def stringText (units : List Nat) : String :=
  String.ofList ((joinUnits units).map (·.getD '\ufffd'))

def stringValue (units : List Nat) : Json :=
  if (joinUnits units).all Option.isSome then .text (stringText units)
  else .brokenText (stringText units)

def wholeDigits : List Char → List Char × List Char
  | '0' :: cs => (['0'], cs)
  | cs => cs.span Char.isDigit

def fractionDigits : List Char → List Char × List Char
  | '.' :: cs =>
    let digits := cs.takeWhile Char.isDigit
    if digits.isEmpty then ([], '.' :: cs) else (digits, cs.dropWhile Char.isDigit)
  | cs => ([], cs)

def exponent? : List Char → Option (Int × List Char)
  | [] => none
  | e :: cs =>
    if e = 'e' || e = 'E' then
      let (negative, body) := Numeral.splitSign cs
      let digits := body.takeWhile Char.isDigit
      if digits.isEmpty then none
      else some (Numeral.signed negative (Numeral.naturalValue digits), body.dropWhile Char.isDigit)
    else
      none

def number (limit : Option Nat) (cs : List Char) : Except ReadError (Json × List Char) :=
  let (negative, body) := Numeral.splitMinus cs
  let (whole, afterWhole) := wholeDigits body
  if whole.isEmpty then
    .error .expectingValue
  else
    let (fraction, afterFraction) := fractionDigits afterWhole
    let decimal (exponent : Int) : Json :=
      .float (.ofDecimal negative (Numeral.naturalValue (whole ++ fraction))
        (exponent - fraction.length))
    match exponent? afterFraction with
    | some (exponent, rest) => .ok (decimal exponent, rest)
    | none =>
      if !fraction.isEmpty then
        .ok (decimal 0, afterFraction)
      else if limit.any (· < whole.length) then
        .error (.overlongNumeral whole.length)
      else
        .ok (.int (Numeral.signed negative (Numeral.naturalValue whole)), afterFraction)

mutual

-- The value that starts here. The first argument bounds the depth of the recursion; twice the length of
-- the text is enough, as no two steps in a row leave the text as it is.
def value (limit : Option Nat) : Nat → List Char → Except ReadError (Json × List Char)
  | 0, _ => .error .expectingValue
  | _ + 1, '"' :: cs => (chars cs).map fun (s, rest) => (stringValue s, rest)
  | fuel + 1, '{' :: cs =>
    match skip cs with
    | '}' :: rest => .ok (.object [], rest)
    | cs => (members limit fuel cs).map fun (pairs, rest) => (.object (Entries.ofPairs pairs), rest)
  | fuel + 1, '[' :: cs =>
    match skip cs with
    | ']' :: rest => .ok (.array [], rest)
    | cs => (elements limit fuel cs).map fun (items, rest) => (.array items, rest)
  | _ + 1, 'n' :: 'u' :: 'l' :: 'l' :: rest => .ok (.null, rest)
  | _ + 1, 't' :: 'r' :: 'u' :: 'e' :: rest => .ok (.bool true, rest)
  | _ + 1, 'f' :: 'a' :: 'l' :: 's' :: 'e' :: rest => .ok (.bool false, rest)
  | _ + 1, 'N' :: 'a' :: 'N' :: rest => .ok (.float .nan, rest)
  | _ + 1, 'I' :: 'n' :: 'f' :: 'i' :: 'n' :: 'i' :: 't' :: 'y' :: rest =>
    .ok (.float (.infinite false), rest)
  | _ + 1, '-' :: 'I' :: 'n' :: 'f' :: 'i' :: 'n' :: 'i' :: 't' :: 'y' :: rest =>
    .ok (.float (.infinite true), rest)
  | _ + 1, cs => number limit cs

def members (limit : Option Nat) : Nat → List Char → Except ReadError (List (String × Json) × List Char)
  | fuel + 1, '"' :: cs => do
    let (name, cs) ← chars cs
    match skip cs with
    | ':' :: cs =>
      let (v, cs) ← value limit fuel (skip cs)
      match skip cs with
      | '}' :: rest => .ok ([(stringText name, v)], rest)
      | ',' :: cs =>
        let (pairs, rest) ← members limit fuel (skip cs)
        .ok ((stringText name, v) :: pairs, rest)
      | _ => .error .expectingComma
    | _ => .error .expectingColon
  | _, _ => .error .expectingName

def elements (limit : Option Nat) : Nat → List Char → Except ReadError (List Json × List Char)
  | 0, _ => .error .expectingValue
  | fuel + 1, cs => do
    let (v, cs) ← value limit fuel cs
    match skip cs with
    | ']' :: rest => .ok ([v], rest)
    | ',' :: cs =>
      let (items, rest) ← elements limit fuel (skip cs)
      .ok (v :: items, rest)
    | _ => .error .expectingComma

end
end Reader

def read (limit : Option Nat) (cs : List Char) : Except ReadError Json :=
  match cs with
  | '\ufeff' :: _ => .error .byteOrderMark
  | cs => do
    let (v, rest) ← Reader.value limit (2 * cs.length + 1) (Reader.skip cs)
    if (Reader.skip rest).isEmpty then .ok v else .error .extraData

end KeySlots.Json
