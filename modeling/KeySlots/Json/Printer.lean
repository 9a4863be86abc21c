import KeySlots.Json.Basic

namespace KeySlots.Json

namespace Printer

def unitEscape (unit : Nat) : List Char :=
  '\\' :: 'u' :: Numeral.hexDigits 4 unit

def escape (c : Char) : List Char :=
  if c = '"' || c = '\\' then ['\\', c]
  else if c = '\n' then ['\\', 'n']
  else if c = '\r' then ['\\', 'r']
  else if c = '\t' then ['\\', 't']
  else if c = '\x08' then ['\\', 'b']
  else if c = '\x0c' then ['\\', 'f']
  else if 0x20 ≤ c.toNat && c.toNat ≤ 0x7E then [c]
  else if c.toNat ≤ 0xFFFF then unitEscape c.toNat
  else
    let offset := c.toNat - 0x10000
    unitEscape (0xD800 + offset / 0x400) ++ unitEscape (0xDC00 + offset % 0x400)

def string (cs : List Char) : List Char :=
  '"' :: cs.flatMap escape ++ ['"']

def float : Numeral.Binary64 → List Char
  | .nan => "NaN".toList
  | .infinite negative => (if negative then "-Infinity" else "Infinity").toList
  | x => x.text.toList

def newline (level : Nat) : List Char :=
  '\n' :: List.replicate (2 * level) ' '

mutual

def value (level : Nat) : Json → List Char
  | .null => "null".toList
  | .bool b => (if b then "true" else "false").toList
  | .int n => (Numeral.decimalText n).toList
  | .float x => float x
  | .text s | .brokenText s => string s.toList
  | .array [] => "[]".toList
  | .array (v :: vs) => '[' :: items level (v :: vs) ++ newline level ++ [']']
  | .object [] => ['{', '}']
  | .object (f :: fs) => '{' :: fields level (f :: fs) ++ newline level ++ ['}']

def items (level : Nat) : List Json → List Char
  | [] => []
  | [v] => newline (level + 1) ++ value (level + 1) v
  | v :: vs => newline (level + 1) ++ value (level + 1) v ++ ',' :: items level vs

def fields (level : Nat) : List (String × Json) → List Char
  | [] => []
  | [(name, v)] => newline (level + 1) ++ string name.toList ++ ':' :: ' ' :: value (level + 1) v
  | (name, v) :: fs =>
    newline (level + 1) ++ string name.toList ++ ':' :: ' ' :: value (level + 1) v ++
      ',' :: fields level fs

end
end Printer

def print (v : Json) : String :=
  String.ofList (Printer.value 0 v)

end KeySlots.Json
