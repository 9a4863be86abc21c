import KeySlots.Entries
import KeySlots.Failure
import KeySlots.Numeral.Basic
import KeySlots.Record.Basic
import KeySlots.Text.Uppercase

namespace KeySlots

class KeyCodec (κ : Type) where
  parse     : κ → String → Option KeyCode
  stringify : κ → KeyCode → String

-- The names of keys. Both lists hold upper-case names and start with the entries that count when a name or
-- a code comes up again.
structure KeyTable where
  codes : List (String × KeyCode)
  names : List (KeyCode × String)

namespace KeyTable

-- The table of the given names: of two names with one upper-case form the later one counts, and so does
-- the later of two names for one code.
def ofNames (names : Entries String KeyCode) : KeyTable where
  codes := (names.map fun (name, code) => (Text.uppercase name, code)).reverse
  names := (names.map fun (name, code) => (code, Text.uppercase name)).reverse

def addAlias (table : KeyTable) (alternative target : String) : Except Failure KeyTable :=
  match table.codes.lookup (Text.uppercase target) with
  | some code => .ok { table with codes := (Text.uppercase alternative, code) :: table.codes }
  | none => fault (.unknownKey alternative target)

def build (names : Entries String KeyCode) (aliases : Entries String String) :
    Except Failure KeyTable :=
  aliases.foldlM (fun table (alternative, target) => table.addAlias alternative target)
    (ofNames names)

def maxCode : Nat := 0xFFFF

def parse (table : KeyTable) (token : String) : Option KeyCode :=
  let name := Text.upper (Text.trim token.toList)
  if name.isEmpty then
    none
  else
    match table.codes.lookup (String.ofList name) with
    | some code => some code
    | none =>
      match name with
      | '0' :: 'X' :: digits =>
        (Numeral.hexadecimal? digits).bind fun n => if n ≤ maxCode then some (n : KeyCode) else none
      | _ => none

def stringify (table : KeyTable) (code : KeyCode) : String :=
  (table.names.lookup code).getD ("0x" ++ Numeral.hexField code)

instance : KeyCodec KeyTable where
  parse := parse
  stringify := stringify

end KeyTable
end KeySlots
