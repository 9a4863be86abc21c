import KeySlots.Entries
import KeySlots.Numeral.Shortest
import KeySlots.Numeral.Basic
import KeySlots.Text.Quoted

namespace KeySlots

inductive Json where
  | null
  | bool (b : Bool)
  | int (n : Int)
  | float (x : Numeral.Binary64)
  | text (s : String)
  -- A text in which escapes name halves of surrogate pairs. Such a half is no character; here U+FFFD
  -- stands for each.
  | brokenText (s : String)
  | array (items : List Json)
  | object (fields : List (String × Json))
  deriving Repr

abbrev Fields := Entries String Json

namespace Json

def typeName : Json → String
  | null => "NoneType"
  | bool _ => "bool"
  | int _ => "int"
  | float _ => "float"
  | text _ | brokenText _ => "str"
  | array _ => "list"
  | object _ => "dict"

mutual

def shown : Json → String
  | null => "None"
  | bool b => if b then "True" else "False"
  | int n => Numeral.decimalText n
  | float x => x.text
  | text s | brokenText s => Text.quoted s
  | array items => "[" ++ ", ".intercalate (shownItems items) ++ "]"
  | object fields => "\x7b" ++ ", ".intercalate (shownFields fields) ++ "\x7d"

def shownItems : List Json → List String
  | [] => []
  | v :: vs => shown v :: shownItems vs

def shownFields : List (String × Json) → List String
  | [] => []
  | (name, v) :: fields => (Text.quoted name ++ ": " ++ shown v) :: shownFields fields

end

def plain : Json → String
  | text s | brokenText s => s
  | value => shown value

mutual

def integers : Json → List Int
  | .int n => [n]
  | .array vs => integersOfItems vs
  | .object fs => integersOfFields fs
  | _ => []

def integersOfItems : List Json → List Int
  | [] => []
  | v :: vs => integers v ++ integersOfItems vs

def integersOfFields : List (String × Json) → List Int
  | [] => []
  | (_, v) :: fs => integers v ++ integersOfFields fs

end

end Json
end KeySlots
