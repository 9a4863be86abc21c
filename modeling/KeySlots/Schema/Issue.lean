import KeySlots.Numeral.Basic

namespace KeySlots.Schema

inductive Problem where
  | missing
  | notModel (model : String)
  | notInteger
  | unreadableInteger
  | fractional
  | notFinite
  | oversized
  | below (least : Int)
  | above (greatest : Int)
  | notBoolean
  | unclearBoolean
  | notText
  | brokenText
  | notArray
  | notSet
  | notTagged
  | missingTag
  | unknownTag (tag : String)
  | tooManyTriggers (count : Nat)
  | notOneOf (choices : List String)
  deriving DecidableEq, Repr

def choicePhrase : List String → String
  | [] => ""
  | [c] => s!"'{c}'"
  | [c, d] => s!"'{c}' or '{d}'"
  | c :: cs => s!"'{c}', " ++ choicePhrase cs

def Problem.message : Problem → String
  | missing => "Field required"
  | notModel model => s!"Input should be a valid dictionary or instance of {model}"
  | notInteger => "Input should be a valid integer"
  | unreadableInteger => "Input should be a valid integer, unable to parse string as an integer"
  | fractional => "Input should be a valid integer, got a number with a fractional part"
  | notFinite => "Input should be a finite number"
  | oversized => "Unable to parse input string as an integer, exceeded maximum size"
  | below least => "Input should be greater than or equal to " ++ Numeral.decimalText least
  | above greatest => "Input should be less than or equal to " ++ Numeral.decimalText greatest
  | notBoolean => "Input should be a valid boolean"
  | unclearBoolean => "Input should be a valid boolean, unable to interpret input"
  | notText => "Input should be a valid string"
  | brokenText => "Input should be a valid string, unable to parse raw data as a unicode string"
  | notArray => "Input should be a valid list"
  | notSet => "Input should be a valid set"
  | notTagged => "Input should be a valid dictionary or object to extract fields from"
  | missingTag => "Unable to extract tag using discriminator 'kind'"
  | unknownTag tag =>
    s!"Input tag '{tag}' found using 'kind' does not match any of the expected tags: " ++
      "'tap', 'down', 'up', 'delay', 'text'"
  | tooManyTriggers count =>
    "Value error, at most 4 trigger keys, got " ++ Numeral.decimalText count
  | notOneOf choices => "Input should be " ++ choicePhrase choices

structure Issue where
  path    : List String
  problem : Problem
  deriving DecidableEq, Repr

def Issue.location (issue : Issue) : String :=
  ".".intercalate issue.path

def Issue.message (issue : Issue) : String :=
  issue.location ++ ": " ++ issue.problem.message

end KeySlots.Schema
