/-
# Faults of documents

A document is checked as a whole: each fault says where it is and what is
wrong there. A place is a path of names and indices from the top.

Key definitions: `Place`, `Problem`, `Fault`, `Problem.code`,
`Problem.message`.
-/
import Automation.Action
import Automation.Calendar.Reading

namespace Automation

/-- A step from a value to a part of it. -/
inductive Place where
  | name (s : String)
  | index (n : Nat)
deriving DecidableEq, Repr

/-- What can be wrong with a value. -/
inductive Problem where
  | missing
  | notText
  | tooShort (least : Nat)
  | tooLong (most : Nat)
  | notInteger
  | integerText
  | integerFraction
  | integerInfinite
  | integerSize
  | notNumber
  | numberText
  | below (least : Int)
  | above (most : Int)
  | notBoolean
  | booleanText
  | notAmong (names : List String)
  | notList
  | notObject
  /-- No object, where a record of that name is due. -/
  | notRecord (name : String)
  | notAction
  | kindMissing
  /-- An action of a kind that does not exist. -/
  | kindUnknown (shown : String)
  /-- A record whose fields are well formed but do not fit together. -/
  | unfit (reason : String)
  | notTimestamp
  | timestamp (fault : TimestampFault)
deriving DecidableEq, Repr

structure Fault where
  path : List Place
  problem : Problem
deriving DecidableEq, Repr

namespace Problem

/-- Names between quotes, parted by commas, the last one by a word. -/
def alternatives : List String → String
  | [] => ""
  | [a] => "'" ++ a ++ "'"
  | [a, b] => "'" ++ a ++ "' or '" ++ b ++ "'"
  | a :: rest => "'" ++ a ++ "', " ++ alternatives rest

def characters (n : Nat) : String := s!"{n} character" ++ (if n == 1 then "" else "s")

/-- The code that programs know a problem by. -/
def code : Problem → String
  | .missing => "missing"
  | .notText => "string_type"
  | .tooShort _ => "string_too_short"
  | .tooLong _ => "string_too_long"
  | .notInteger => "int_type"
  | .integerText => "int_parsing"
  | .integerFraction => "int_from_float"
  | .integerInfinite => "finite_number"
  | .integerSize => "int_parsing_size"
  | .notNumber => "float_type"
  | .numberText => "float_parsing"
  | .below _ => "greater_than_equal"
  | .above _ => "less_than_equal"
  | .notBoolean => "bool_type"
  | .booleanText => "bool_parsing"
  | .notAmong _ => "enum"
  | .notList => "list_type"
  | .notObject => "dict_type"
  | .notRecord _ => "model_type"
  | .notAction => "model_attributes_type"
  | .kindMissing => "union_tag_not_found"
  | .kindUnknown _ => "union_tag_invalid"
  | .unfit _ => "value_error"
  | .notTimestamp => "datetime_type"
  | .timestamp (.date _) => "datetime_from_date_parsing"
  | .timestamp _ => "datetime_parsing"

def message : Problem → String
  | .missing => "Field required"
  | .notText => "Input should be a valid string"
  | .tooShort least => "String should have at least " ++ characters least
  | .tooLong most => "String should have at most " ++ characters most
  | .notInteger => "Input should be a valid integer"
  | .integerText => "Input should be a valid integer, unable to parse string as an integer"
  | .integerFraction => "Input should be a valid integer, got a number with a fractional part"
  | .integerInfinite => "Input should be a finite number"
  | .integerSize => "Unable to parse input string as an integer, exceeded maximum size"
  | .notNumber => "Input should be a valid number"
  | .numberText => "Input should be a valid number, unable to parse string as a number"
  | .below least => s!"Input should be greater than or equal to {least}"
  | .above most => s!"Input should be less than or equal to {most}"
  | .notBoolean => "Input should be a valid boolean"
  | .booleanText => "Input should be a valid boolean, unable to interpret input"
  | .notAmong names => "Input should be " ++ alternatives names
  | .notList => "Input should be a valid list"
  | .notObject => "Input should be a valid dictionary"
  | .notRecord name => "Input should be a valid dictionary or instance of " ++ name
  | .notAction => "Input should be a valid dictionary or object to extract fields from"
  | .kindMissing => "Unable to extract tag using discriminator 'type'"
  | .kindUnknown shown =>
    "Input tag '" ++ shown ++ "' found using 'type' does not match any of the expected tags: "
      ++ ", ".intercalate (Action.kinds.map fun k => "'" ++ k ++ "'")
  | .unfit reason => "Value error, " ++ reason
  | .notTimestamp => "Input should be a valid datetime"
  | .timestamp (.date fault) => "Input should be a valid datetime or date, " ++ fault.message
  | .timestamp (.count fault) => "Input should be a valid datetime, " ++ fault.message
  | .timestamp .yearZero => "Input should be a valid datetime, year 0 is out of range"

end Problem

end Automation
