import GuestRunner.Text.Quoted

/-!
# Defects of input

A defect says where in an input something is wrong and what. The place is a list of keys and
positions, from the outermost field inwards.
-/

set_option autoImplicit false

namespace GuestRunner

inductive Complaint
  | notText
  | undecodableText
  | emptyText
  | nulInProgramName
  | notOneOf (labels : List String)
  | notInteger
  | unreadableInteger
  | oversizedInteger
  | fractionalInteger
  | notFinite
  | notPositive
  | notNumber
  | unreadableNumber
  | notBoolean
  | unreadableBoolean
  | notBytes
  | notTable
  | notList
  | notTuple
  | absent
  /-- Where the items cannot be counted beforehand, it is not told how many there are. -/
  | tooManyItems (most : Nat) (actual : Option Nat)
  | notSettings
  deriving DecidableEq, Repr

inductive Locator
  | key (name : String)
  | index (i : Int)
  deriving DecidableEq, Repr

structure Defect where
  place : List Locator
  complaint : Complaint
  deriving DecidableEq, Repr

namespace Complaint

def code : Complaint → String
  | .notText => "string_type"
  | .undecodableText => "string_unicode"
  | .emptyText => "string_too_short"
  | .nulInProgramName => "value_error"
  | .notOneOf _ => "enum"
  | .notInteger => "int_type"
  | .unreadableInteger => "int_parsing"
  | .oversizedInteger => "int_parsing_size"
  | .fractionalInteger => "int_from_float"
  | .notFinite => "finite_number"
  | .notPositive => "greater_than"
  | .notNumber => "float_type"
  | .unreadableNumber => "float_parsing"
  | .notBoolean => "bool_type"
  | .unreadableBoolean => "bool_parsing"
  | .notBytes => "bytes_type"
  | .notTable => "dict_type"
  | .notList => "list_type"
  | .notTuple => "tuple_type"
  | .absent => "missing"
  | .tooManyItems .. => "too_long"
  | .notSettings => "model_type"

def alternatives : List String → String
  | [] => ""
  | [label] => Text.Quoted.text label
  | [first, last] => Text.Quoted.text first ++ " or " ++ Text.Quoted.text last
  | first :: rest => Text.Quoted.text first ++ ", " ++ alternatives rest

def message : Complaint → String
  | .notText => "Input should be a valid string"
  | .undecodableText =>
    "Input should be a valid string, unable to parse raw data as a unicode string"
  | .emptyText => "String should have at least 1 character"
  | .nulInProgramName => "Value error, program_name must not contain NUL bytes"
  | .notOneOf labels => "Input should be " ++ alternatives labels
  | .notInteger => "Input should be a valid integer"
  | .unreadableInteger => "Input should be a valid integer, unable to parse string as an integer"
  | .oversizedInteger =>
    "Unable to parse input string as an integer, exceeded maximum size"
  | .fractionalInteger => "Input should be a valid integer, got a number with a fractional part"
  | .notFinite => "Input should be a finite number"
  | .notPositive => "Input should be greater than 0"
  | .notNumber => "Input should be a valid number"
  | .unreadableNumber => "Input should be a valid number, unable to parse string as a number"
  | .notBoolean => "Input should be a valid boolean"
  | .unreadableBoolean => "Input should be a valid boolean, unable to interpret input"
  | .notBytes => "Input should be a valid bytes"
  | .notTable => "Input should be a valid dictionary"
  | .notList => "Input should be a valid list"
  | .notTuple => "Input should be a valid tuple"
  | .absent => "Field required"
  | .tooManyItems most actual =>
    "Tuple should have at most " ++ toString most ++ " items after validation, not " ++
      (actual.map toString).getD "more"
  | .notSettings => "Input should be a valid dictionary or instance of ProcessorConfig"

end Complaint

def Defect.headline (count : Nat) (subject : String) : String :=
  toString count ++ (if count = 1 then " validation error for " else " validation errors for ") ++
    subject

end GuestRunner
