import GuestRunner.Text.Casing

/-!
# Reasons of traps

An engine tells in prose why a guest trapped. The prose is put in lower case and sorted by the words
in it, wherever they stand: an exit status out of range first, then fuel, then memory; all else is a
plain trap. Where nothing is told there is no reason.
-/

set_option autoImplicit false

namespace GuestRunner

inductive TrapReason
  | trap
  | memoryLimit
  | outOfFuel
  | invalidExitStatus
  deriving DecidableEq, Repr

namespace TrapReason

def label : TrapReason → String
  | .trap => "trap"
  | .memoryLimit => "memory_limit"
  | .outOfFuel => "out_of_fuel"
  | .invalidExitStatus => "invalid_exit_status"

def occurs (word : List Char) : List Char → Bool
  | [] => word.isEmpty
  | c :: rest => word.isPrefixOf (c :: rest) || occurs word rest

def words : List (List Char × TrapReason) :=
  [("invalid exit status".toList, .invalidExitStatus), ("fuel".toList, .outOfFuel),
    ("memory".toList, .memoryLimit)]

def ofChars (text : List Char) : TrapReason :=
  ((words.find? fun entry => occurs entry.1 text).map (·.2)).getD .trap

def ofMessage (message : String) : TrapReason := ofChars (Text.Casing.lower message).toList

def classify (message : Option String) : Option TrapReason := message.map ofMessage

example : ofMessage "wasm trap: all FUEL consumed by memory.grow" = .outOfFuel := by decide +kernel
example : ofMessage "Exited with Invalid Exit Status 126 (fuel)" = .invalidExitStatus := by
  decide +kernel

end TrapReason

end GuestRunner
