import GuestRunner.Arguments
import GuestRunner.Guest.TrapReason

/-!
# Outcomes of guest runs

A backend reports how a guest ended: with an exit code or by a trap, what it said about the trap and
how much fuel was burnt. Exit code and fuel are whatever the backend says, and null where it says
nothing. What the parts mean for an invocation is decided elsewhere.
-/

set_option autoImplicit false

namespace GuestRunner

structure Outcome where
  exitCode : Value
  trapped : Bool
  trapReason : Option String
  trapMessage : Option String
  fuelConsumed : Value
  deriving Repr

namespace Outcome

def exited (code fuel : Value) : Outcome := ⟨code, false, none, none, fuel⟩

def ofTrap (message : Option String) (fuel : Value) : Outcome :=
  ⟨.null, true, (TrapReason.classify message).map TrapReason.label, message, fuel⟩

def messageText : Value → Except Refusal (Option String)
  | .null => .ok none
  | .bytes .fixed _ | .bytes .growable _ => .error .noBytesLike
  | v =>
    match v.anyText? with
    | some s => .ok (some s)
    | none => .error (.unknownAttribute v.typeName "lower")

def signature : Signature where
  operation := "ExecutionOutcome.__init__"
  receiver := ["self"]
  required := []
  optional := ["exit_code", "trapped", "trap_reason", "trap_message", "fuel_consumed"]
  namedOnly := []
  takesOthers := false

def defaults : List (String × Value) :=
  [("exit_code", .int 0), ("trapped", .bool false), ("trap_reason", .null),
    ("trap_message", .null), ("fuel_consumed", .null)]

def parts (unnamed : List Value) (named : List (String × Value)) :
    Except Refusal (List (String × Value)) := do
  let (given, _) ← signature.accept unnamed named
  return Value.merge defaults given

end Outcome

end GuestRunner
