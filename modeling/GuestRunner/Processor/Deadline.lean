import GuestRunner.Processor.Invoke

/-!
# Deadlines

An invocation can be awaited with a deadline while a worker carries it out. A deadline that is over
at once keeps the worker from starting. One that passes later ends the waiting with a failure, but
not the worker, whose events follow. If the worker comes first, its answer is the answer; only an
error of the system that says itself that time is up is taken for the deadline.
-/

set_option autoImplicit false

namespace GuestRunner

namespace Deadline

/-- Deadlines are numbers of seconds; for those that are not positive time is up at once, and those
that are too large for a clock are refused. -/
def isOver : Value → Except Refusal Bool
  | .bool b => .ok !b
  | .int n =>
    if n ≤ 0 then .ok true
    else if (Binary64.ofInt n).isFinite then .ok false
    else .error .numberTooLarge
  | .float x => .ok (match x with
    | .nan => false
    | x => !x.isPositive)
  | v => .error (.noOrder v.typeName)

def isTimeUp : Except Problem Result → Bool
  | .error (.os e) => e.isTimedOut
  | _ => false

def effective (given : Value) (settings : Settings) : Value :=
  match given with
  | .null => Value.ofOption .float settings.timeoutSeconds
  | given => given

end Deadline

namespace Scene

def passed (deadline : Value) (s : Scene) : Except Problem Result × Scene :=
  let (problem, s) := s.expire deadline
  (.error problem, s)

def awaited (deadline : Value) (result : Except Problem Result) (s : Scene) :
    Except Problem Result × Scene :=
  let calm := { s with alarm := .off }
  match s.alarm with
  | .rung problem => (.error problem, calm)
  | _ => if Deadline.isTimeUp result then calm.passed deadline else (result, calm)

def invokeUnder (deadline : Value) (steps : Option Nat) (payload : Value) (s : Scene) :
    Except Problem Result × Scene :=
  match Deadline.isOver deadline with
  | .error refusal => (.error (.refusal refusal), s)
  | .ok true => s.passed deadline
  | .ok false =>
    let (result, s) := invoke payload { s with alarm := .set deadline steps }
    s.awaited deadline result

def invokeAsync (payload given : Value) (steps : Option Nat) (s : Scene) :
    Except Problem Result × Scene :=
  match Deadline.effective given s.processor.settings with
  | .null => invoke payload s
  | deadline => invokeUnder deadline steps payload s

def processAsync (payload given : Value) (steps : Option Nat) (s : Scene) :
    Except Problem Bytes × Scene :=
  outputOnly (invokeAsync payload given steps s)

end Scene

end GuestRunner
