import GuestRunner.Processor.Basic

/-!
# Alarms

An alarm rings at most once, when the deadline passes under which somebody awaits an invocation:
before one of the steps of the worker, or while a guest waits. It reports the failure and keeps it
as the answer. The worker goes on in any case.
-/

set_option autoImplicit false

namespace GuestRunner

namespace Deadline

def perSecond : Nat := 1000

def inMilliseconds : Value → Value
  | .bool b => .int (if b then perSecond else 0)
  | .int n => .int (n * perSecond)
  | .float x => .float (Binary64.timesNat perSecond x)
  | v => v

end Deadline

namespace Scene

def expire (deadline : Value) (s : Scene) : Problem × Scene :=
  let failure : Failure := .timedOut deadline .null
  match s.emit (.invocationFailed failure (Deadline.inMilliseconds deadline) .null) with
  | (.ok (), s) => (.failure failure, s)
  | (.error problem, s) => (problem, s)

def ring (s : Scene) : Scene :=
  match s.alarm with
  | .set deadline _ =>
    let (problem, s) := s.expire deadline
    { s with alarm := .rung problem }
  | _ => s

def tick (s : Scene) : Scene :=
  match s.alarm with
  | .set _ (some 0) => s.ring
  | .set deadline (some (steps + 1)) => { s with alarm := .set deadline (some steps) }
  | _ => s

end Scene

end GuestRunner
