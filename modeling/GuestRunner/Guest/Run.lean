import GuestRunner.Guest.CompiledModule
import GuestRunner.Guest.Outcome
import GuestRunner.Invocation.Context

/-!
# Runs of guests

To the runner, a run is what the guest does to the outside, in order, and how it ends: with an
outcome, or with a problem of the engine. Most of what a guest does is writing. Guests that are
under the control of the caller can also start another run, close their own processor, wait, and
disturb their stream files.
-/

set_option autoImplicit false

namespace GuestRunner

inductive Act
  /-- Writes behind what the stream has. -/
  | write (stream : Stream) (chunk : Bytes)
  /-- Writes over what the file of the stream has at a position. -/
  | writeAt (stream : Stream) (position : Nat) (chunk : Bytes)
  | process (stream : Stream) (payload : Value)
  | closeProcessor
  | wait
  | removeStreams
  | blockStream (stream : Stream)
  deriving Repr

structure Run where
  acts : List Act
  ending : Except Problem Outcome

namespace Run

def failing (problem : Problem) : Run := ⟨[], .error problem⟩

def written (stream : Stream) : List Act → Bytes
  | [] => []
  | .write s chunk :: rest =>
    if s = stream then chunk ++ written stream rest else written stream rest
  | _ :: rest => written stream rest

end Run

end GuestRunner
