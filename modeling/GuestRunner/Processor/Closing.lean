import GuestRunner.Processor.Basic

/-!
# Closing a processor

The first call that finds the processor open closes it: it releases the capture, then the backend
and the module, also when the capture cannot be released, and reports what was removed. Every other
call does nothing. Only the test of the flag and its change are one step; between the others anybody
may act.
-/

set_option autoImplicit false

namespace GuestRunner

inductive Closing
  | request
  | detaching
  | cleaning (scratch : Scratch) (c : Cleanup)
  | shutting (removed : Except Problem (Option String))
  | dropping (removed : Except Problem (Option String))
  | reporting (removed : Option String)
  | finished (result : Except Problem Unit)

namespace Closing

def closedEvent (removed : Option String) (accepted : Nat) : Event :=
  .processorClosed (Value.ofOption (fun path => .text (Event.clipPath path)) removed)
    (Value.ofNat accepted)

def step : Closing → Scene → Closing × Scene
  | .request, s =>
    if s.processor.closed then (.finished (.ok ()), s)
    else (.detaching, { s with processor := { s.processor with closed := true } })
  | .detaching, s =>
    let s := s.did .closeCapture
    match s.processor.capture with
    | .buffered => (.shutting (.ok none), s)
    | .files scratch _ => (.cleaning scratch (.start scratch), s)
  | .cleaning _ (.finished removed), s => (.shutting removed, s)
  | .cleaning scratch c, s =>
    let (c, volume) := c.step scratch s.site.volume
    (.cleaning scratch c, s.withVolume volume)
  | .shutting removed, s => (.dropping removed, s.did .closeBackend)
  | .dropping removed, s =>
    let s := { s with processor := { s.processor with module := none } }
    match removed with
    | .ok path => (.reporting path, s)
    | .error problem => (.finished (.error problem), s)
  | .reporting removed, s =>
    let (done, s) := s.emit (closedEvent removed s.processor.accepted)
    (.finished done, s)
  | .finished result, s => (.finished result, s)

def left : Closing → Nat
  | .cleaning _ c => c.left + 4
  | .finished _ => 0
  | _ => 3

def steps (n : Nat) (state : Closing × Scene) : Closing × Scene :=
  Nat.repeat (fun state => step state.1 state.2) n state

def run (c : Closing) (s : Scene) : Closing × Scene :=
  let state := steps 3 (c, s)
  steps state.1.left state

def result : Closing → Except Problem Unit
  | .finished result => result
  | _ => .ok ()

end Closing

def Scene.close (s : Scene) : Except Problem Unit × Scene :=
  let (c, s) := Closing.run .request s
  (c.result, s)

end GuestRunner
