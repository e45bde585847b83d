import GuestRunner.Backend.Basic
import GuestRunner.Capture.Basic
import GuestRunner.Journal.Logger

/-!
# Processors

A processor holds one compiled module and runs it once for every payload. It works on a site: the
files, the journal that its logger writes to, and a stopwatch. What it asks of its backend and of
its sinks is kept as a list of deeds, so that anybody can see that nothing is done twice or
forgotten.
-/

set_option autoImplicit false

namespace GuestRunner

inductive Deed
  | compile (content : Bytes)
  | openSink (sink : Sink)
  | run (module : Option CompiledModule) (context : Context)
  | drain (sink : Sink) (stream : Stream)
  | release (sink : Sink)
  | closeCapture
  | closeBackend
  deriving Repr

def Deed.isCloseBackend : Deed → Bool
  | .closeBackend => true
  | _ => false

structure Site where
  volume : Files.Volume
  journal : List Record
  /-- What the stopwatch shows when it is read. -/
  elapsed : Binary64

structure Processor where
  settings : Settings
  logger : Logger
  backend : Backend
  module : Option CompiledModule
  capture : Capture
  /-- How many invocations were accepted. -/
  accepted : Nat
  closed : Bool
  deeds : List Deed

inductive Alarm
  | off
  /-- The deadline passes when a guest waits, or after a number of steps. -/
  | set (deadline : Value) (steps : Option Nat)
  /-- The deadline has passed, with this answer for whoever awaits. -/
  | rung (problem : Problem)

/-- A processor and the site it works on, and the alarm that goes off while it works. -/
structure Scene where
  processor : Processor
  site : Site
  alarm : Alarm

namespace Site

def record (site : Site) (logger : Logger) (event : Event) : Except Problem Unit × Site :=
  match logger.record event.emission with
  | .ok records => (.ok (), { site with journal := site.journal ++ records })
  | .error refusal => (.error (.refusal refusal), site)

end Site

namespace Processor

def backendClosings (p : Processor) : Nat := (p.deeds.filter Deed.isCloseBackend).length

def backendClosed (p : Processor) : Bool := p.deeds.any Deed.isCloseBackend

def scratchDirectory (p : Processor) : Option Path := p.capture.scratch?.map (·.path)

def shown (p : Processor) : String :=
  "WasiProcessor(backend=" ++ p.backend.name ++ ", capture=" ++ p.settings.capture.label ++ ", " ++
    (if p.closed then "closed" else "open") ++ ")"

def did (p : Processor) (deed : Deed) : Processor := { p with deeds := p.deeds ++ [deed] }

end Processor

namespace Scene

def calm (processor : Processor) (site : Site) : Scene := ⟨processor, site, .off⟩

def emit (s : Scene) (event : Event) : Except Problem Unit × Scene :=
  let (done, site) := s.site.record s.processor.logger event
  (done, { s with site })

def withVolume (s : Scene) (volume : Files.Volume) : Scene :=
  { s with site := { s.site with volume } }

def did (s : Scene) (deed : Deed) : Scene := { s with processor := s.processor.did deed }

end Scene

end GuestRunner
