import GuestRunner.Processor.Alarm
import GuestRunner.Processor.Closing

/-!
# Invocations

An invocation takes a number, turns the payload into bytes, opens a sink, lets the backend run the
guest against it, drains both streams, releases the sink and decides what the outcome means: a trap
comes first, then output on the error stream where that counts as a failure, then an exit code other
than zero. Whatever fails after the start was reported is reported as well. An invocation goes step
by step, because other calls may act on the processor and its files between two steps. Runs that a
guest starts in its turn are handed to `again`.
-/

set_option autoImplicit false

namespace GuestRunner

structure Drained where
  outcome : Outcome
  output : Bytes
  stderr : Bytes

structure Job where
  id : Nat
  module : Option CompiledModule
  content : Bytes

inductive Call
  | admission (payload : Value)
  | fetching (id : Nat) (payload : Value)
  | intake (id : Nat) (module : Option CompiledModule) (payload : Value)
  | opening (job : Job)
  | clearing (job : Job) (sink : Sink) (stream : Stream)
  | starting (job : Job) (sink : Sink)
  | running (id : Nat) (sink : Sink) (acts : List Act) (ending : Except Problem Outcome)
  | draining (id : Nat) (sink : Sink) (outcome : Outcome)
  | drainingError (id : Nat) (sink : Sink) (outcome : Outcome) (output : Bytes)
  | releasing (id : Nat) (sink : Sink) (stream : Stream) (pending : Except Problem Drained)
  | settling (id : Nat) (pending : Except Problem Drained)
  | finished (result : Except Problem Result)

namespace Call

abbrev Again := Value → Scene → Except Problem Bytes × Scene

def trapText (message : Option String) : String :=
  "failed to call _start: " ++ message.getD "None"

/-- What an outcome and the error stream mean for an invocation. An exit code that counts as false
is zero. -/
def verdict (failOnStderr : Bool) (id : Nat) (d : Drained) : Except Failure Unit :=
  let code := if d.outcome.exitCode.isTrue then d.outcome.exitCode else .int 0
  if d.outcome.trapped then
    .error (.trapped (trapText d.outcome.trapMessage)
      (Value.ofOption .text d.outcome.trapReason) (Value.bytesOf d.stderr) (Value.ofNat id))
  else if !d.stderr.isEmpty && failOnStderr then
    .error (.guestReported d.stderr code (Value.ofNat id))
  else if code.isTrue then .error (.nonZeroExit code (Value.ofNat id))
  else .ok ()

def fuelOf (outcome : Outcome) : Except Problem (Option Int) :=
  (Result.readFuel outcome.fuelConsumed).mapError fun found =>
    .refusal (.defectiveResult found)

def resultOf (p : Processor) (elapsed : Binary64) (id : Nat) (d : Drained) (fuel : Option Int) :
    Result where
  output := d.output
  stderr := d.stderr
  exitCode := 0
  fuelConsumed := fuel
  duration := elapsed
  id := id
  metadata :=
    [("backend", .text p.backend.name), ("capture", .text p.settings.capture.label)]

def startEvent (p : Processor) (id : Nat) (content : Bytes) : Event :=
  .invocationStart (Value.ofNat id) (Value.ofNat content.length) (.text p.settings.capture.label) []

def failedEvent (elapsed : Binary64) (id : Nat) (f : Failure) : Event :=
  .invocationFailed f (.float elapsed) (Value.ofNat id)

def removeStreams (sink : Sink) (volume : Files.Volume) : Except OsError Unit × Files.Volume :=
  match sink with
  | .buffered .. => (.ok (), volume)
  | .files out err =>
    match volume.unlinkIfThere out with
    | (.ok (), volume) => volume.unlinkIfThere err
    | (.error e, volume) => (.error e, volume)

def blockStream (sink : Sink) (stream : Stream) (volume : Files.Volume) :
    Except OsError Unit × Files.Volume :=
  match sink with
  | .buffered .. => (.ok (), volume)
  | .files out err => volume.makeDirectory (Sink.pathOf out err stream)

def afterWriting (s : Scene) (r : Except OsError Unit × Sink × Files.Volume) :
    Except Problem Sink × Scene :=
  let (done, sink, volume) := r
  ((done.mapError Problem.os).map fun _ => sink, s.withVolume volume)

def write (sink : Sink) (stream : Stream) (chunk : Bytes) (s : Scene) :
    Except Problem Sink × Scene :=
  afterWriting s (sink.write stream chunk s.site.volume)

def perform (again : Again) (sink : Sink) : Act → Scene → Except Problem Sink × Scene
  | .write stream chunk, s => write sink stream chunk s
  | .writeAt stream position chunk, s =>
    afterWriting s (sink.writeAt stream position chunk s.site.volume)
  | .process stream payload, s =>
    match again payload s with
    | (.ok output, s) => write sink stream output s
    | (.error problem, s) => (.error problem, s)
  | .closeProcessor, s =>
    let (done, s) := s.close
    (done.map fun _ => sink, s)
  | .wait, s => (.ok sink, s.ring)
  | .removeStreams, s =>
    let (done, volume) := removeStreams sink s.site.volume
    ((done.mapError Problem.os).map fun _ => sink, s.withVolume volume)
  | .blockStream stream, s =>
    let (done, volume) := blockStream sink stream s.site.volume
    ((done.mapError Problem.os).map fun _ => sink, s.withVolume volume)

def settle (id : Nat) (pending : Except Problem Drained) (s : Scene) :
    Except Problem Result × Scene :=
  let judged : Except Problem Result := do
    let drained ← pending
    (verdict s.processor.settings.failOnStderr id drained).mapError Problem.failure
    return resultOf s.processor s.site.elapsed id drained (← fuelOf drained.outcome)
  match judged with
  | .ok result =>
    let (done, s) := s.emit (.invocationComplete result)
    (done.map fun _ => result, s)
  | .error (.failure f) =>
    let (done, s) := s.emit (failedEvent s.site.elapsed id f)
    (done.bind fun _ => .error (.failure f), s)
  | .error problem => (.error problem, s)

def advance (again : Again) : Call → Scene → Call × Scene
  | .admission payload, s =>
    if s.processor.closed then (.finished (.error (.failure .processorClosed)), s)
    else
      let accepted := s.processor.accepted + 1
      (.fetching accepted payload, { s with processor := { s.processor with accepted } })
  | .fetching id payload, s => (.intake id s.processor.module payload, s)
  | .intake id module payload, s =>
    match Payload.bytes payload with
    | .error refusal => (.finished (.error (.refusal refusal)), s)
    | .ok content =>
      match s.emit (startEvent s.processor id content) with
      | (.ok (), s) => (.opening ⟨id, module, content⟩, s)
      | (.error problem, s) => (.finished (.error problem), s)
  | .opening job, s =>
    let (sink, capture) := s.processor.capture.nextSink (Value.ofNat job.id)
    (.clearing job sink .stdout, { s with processor := { s.processor with capture } })
  | .clearing job sink stream, s =>
    let (done, volume) := sink.clear stream s.site.volume
    let s := s.withVolume volume
    match done, stream with
    | .error problem, _ => (.settling job.id (.error problem), s)
    | .ok (), .stdout => (.clearing job sink .stderr, s)
    | .ok (), .stderr => (.starting job sink, s.did (.openSink sink))
  | .starting job sink, s =>
    let p := s.processor
    let context :=
      Context.build (Value.ofNat job.id) job.content sink (.text p.settings.programName)
        (Context.texts p.settings.environment)
    let run := p.backend.run p.backendClosed job.module context s.site.volume
    (.running job.id sink run.acts run.ending, s.did (.run job.module context))
  | .running id sink [] ending, s =>
    match ending with
    | .ok outcome => (.draining id sink outcome, s)
    | .error problem => (.releasing id sink .stdout (.error problem), s.did (.release sink))
  | .running id sink (act :: rest) ending, s =>
    match perform again sink act s with
    | (.ok sink, s) => (.running id sink rest ending, s)
    | (.error problem, s) => (.releasing id sink .stdout (.error problem), s.did (.release sink))
  | .draining id sink outcome, s =>
    let (content, volume) := sink.drain .stdout s.site.volume
    let s := (s.withVolume volume).did (.drain sink .stdout)
    match content with
    | .ok output => (.drainingError id sink outcome output, s)
    | .error problem => (.releasing id sink .stdout (.error problem), s.did (.release sink))
  | .drainingError id sink outcome output, s =>
    let (content, volume) := sink.drain .stderr s.site.volume
    let s := ((s.withVolume volume).did (.drain sink .stderr)).did (.release sink)
    (.releasing id sink .stdout (content.map fun stderr => ⟨outcome, output, stderr⟩), s)
  | .releasing id sink stream pending, s =>
    let (done, sink, volume) := sink.discard stream s.site.volume
    let s := s.withVolume volume
    match done, stream with
    | .error e, _ => (.settling id (.error (.os e)), s)
    | .ok (), .stdout => (.releasing id sink .stderr pending, s)
    | .ok (), .stderr => (.settling id pending, s)
  | .settling id pending, s =>
    let (result, s) := settle id pending s
    (.finished result, s)
  | .finished result, s => (.finished result, s)

/-- One step, before which a deadline may pass. An invocation that has ended stays as it is. -/
def step (again : Again) : Call → Scene → Call × Scene
  | .finished result, s => (.finished result, s)
  | c, s => advance again c s.tick

def left : Call → Nat
  | .running _ _ acts _ => acts.length + 6
  | .finished _ => 0
  | _ => 5

def steps (again : Again) (n : Nat) (state : Call × Scene) : Call × Scene :=
  Nat.repeat (fun state => step again state.1 state.2) n state

def stepsBeforeRun : Nat := 7

def run (again : Again) (c : Call) (s : Scene) : Call × Scene :=
  let state := steps again stepsBeforeRun (c, s)
  steps again state.1.left state

def result : Call → Except Problem Result
  | .finished result => result
  | _ => .error (.refusal .tooDeep)

end Call

end GuestRunner
