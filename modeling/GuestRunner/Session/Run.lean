import GuestRunner.Backend.Engine
import GuestRunner.Session.Command
import GuestRunner.Wasm.Outline

/-!
# Sessions

A session starts on an almost empty volume and carries out commands one after the other. Objects are
kept under the names that commands give them. The answer to a command is a reply or what went wrong,
together with the records that were written to the journal meanwhile.
-/

set_option autoImplicit false

namespace GuestRunner

inductive Handle
  | scratch (s : Scratch)
  | capture (c : Capture)
  | sink (s : Sink)
  | processor (p : Processor) (isScripted : Bool)
  | backend (b : Backend) (settings : Settings) (closed : Bool)
  | module (m : CompiledModule)

inductive Reply
  | value (v : Value)
  /-- An invocation that came to an end. -/
  | result (r : Result)
  /-- Several invocations, with how many records of each name they left. -/
  | many (results : List (Except Problem Result)) (counts : List (String × Nat))

inductive Mishap
  /-- A command names an object that is not there. -/
  | noHandle
  /-- What went wrong, and how often a scripted backend was closed if one was made for nothing. -/
  | problem (p : Problem) (closings : Option Nat)

structure Session where
  site : Site
  handles : List (String × Handle)
  /-- Whether the last processor or backend asked for was one of the engine. -/
  onEngine : Bool

structure Answer where
  outcome : Except Mishap Reply
  records : List Record

namespace Session

abbrev Step := Except Mishap Reply × Session

def start (home : String) (files : List (String × Files.Content)) : Session :=
  let empty : Files.Volume :=
    { tree := Files.Tree.empty, home := [home], temporary := [home, "tmp"],
      schedule := Files.Schedule.quiet, namesTried := 0, tokensDrawn := 0 }
  let bare := { empty with tree := empty.tree.makeWay [] [home, "tmp"] }
  let volume := files.foldl (fun v (path, content) => (v.put (Path.ofText path) content).2) bare
  ⟨⟨volume, [], Binary64.zero⟩, [], false⟩

def find (s : Session) (name : String) : Option Handle := s.handles.lookup name

def keep (s : Session) (name : String) (h : Handle) : Session :=
  { s with handles := Value.insert name h s.handles }

def withVolume (s : Session) (volume : Files.Volume) : Session :=
  { s with site := { s.site with volume } }

def ok (v : Value) : Except Mishap Reply := .ok (.value v)

def failed {α : Type} (p : Problem) : Except Mishap α := .error (.problem p none)

def ofOs {α : Type} (r : Except OsError α) (f : α → Value) : Except Mishap Reply :=
  match r with
  | .ok a => ok (f a)
  | .error e => failed (.os e)

def ofProblem {α : Type} (r : Except Problem α) (f : α → Reply) : Except Mishap Reply :=
  match r with
  | .ok a => .ok (f a)
  | .error e => failed e

def nothing {α : Type} (_ : α) : Value := .null

def texts (items : List String) : Value := .list (items.map .text)

def named (fields : List (String × Value)) : Value :=
  .table (fields.map fun (name, v) => (.text name, v))

def noHandle (s : Session) : Step := (.error .noHandle, s)

def onVolume (s : Session) (act : Files.Volume → Except OsError Unit × Files.Volume) : Step :=
  let (done, volume) := act s.site.volume
  (ofOs done nothing, s.withVolume volume)

def onScratch (s : Session) (on : String) (act : Scratch → Step) : Step :=
  match s.find on with
  | some (.scratch scratch) => act scratch
  | _ => s.noHandle

def onCapture (s : Session) (on : String) (act : Capture → Step) : Step :=
  match s.find on with
  | some (.capture capture) => act capture
  | _ => s.noHandle

def onSink (s : Session) (on : String) (act : Sink → Step) : Step :=
  match s.find on with
  | some (.sink sink) => act sink
  | _ => s.noHandle

def onProcessor (s : Session) (on : String) (act : Processor → Bool → Step) : Step :=
  match s.find on with
  | some (.processor p isScripted) => act p isScripted
  | _ => s.noHandle

def inScene {α : Type} (s : Session) (on : String) (act : Scene → Except Problem α × Scene)
    (f : α → Reply) : Step :=
  s.onProcessor on fun p isScripted =>
    let (result, scene) := act (.calm p s.site)
    let s := { s with site := scene.site }
    (ofProblem result f, s.keep on (.processor scene.processor isScripted))

def told (r : Except OsError Value) : Except Mishap Reply := ofOs r id

def describeScratch (s : Session) (scratch : Scratch) : Except OsError Value := do
  return named [("path", .path scratch.path), ("owned", .bool scratch.owned),
    ("token", .text scratch.token), ("exists", .bool (← s.site.volume.probe scratch.path))]

def describeModule (m : CompiledModule) : Value :=
  .list [.text m.shown, m.size, .text m.digest]

def describe (s : Session) (p : Processor) (isScripted : Bool) : Except OsError Value := do
  let found ← match p.scratchDirectory with
    | none => pure []
    | some path => pure [("scratch_exists", Value.bool (← s.site.volume.probe path))]
  return named <|
    [("repr", .text p.shown), ("closed", .bool p.closed),
      ("scratch_dir", Value.ofOption .path p.scratchDirectory)] ++ found ++
    [("module", Value.ofOption describeModule p.module)] ++
    if isScripted then [("backend_closed", Value.ofNat p.backendClosings)] else []

def describeSink : Sink → Value
  | .buffered .. => named [("type", .text "BufferedSink")]
  | .files out err =>
    named [("type", .text "FileSink"), ("paths", .list [.path out, .path err])]

def captureType : CaptureKind → String
  | .buffered => "BufferedCapture"
  | .file => "FileCapture"

def eventName : Record → String
  | .structured _ subject _ | .called _ subject _ => subject.plain
  | .leveled _ message _ => message

def countInto (counts : List (String × Nat)) (name : String) : List (String × Nat) :=
  Value.insert name ((counts.lookup name).getD 0 + 1) counts

def counts (records : List Record) : List (String × Nat) :=
  (records.map eventName).foldl countInto []

def idOf : Except Problem Result → Option Int
  | .ok r => some r.id
  | .error (.failure f) => f.id.integer?
  | .error _ => none

def sortedIds (results : List (Except Problem Result)) : List Int :=
  (results.filterMap idOf).mergeSort

def backendFor : BackendChoice → Settings → Backend
  | .scripted script, _ => Scripted.backend script
  | .engine, settings => Engine.backend settings

def isScripted : BackendChoice → Bool
  | .scripted _ => true
  | .engine => false

def attempt (setup : Setup) (logger : Logger) (backend : Settings → Backend) (site : Site) :
    Attempt :=
  match setup with
  | .bytes wasm directory given =>
    match Settings.make given with
    | .error problem => .refused problem site
    | .ok settings => Processor.construct wasm directory settings logger backend site
  | .file path directory given =>
    match Settings.make given with
    | .error problem => .refused problem site
    | .ok settings =>
      match Value.pathText path with
      | .error refusal => .refused (.refusal refusal) site
      | .ok path => Processor.fromFile path directory settings logger backend site
  | .source text overrides => Processor.ofSettings (.file text) overrides logger backend site
  | .settings given overrides =>
    match Settings.make given with
    | .error problem => .refused problem site
    | .ok settings => Processor.ofSettings (.given settings) overrides logger backend site
  | .defaults overrides => Processor.ofSettings .default overrides logger backend site

def newProcessor (s : Session) (name : String) (setup : Setup) (choice : BackendChoice)
    (logger : Logger) : Step :=
  let scripted := isScripted choice
  let a := attempt setup logger (backendFor choice) s.site
  let s := { s with site := a.site, onEngine := !scripted }
  match a.outcome with
  | .ok p =>
    let s := s.keep name (.processor p scripted)
    (told (s.describe p scripted), s)
  | .error problem =>
    (.error (.problem problem
      (if scripted && a.reachedBackend then some a.backendClosings else none)), s)

def withSink (s : Session) (on : String) (ending : Value) (sink : Sink) : Step :=
  let (out, volume) := sink.drain .stdout s.site.volume
  let (err, volume) :=
    match out with
    | .ok _ => sink.drain .stderr volume
    | .error problem => (.error problem, volume)
  let inside : Except Mishap Reply :=
    match out, err with
    | .error problem, _ | .ok _, .error problem => failed problem
    | .ok out, .ok err =>
      if ending.isTrue then failed (.failure (.scratch (.stated ending.plain)))
      else ok (.list [.bool true, Value.bytesOf out, Value.bytesOf err])
  let (done, sink, volume) := sink.release volume
  let s := (s.withVolume volume).keep on (.sink sink)
  match done with
  | .ok () => (inside, s)
  | .error e => (failed (.os e), s)

def describeRun (outcome : Outcome) (out err : Bytes) : Value :=
  named [("exit_code", outcome.exitCode), ("trapped", .bool outcome.trapped),
    ("trap_reason", Value.ofOption .text outcome.trapReason),
    ("trap_message", .bool outcome.trapMessage.isSome),
    ("fuel_consumed", Value.ofOption (fun fuel => .bool (0 < fuel)) outcome.fuelConsumed.integer?),
    ("stdout", Value.bytesOf out), ("stderr", Value.bytesOf err)]

def runModule (s : Session) (b : Backend) (closed : Bool) (m : CompiledModule)
    (payload id programName : Value) (environment : List (Value × Value)) : Except Mishap Reply :=
  match Payload.decodable payload with
  | .error refusal => failed (.refusal refusal)
  | .ok content =>
    let context := Context.build id content (.buffered [] []) programName environment
    let run := b.run closed (some m) context s.site.volume
    match run.ending with
    | .error problem => failed problem
    | .ok outcome =>
      ok (describeRun outcome (Run.written .stdout run.acts) (Run.written .stderr run.acts))

/-- Compiles what a caller hands over. A text goes to the engine if it can be encoded; one that is a
module has no digest. -/
def compile (b : Backend) (closed : Bool) (wasm : Value) : Except Problem CompiledModule :=
  if closed then b.compile closed []
  else
    match wasm with
    | .bytes .fixed content | .bytes .growable content => b.compile closed content
    | v =>
      if !v.isTrue then b.compile closed []
      else
        match v with
        | .text s =>
          if Wasm.Outline.isModule s then .error (.refusal .noDigest)
          else .error (.failure (.compilation (.engine "malformed text")))
        | .brokenText s => .error (.refusal (.unencodableText s))
        | .capture _ | .engine _ => .error (.failure (.compilation (.engine "malformed text")))
        | _ => .error (.refusal .notModuleBytes)

def invokeMany (s : Session) (on : String) (payloads : List Value) (underDeadline : Bool) : Step :=
  s.onProcessor on fun p isScripted =>
    let one (scene : Scene) (payload : Value) : Except Problem Result × Scene :=
      if underDeadline then scene.invokeAsync payload .null none
      else scene.invoke payload
    let (results, scene) := payloads.foldl (fun (results, scene) payload =>
      let (result, scene) := one scene payload
      (results ++ [result], scene)) ([], Scene.calm p { s.site with journal := [] })
    (.ok (.many results (counts scene.site.journal)),
      { s with site := { scene.site with journal := s.site.journal } }.keep on
        (.processor scene.processor isScripted))

def perform (s : Session) : Command → Step
  | .write path content => s.onVolume (·.put (Path.ofText path) content)
  | .remove path => s.onVolume (·.remove (Path.ofText path))
  | .link path target => s.onVolume (·.link (Path.ofText path) target)
  | .read path => (ofOs (s.site.volume.readText path) Value.bytesOf, s)
  | .list path =>
    (ok (texts (s.site.volume.listing (Path.ofText (path.getD ".")))), s)
  | .fail call code count =>
    let v := s.site.volume
    (ok .null, s.withVolume { v with schedule := v.schedule.failing call code count })
  | .newScratch name directory =>
    match Scratch.directoryText directory with
    | .error refusal => (failed (.refusal refusal), s)
    | .ok directory =>
      let (created, volume) := Scratch.create directory s.site.volume
      let s := s.withVolume volume
      match created with
      | .ok scratch => (told (s.describeScratch scratch), s.keep name (.scratch scratch))
      | .error problem => (failed problem, s)
  | .streamPaths on label => s.onScratch on fun scratch =>
    let paths := [Stream.stdout, .stderr].map fun stream => .path (scratch.streamPath label stream)
    (ok (.list paths), s)
  | .scratchFiles on => s.onScratch on fun scratch =>
    let (files, volume) := scratch.files s.site.volume
    (ok (texts (Files.Volume.sorted (files.map Path.text))), s.withVolume volume)
  | .cleanup on => s.onScratch on fun scratch =>
    let (removed, volume) := scratch.cleanup s.site.volume
    (ofProblem removed fun path => .value (Value.ofOption .text path), s.withVolume volume)
  | .newCapture name strategy directory =>
    match Capture.kindOf strategy with
    | .error refusal => (failed (.refusal refusal), s)
    | .ok kind =>
      match kind, Scratch.directoryText directory with
      | .file, .error refusal => (failed (.refusal refusal), s)
      | kind, directory =>
        let (created, volume) := Capture.create kind (directory.toOption.getD none) s.site.volume
        let s := s.withVolume volume
        match created with
        | .error problem => (failed problem, s)
        | .ok capture =>
          (ok (named [("type", .text (captureType kind)), ("strategy", .capture kind)]),
            s.keep name (.capture capture))
  | .openSink on name id => s.onCapture on fun capture =>
    let (opened, capture, volume) := capture.openSink id s.site.volume
    let s := (s.withVolume volume).keep on (.capture capture)
    match opened with
    | .ok sink => (ok (describeSink sink), s.keep name (.sink sink))
    | .error problem => (failed problem, s)
  | .closeCapture on => s.onCapture on fun capture =>
    let (removed, volume) := capture.close s.site.volume
    (ofProblem removed fun path => .value (Value.ofOption .text path), s.withVolume volume)
  | .newSink name out err =>
    (ok .null, s.keep name (.sink (.files (Path.ofText out) (Path.ofText err))))
  | .prepare on => s.onSink on fun sink =>
    let (done, volume) := sink.prepare s.site.volume
    (ofProblem done fun _ => .value .null, s.withVolume volume)
  | .drain on stream => s.onSink on fun sink =>
    let (content, volume) := sink.drain stream s.site.volume
    (ofProblem content fun content => .value (Value.bytesOf content), s.withVolume volume)
  | .release on => s.onSink on fun sink =>
    let (done, sink, volume) := sink.release s.site.volume
    (ofOs done nothing, (s.withVolume volume).keep on (.sink sink))
  | .writeSink on stream chunk => s.onSink on fun sink =>
    let (done, sink, volume) := sink.write stream chunk s.site.volume
    (ofOs done nothing, (s.withVolume volume).keep on (.sink sink))
  | .withSink on ending => s.onSink on (s.withSink on ending)
  | .newProcessor name setup backend logger => s.newProcessor name setup backend logger
  | .state on => s.onProcessor on fun p isScripted => (told (s.describe p isScripted), s)
  | .settings on => s.onProcessor on fun p _ => (ok (named p.settings.fields), s)
  | .close on => s.inScene on Scene.close fun _ => .value .null
  | .invoke on payload => s.inScene on (Scene.invoke payload) .result
  | .process on payload =>
    s.inScene on (Scene.process payload) fun output => .value (Value.bytesOf output)
  | .processThenClose on payloads =>
    s.inScene on (Scene.processThenClose payloads) fun outputs =>
      .value (.list (.bool true :: outputs.map Value.bytesOf))
  | .invokeAsync on payload timeout outputOnly =>
    if outputOnly then
      s.inScene on (Scene.processAsync payload timeout none) fun output =>
        .value (Value.bytesOf output)
    else s.inScene on (Scene.invokeAsync payload timeout none) .result
  | .invokeMany on payloads underDeadline => s.invokeMany on payloads underDeadline
  | .newBackend name given engine =>
    let s := { s with onEngine := true }
    match Settings.make given, Backend.engineOf (engine.getD (.text EngineKind.wasmtime.label)) with
    | .error problem, _ => (failed problem, s)
    | .ok _, .error refusal => (failed (.refusal refusal), s)
    | .ok settings, .ok _ =>
      let b := Engine.backend settings
      (ok (texts ["WasmtimeBackend", b.name]), s.keep name (.backend b settings false))
  | .compile on name wasm =>
    match s.find on with
    | some (.backend b _ closed) =>
      match compile b closed wasm with
      | .ok m => (ok (describeModule m), s.keep name (.module m))
      | .error problem => (failed problem, s)
    | _ => s.noHandle
  | .runModule on module payload id programName environment =>
    match s.find on, s.find module with
    | some (.backend b _ closed), some (.module m) =>
      (s.runModule b closed m payload id programName environment, s)
    | _, _ => s.noHandle
  | .closeBackend on =>
    match s.find on with
    | some (.backend b settings _) => (ok .null, s.keep on (.backend b settings true))
    | _ => s.noHandle

def answer (s : Session) (c : Command) : Answer × Session :=
  let (outcome, s) := s.perform c
  (⟨outcome, s.site.journal⟩, { s with site := { s.site with journal := [] } })

end Session

end GuestRunner
