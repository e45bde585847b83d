import GuestRunner.Processor.Invoke
import GuestRunner.Settings.Loading

/-!
# Setting up a processor

A processor is made from the bytes of a module: the backend is chosen, the module compiled once and
the capture set up. When compilation or capture fail, the backend is closed again and nothing stays
behind. The module can also be read from a file, which settings can name.
-/

set_option autoImplicit false

namespace GuestRunner

structure Attempt where
  outcome : Except Problem Processor
  deeds : List Deed
  /-- Whether there was a backend at all. -/
  reachedBackend : Bool
  site : Site

namespace Attempt

def refused (problem : Problem) (site : Site) : Attempt := ⟨.error problem, [], false, site⟩

def backendClosings (a : Attempt) : Nat := (a.deeds.filter Deed.isCloseBackend).length

end Attempt

namespace Processor

def moduleBytes : Value → Except Failure Bytes
  | .bytes _ content => .ok content
  | v => .error (.compilation (.notBytes v.typeName))

def compiledEvent (backend : Backend) (m : CompiledModule) (elapsed : Binary64) : Event :=
  .moduleCompiled (.text backend.name) m.size (.text m.digest) (.float elapsed)

def scratchEvent (scratch : Scratch) : Event :=
  .scratchCreated (.text (Event.clipPath scratch.path.text)) (.bool scratch.owned)

def fresh (settings : Settings) (logger : Logger) (backend : Backend) (m : CompiledModule)
    (capture : Capture) (deeds : List Deed) : Processor where
  settings := settings
  logger := logger
  backend := backend
  module := some m
  capture := capture
  accepted := 0
  closed := false
  deeds := deeds

def reportScratch (p : Processor) (site : Site) : Except Problem Unit × Site :=
  match p.capture with
  | .buffered => (.ok (), site)
  | .files scratch _ => site.record p.logger (scratchEvent scratch)

def attachCapture (settings : Settings) (logger : Logger) (backend : Backend) (m : CompiledModule)
    (deeds : List Deed) (site : Site) : Attempt :=
  match Capture.create settings.capture settings.scratchDirectory site.volume with
  | (.error problem, volume) =>
    ⟨.error problem, deeds ++ [.closeBackend], true, { site with volume }⟩
  | (.ok capture, volume) =>
    let p := fresh settings logger backend m capture deeds
    let (done, site) := p.reportScratch { site with volume }
    ⟨done.map fun _ => p, deeds, true, site⟩

def compileAndAttach (settings : Settings) (logger : Logger) (backend : Backend) (content : Bytes)
    (site : Site) : Attempt :=
  let deeds := [.compile content]
  match backend.compile false content with
  | .error problem =>
    let closing :=
      match problem with
      | .failure (.compilation _) => [Deed.closeBackend]
      | _ => []
    ⟨.error problem, deeds ++ closing, true, site⟩
  | .ok m =>
    match site.record logger (compiledEvent backend m site.elapsed) with
    | (.error problem, site) => ⟨.error problem, deeds, true, site⟩
    | (.ok (), site) => attachCapture settings logger backend m deeds site

def directoryGiven : Value → Option String
  | .null => none
  | v => some v.plain

def withDirectory (settings : Settings) (directory : Option String) : Settings :=
  match directory with
  | none => settings
  | some path => { settings with scratchDirectory := some path }

def construct (wasm : Value) (directory : Option String) (settings : Settings) (logger : Logger)
    (backend : Settings → Backend) (site : Site) : Attempt :=
  let settings := withDirectory settings directory
  match moduleBytes wasm with
  | .error f => .refused (.failure f) site
  | .ok content => compileAndAttach settings logger (backend settings) content site

def readModule (path : String) (site : Site) : Except Problem Bytes :=
  (site.volume.read (Path.ofText path)).mapError Problem.os

def fromFile (path : String) (directory : Option String) (settings : Settings) (logger : Logger)
    (backend : Settings → Backend) (site : Site) : Attempt :=
  match readModule path site with
  | .error problem => .refused problem site
  | .ok content => construct (Value.bytesOf content) directory settings logger backend site

inductive Source
  | default
  | file (path : String)
  | given (settings : Settings)

def settingsOf (source : Source) (site : Site) : Except Problem Settings :=
  match source with
  | .default => Settings.make []
  | .file path => Settings.load site.volume path
  | .given settings => .ok settings

def overridden (settings : Settings) (overrides : Settings.Fields) : Except Problem Settings :=
  if overrides.isEmpty then .ok settings
  else Settings.make (Value.merge settings.fields overrides)

def modulePath (settings : Settings) : Except Problem String :=
  match settings.path.filter (· ≠ "") with
  | some path => .ok path
  | none => .error (.failure (.settings .noModulePath))

def ofSettings (source : Source) (overrides : Settings.Fields) (logger : Logger)
    (backend : Settings → Backend) (site : Site) : Attempt :=
  let plan : Except Problem (Settings × String) := do
    let settings ← overridden (← settingsOf source site) overrides
    return (settings, ← modulePath settings)
  match plan with
  | .error problem => .refused problem site
  | .ok (settings, path) => fromFile path none settings logger backend site

end Processor

end GuestRunner
