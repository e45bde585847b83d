import GuestRunner.Proofs.Processor.Origin
import GuestRunner.Proofs.Processor.Relogging
import GuestRunner.Session.Run

/-!
# Sessions with another logger

What a session keeps of a logger are the loggers of its processors and the journal. Most commands
look at neither. Those that do let a processor act or set one up, and what is then reported is the
same whoever listens.
-/

set_option autoImplicit false

namespace GuestRunner

def Attempt.relogged (a : Attempt) (logger : Logger) (journal : List Record) : Attempt :=
  { a with outcome := a.outcome.map (·.under logger), site := { a.site with journal } }

namespace Attempt

abbrev Reports (f : Logger → Site → Attempt) (site : Site) (a : Attempt) (events : List Event) :
    Prop :=
  HeardByAll (fun logger journal journal' =>
    f logger { site with journal } = a.relogged logger journal') events

def LoggerFree (f : Logger → Site → Attempt) : Prop := ∀ site, ∃ a events, Reports f site a events

theorem LoggerFree.refused (problem : Problem) :
    LoggerFree fun _ site => Attempt.refused problem site := fun site =>
  ⟨.refused problem site, [], .silent fun _ _ => rfl⟩

end Attempt

open Attempt

namespace Processor

theorem attachCapture_loggerFree (settings : Settings) (backend : Backend) (m : CompiledModule)
    (deeds : List Deed) :
    Attempt.LoggerFree fun logger site => attachCapture settings logger backend m deeds site := by
  intro site
  obtain ⟨⟨created, v⟩, hc⟩ :
      ∃ r, Capture.create settings.capture settings.scratchDirectory site.volume = r := ⟨_, rfl⟩
  rcases created with problem | capture
  · refine ⟨⟨.error problem, deeds ++ [.closeBackend], true, { site with volume := v }⟩, [],
      .silent fun _ _ => ?_⟩
    simp only [attachCapture, hc]
    rfl
  · let p := fresh settings .structured backend m capture deeds
    refine ⟨⟨.ok p, deeds, true, { site with volume := v }⟩,
      (capture.scratch?.map scratchEvent).toList, ?_, fun logger journal hu => ?_⟩
    · intro e he
      obtain ⟨scratch, -, rfl⟩ := Option.map_eq_some_iff.mp (Option.mem_toList.mp he)
      exact scratchEvent_plain scratch
    · have hr := reportScratch_usable (p := p.under logger) hu { site with volume := v, journal }
      simp only [attachCapture, hc]
      rw [show fresh settings logger backend m capture deeds = p.under logger from rfl, hr]
      rfl

theorem compileAndAttach_loggerFree (settings : Settings) (backend : Backend) (content : Bytes) :
    Attempt.LoggerFree fun logger site =>
      compileAndAttach settings logger backend content site := by
  intro site
  cases hc : backend.compile false content with
  | error problem =>
    refine ⟨compileAndAttach settings .structured backend content site, [],
      .silent fun _ _ => ?_⟩
    simp only [compileAndAttach, hc]
    rfl
  | ok m =>
    obtain ⟨a, events, h⟩ := attachCapture_loggerFree settings backend m [.compile content] site
    refine ⟨a, compiledEvent backend m site.elapsed :: events,
      List.forall_mem_cons.mpr ⟨compiledEvent_plain _ _ _, h.plain⟩, fun logger journal hu => ?_⟩
    have he : attachCapture settings logger backend m [.compile content]
        { site with journal := journal ++ logger.heard [compiledEvent backend m site.elapsed] } =
        a.relogged logger _ :=
      h.told logger (journal ++ logger.heard [compiledEvent backend m site.elapsed]) hu
    simp only [compileAndAttach, hc, Site.record,
      Logger.record_plain hu (compiledEvent_plain backend m site.elapsed)]
    rw [he, List.append_assoc, ← Logger.heard_cons]

theorem construct_loggerFree (wasm : Value) (directory : Option String) (settings : Settings)
    (backend : Settings → Backend) :
    Attempt.LoggerFree fun logger site =>
      construct wasm directory settings logger backend site := by
  unfold construct
  cases moduleBytes wasm with
  | error f => exact .refused (.failure f)
  | ok content => exact compileAndAttach_loggerFree _ _ content

theorem fromFile_loggerFree (path : String) (directory : Option String) (settings : Settings)
    (backend : Settings → Backend) :
    Attempt.LoggerFree fun logger site =>
      fromFile path directory settings logger backend site := by
  intro site
  -- The site has the module, and it is the same one under every journal.
  cases hm : readModule path site with
  | error problem =>
    refine ⟨.refused problem site, [], .silent fun _ journal => ?_⟩
    have hm' : readModule path { site with journal } = .error problem := hm
    simp only [fromFile, hm']
    rfl
  | ok content =>
    obtain ⟨a, events, h⟩ :=
      construct_loggerFree (Value.bytesOf content) directory settings backend site
    refine ⟨a, events, h.plain, fun logger journal hu => ?_⟩
    have hm' : readModule path { site with journal } = .ok content := hm
    rw [← h.told logger journal hu]
    simp only [fromFile, hm']

theorem ofSettings_loggerFree (source : Source) (overrides : Settings.Fields)
    (backend : Settings → Backend) :
    Attempt.LoggerFree fun logger site => ofSettings source overrides logger backend site := by
  intro site
  obtain ⟨plan, hplan⟩ : ∃ plan, (do
      let settings ← overridden (← settingsOf source site) overrides
      return (settings, ← modulePath settings) : Except Problem (Settings × String)) = plan :=
    ⟨_, rfl⟩
  have hsame : ∀ journal, settingsOf source { site with journal } = settingsOf source site :=
    fun _ => rfl
  cases plan with
  | error problem =>
    refine ⟨.refused problem site, [], .silent fun _ journal => ?_⟩
    simp only [ofSettings, hsame, hplan]
    rfl
  | ok found =>
    obtain ⟨a, events, h⟩ := fromFile_loggerFree found.2 none found.1 backend site
    refine ⟨a, events, h.plain, fun logger journal hu => ?_⟩
    rw [← h.told logger journal hu]
    simp only [ofSettings, hsame, hplan]

end Processor

def Handle.under (h : Handle) (logger : Logger) : Handle :=
  match h with
  | .processor p isScripted => .processor (p.under logger) isScripted
  | h => h

def Command.under (c : Command) (logger : Logger) : Command :=
  match c with
  | .newProcessor name setup backend _ => .newProcessor name setup backend logger
  | c => c

def Command.isQuiet : Command → Bool
  | .newProcessor .. | .close .. | .invoke .. | .process .. | .processThenClose ..
  | .invokeAsync .. | .invokeMany .. => false
  | _ => true

namespace Session

theorem attempt_loggerFree (setup : Setup) (backend : Settings → Backend) :
    Attempt.LoggerFree fun logger site => attempt setup logger backend site := by
  unfold attempt
  cases setup with
  | bytes wasm directory given =>
    dsimp only
    split
    · exact .refused _
    · exact Processor.construct_loggerFree _ _ _ _
  | file path directory given =>
    dsimp only
    split
    · exact .refused _
    · split
      · exact .refused _
      · exact Processor.fromFile_loggerFree _ _ _ _
  | source text overrides => exact Processor.ofSettings_loggerFree _ _ _
  | settings given overrides =>
    dsimp only
    split
    · exact .refused _
    · exact Processor.ofSettings_loggerFree _ _ _
  | defaults overrides => exact Processor.ofSettings_loggerFree _ _ _

def relogged (s : Session) (logger : Logger) (journal : List Record) : Session :=
  { s with
    site := { s.site with journal }
    handles := s.handles.map fun (name, h) => (name, h.under logger) }

variable {logger : Logger} {journal : List Record} {s : Session} {on : String}

theorem find_relogged (name : String) :
    (s.relogged logger journal).find name = (s.find name).map (·.under logger) := by
  show List.lookup name (s.handles.map _) = (List.lookup name s.handles).map _
  induction s.handles with
  | nil => rfl
  | cons entry rest ih =>
    obtain ⟨other, h⟩ := entry
    simp only [List.map_cons, List.lookup_cons, ih]
    cases name == other <;> rfl

theorem keep_relogged (name : String) (h : Handle) :
    (s.relogged logger journal).keep name (h.under logger) =
      (s.keep name h).relogged logger journal := by
  have hi : ∀ handles : List (String × Handle),
      Value.insert name (h.under logger) (handles.map fun (name, h) => (name, h.under logger)) =
        (Value.insert name h handles).map fun (name, h) => (name, h.under logger) := by
    intro handles
    induction handles with
    | nil => rfl
    | cons entry rest ih =>
      obtain ⟨other, kept⟩ := entry
      by_cases he : other = name <;> simp [Value.insert, he, ih]
  simp only [keep, relogged, hi]

def Step.relogged (r : Step) (logger : Logger) (journal : List Record) : Step :=
  (r.1, r.2.relogged logger journal)

theorem keep_step (outcome : Except Mishap Reply) (s : Session) (name : String) (h : Handle) :
    (outcome, (s.relogged logger journal).keep name (h.under logger)) =
      Step.relogged (outcome, s.keep name h) logger journal :=
  congrArg (Prod.mk outcome) (keep_relogged name h)

theorem onScratch_relogged {act act' : Scratch → Step}
    (h : ∀ scratch, act' scratch = Step.relogged (act scratch) logger journal) :
    (s.relogged logger journal).onScratch on act' =
      Step.relogged (s.onScratch on act) logger journal := by
  unfold onScratch
  rw [find_relogged]
  cases s.find on with
  | none => rfl
  | some handle =>
    cases handle with
    | scratch scratch => exact h scratch
    | _ => rfl

theorem onCapture_relogged {act act' : Capture → Step}
    (h : ∀ capture, act' capture = Step.relogged (act capture) logger journal) :
    (s.relogged logger journal).onCapture on act' =
      Step.relogged (s.onCapture on act) logger journal := by
  unfold onCapture
  rw [find_relogged]
  cases s.find on with
  | none => rfl
  | some handle =>
    cases handle with
    | capture capture => exact h capture
    | _ => rfl

theorem onSink_relogged {act act' : Sink → Step}
    (h : ∀ sink, act' sink = Step.relogged (act sink) logger journal) :
    (s.relogged logger journal).onSink on act' =
      Step.relogged (s.onSink on act) logger journal := by
  unfold onSink
  rw [find_relogged]
  cases s.find on with
  | none => rfl
  | some handle =>
    cases handle with
    | sink sink => exact h sink
    | _ => rfl

theorem onProcessor_relogged {act act' : Processor → Bool → Step}
    (h : ∀ p isScripted,
      act' (p.under logger) isScripted = Step.relogged (act p isScripted) logger journal) :
    (s.relogged logger journal).onProcessor on act' =
      Step.relogged (s.onProcessor on act) logger journal := by
  unfold onProcessor
  rw [find_relogged]
  cases s.find on with
  | none => rfl
  | some handle =>
    cases handle with
    | processor p isScripted => exact h p isScripted
    | _ => rfl

theorem withSink_relogged (ending : Value) (sink : Sink) :
    (s.relogged logger journal).withSink on ending sink =
      Step.relogged (s.withSink on ending sink) logger journal := by
  unfold withSink
  dsimp only
  rw [show (s.relogged logger journal).site.volume = s.site.volume from rfl]
  split
  · exact keep_step _ (s.withVolume _) on (.sink _)
  · exact keep_step _ (s.withVolume _) on (.sink _)

theorem perform_quiet {c : Command} (hc : c.isQuiet = true) :
    (s.relogged logger journal).perform (c.under logger) =
      Step.relogged (s.perform c) logger journal := by
  have hv : (s.relogged logger journal).site.volume = s.site.volume := rfl
  cases c with
  | newScratch name directory =>
    simp only [perform, Command.under]
    cases Scratch.directoryText directory with
    | error refusal => rfl
    | ok directory =>
      dsimp only
      rw [hv]
      split
      · exact keep_step _ (s.withVolume _) name (.scratch _)
      · rfl
  | streamPaths on label => exact onScratch_relogged fun _ => rfl
  | scratchFiles on => exact onScratch_relogged fun _ => rfl
  | cleanup on => exact onScratch_relogged fun _ => rfl
  | newCapture name strategy directory =>
    simp only [perform, Command.under]
    cases Capture.kindOf strategy with
    | error refusal => rfl
    | ok kind =>
      dsimp only
      split
      · rfl
      · rw [hv]
        split
        · rfl
        · exact keep_step _ (s.withVolume _) name (.capture _)
  | openSink on name id =>
    refine onCapture_relogged fun capture => ?_
    dsimp only
    rw [hv]
    obtain ⟨opened, capture', v⟩ := capture.openSink id s.site.volume
    have hk : ((s.relogged logger journal).withVolume v).keep on (.capture capture') =
        ((s.withVolume v).keep on (.capture capture')).relogged logger journal :=
      keep_relogged (s := s.withVolume v) on (.capture capture')
    rw [hk]
    cases opened with
    | ok sink => exact keep_step _ _ name (.sink sink)
    | error problem => rfl
  | closeCapture on => exact onCapture_relogged fun _ => rfl
  | newSink name out err =>
    exact keep_step _ s name (.sink (.files (Path.ofText out) (Path.ofText err)))
  | prepare on => exact onSink_relogged fun _ => rfl
  | drain on stream => exact onSink_relogged fun _ => rfl
  | release on =>
    refine onSink_relogged fun sink => ?_
    exact keep_step _ (s.withVolume (sink.release s.site.volume).2.2) on (.sink _)
  | writeSink on stream chunk =>
    refine onSink_relogged fun sink => ?_
    exact keep_step _ (s.withVolume (sink.write stream chunk s.site.volume).2.2) on (.sink _)
  | withSink on ending => exact onSink_relogged fun sink => withSink_relogged ending sink
  | newProcessor | close | invoke | process | processThenClose | invokeAsync | invokeMany =>
    cases hc
  | state on => exact onProcessor_relogged fun _ _ => rfl
  | settings on => exact onProcessor_relogged fun _ _ => rfl
  | newBackend name given engine =>
    simp only [perform, Command.under]
    cases Settings.make given with
    | error problem => rfl
    | ok settings =>
      cases Backend.engineOf (engine.getD (.text EngineKind.wasmtime.label)) with
      | error refusal => rfl
      | ok kind =>
        exact keep_step _ { s with onEngine := true } name
          (.backend (Engine.backend settings) settings false)
  | compile on name wasm =>
    simp only [perform, Command.under, find_relogged]
    cases s.find on with
    | none => rfl
    | some handle =>
      cases handle with
      | backend b settings closed =>
        dsimp only [Option.map_some, Handle.under]
        cases compile b closed wasm with
        | ok m => exact keep_step _ s name (.module m)
        | error problem => rfl
      | _ => rfl
  | runModule on module payload id programName environment =>
    simp only [perform, Command.under, find_relogged]
    cases s.find on with
    | none => rfl
    | some handle =>
      cases handle with
      | backend b settings closed =>
        cases s.find module with
        | none => rfl
        | some handle => cases handle <;> rfl
      | _ => rfl
  | closeBackend on =>
    simp only [perform, Command.under, find_relogged]
    cases s.find on with
    | none => rfl
    | some handle =>
      cases handle with
      | backend b settings closed => exact keep_step _ s on (.backend b settings true)
      | _ => rfl
  | _ => rfl

end Session

end GuestRunner
