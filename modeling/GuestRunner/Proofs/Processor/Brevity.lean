import GuestRunner.Proofs.Processor.Frame
import GuestRunner.Proofs.Processor.Origin
import GuestRunner.Proofs.Processor.Reportable

/-!
# Journals that nobody can flood

However much a guest writes, whatever an engine says about a trap, and however long the path of the
scratch directory is, each event of a processor is brief: of the text of a failure it has the first
two hundred characters, and of a path a hundred and forty at most. If the backend classifies its
traps, the rest of what is reported about invocations is numbers and words of the runner.
-/

set_option autoImplicit false

namespace GuestRunner

open Scene

def Alarm.Keeps (P : Value → Prop) : Alarm → Prop
  | .set deadline _ => P deadline
  | _ => True

theorem Alarm.Passing.keeps {P : Value → Prop} {a b : Alarm} {deadlines : List Value}
    (h : a.Passing b deadlines) (ha : a.Keeps P) : b.Keeps P := by
  cases h with
  | still a => exact ha
  | nearer deadline steps steps' => exact ha
  | rung deadline steps => trivial

namespace Deadline

theorem isOver_measured {v : Value} {late : Bool} (h : isOver v = .ok late) : v.Measured := by
  cases v with
  | bool b => trivial
  | int n => trivial
  | float x => trivial
  | _ => cases h

theorem inMilliseconds_measured {v : Value} (h : v.Measured) : (inMilliseconds v).Measured := by
  cases v with
  | null | bool b | int n | float x => trivial
  | _ => exact h.elim

end Deadline

namespace Site

theorem record_heard (site : Site) (logger : Logger) {event : Event}
    (hs : event.severity = Severity.info) (he : event.Plain) :
    ∃ events, (site.record logger event).2.journal = site.journal ++ logger.heard events ∧
      ∀ e ∈ events, e = event := by
  unfold record
  split <;> rename_i h
  · rename_i records
    have hr := Logger.record_plain (Logger.usable_of_record hs h) he
    rw [hr] at h
    cases h
    exact ⟨[event], rfl, fun e he => List.mem_singleton.mp he⟩
  · exact ⟨[], by rw [Logger.heard_nil, List.append_nil], nofun⟩

theorem record_refused {site : Site} {logger : Logger} {event : Event} {problem : Problem}
    (h : (site.record logger event).1 = .error problem) : (site.record logger event).2 = site := by
  unfold record at h ⊢
  split at h
  · cases h
  · rfl

end Site

namespace Processor

variable {wasm : Value} {directory : Option String} {settings : Settings} {logger : Logger}
  {site : Site}

theorem attachCapture_unmade {backend : Backend} {m : CompiledModule} {deeds : List Deed}
    {problem : Problem} (h : (attachCapture settings logger backend m deeds site).outcome =
      .error problem) :
    (attachCapture settings logger backend m deeds site).site.journal = site.journal := by
  unfold attachCapture at h ⊢
  cases hc : Capture.create settings.capture settings.scratchDirectory site.volume with
  | mk created volume =>
    rw [hc] at h
    cases created with
    | error refused => rfl
    | ok capture =>
      cases capture with
      | buffered => cases h
      | files scratch opened =>
        simp only [reportScratch, fresh] at h ⊢
        cases hr : (Site.record { site with volume } logger (scratchEvent scratch)).1 with
        | error refused => rw [Site.record_refused hr]
        | ok _ =>
          rw [hr] at h
          cases h

/-- A construction that fails has reported no more than the compiled module. -/
theorem construct_unmade {backend : Settings → Backend} {problem : Problem}
    (h : (construct wasm directory settings logger backend site).outcome = .error problem) :
    ∃ events, (construct wasm directory settings logger backend site).site.journal =
        site.journal ++ logger.heard events ∧
      ∀ e ∈ events, ∃ b m elapsed, e = compiledEvent b m elapsed := by
  have hnothing : site.journal = site.journal ++ logger.heard [] := by
    rw [Logger.heard_nil, List.append_nil]
  unfold construct at h ⊢
  dsimp only at h ⊢
  split at h
  · exact ⟨[], hnothing, nofun⟩
  · unfold compileAndAttach at h ⊢
    dsimp only at h ⊢
    split at h
    · exact ⟨[], hnothing, nofun⟩
    · rename_i m hm
      obtain ⟨events, hj, he⟩ := site.record_heard logger rfl
        (compiledEvent_plain (backend (withDirectory settings directory)) m site.elapsed)
      refine ⟨events, ?_, fun e hm => ⟨_, _, _, he e hm⟩⟩
      rw [← hj]
      split at h <;> rename_i hr
      · rw [hr]
      · rw [hr]
        exact attachCapture_unmade h

/-- What a construction reports, whether or not it succeeds: the module, and the scratch directory
of the processor that it makes. -/
theorem construct_brief (wasm : Value) (directory : Option String) (settings : Settings)
    (logger : Logger) (backend : Settings → Backend) (site : Site) :
    ∃ events, (construct wasm directory settings logger backend site).site.journal =
        site.journal ++ logger.heard events ∧
      ∀ e ∈ events, e.Brief (fun _ => False) fun path => ∃ p,
        (construct wasm directory settings logger backend site).outcome = .ok p ∧
          p.capture.Directory path := by
  cases h : (construct wasm directory settings logger backend site).outcome with
  | ok p =>
    obtain ⟨content, m, capture, -, origin⟩ := construct_origin h
    obtain ⟨v, -, hsite⟩ := origin.created
    refine ⟨openingEvents _ m site.elapsed capture, by rw [hsite], fun e he => ?_⟩
    rcases List.mem_cons.mp he with rfl | he
    · exact Event.moduleCompiled_brief _ _ _ _
    · obtain ⟨scratch, hs, rfl⟩ : ∃ scratch, capture.scratch? = some scratch ∧
          scratchEvent scratch = e := by
        simpa using he
      have hdirectory : p.capture.Directory scratch.path.text :=
        ⟨scratch, by rw [origin.made]; exact hs, rfl⟩
      exact Event.scratchCreated_brief ⟨p, rfl, hdirectory⟩ _
  | error problem =>
    obtain ⟨events, hj, he⟩ := construct_unmade h
    refine ⟨events, hj, fun e hm => ?_⟩
    obtain ⟨b, m, elapsed, rfl⟩ := he e hm
    exact Event.moduleCompiled_brief _ _ _ _

end Processor

namespace Traffic

variable {κ ω : Type} [DecidableEq κ] [DecidableEq ω] {before t : Traffic κ ω} {depth : Nat}
  {c : Call} {s : Scene} {f : Failure} {e : Event}

section

variable (hu : before.processor.logger.Usable) (hb : before.processor.backend.Classifies)
  (hc : ∀ k, (before.calls k).Measured)

include hu hb hc

/-- Whatever the order of the steps, invocations from outside stay measured. -/
theorem Reaches.measured (h : Reaches Anyhow before t) (k : κ) : (t.calls k).Measured := by
  suffices hall : Reaches Anyhow before t ∧ ∀ k, (t.calls k).Measured from hall.2 k
  apply h.keep (P := fun t => Reaches Anyhow before t ∧ ∀ k, (t.calls k).Measured) _ ⟨.refl _, hc⟩
  intro t₁ t₂ ⟨hr, hm⟩ hs
  refine ⟨hr.snoc hs, fun j => ?_⟩
  cases hs with
  | call k _ =>
    by_cases hj : j = k
    · subst hj
      rw [callStep_call]
      have hk := hr.continued
      exact (Call.advance_move Scene.again _ (t₁.view j)).measured (hm j)
        (againWithin_measured nestingLimit) (hk.logger ▸ hu) (hk.backend ▸ hb)
    · rw [(callStep_apart t₁ k).calls j hj]
      exact hm j
  | _ => exact hm j

theorem Meets.measured (h : Meets before depth c s) : c.Measured := by
  induction h with
  | outside t k h => exact h.measured hu hb hc k
  | inside depth id sink stream payload rest ending s h ih => trivial
  | ticked depth c s h ih => exact ih
  | advanced depth c s h ih =>
    have hk := h.continued
    exact (Call.advance_move _ c s).measured ih (againWithin_measured depth) (hk.logger ▸ hu)
      (hk.backend ▸ hb)

/-- What is raised is measured, and so is the time that has passed. -/
theorem Raises.ownWords (h : Raises before f e)
    (ha : ∀ depth c s, Meets before depth c s → s.alarm.Keeps Value.Measured) : e.OwnWords := by
  cases h with
  | ended depth id pending s h hf =>
    have hm := h.advanced.measured hu hb hc
    rw [hf] at hm
    exact Event.invocationFailed_ownWords (hm _ rfl) trivial trivial
  | overdue depth c s deadline steps h hset hf =>
    have hd : deadline.Measured := by
      have hk := ha depth c s h
      rwa [hset] at hk
    rw [Scene.ring_set (h.usable hu) hset] at hf
    cases hf
    exact Event.invocationFailed_ownWords ⟨trivial, trivial, hd, Or.inl rfl⟩
      (Deadline.inMilliseconds_measured hd) trivial

theorem Reportable.ownWords (h : Reportable before e)
    (ha : ∀ depth c s, Meets before depth c s → s.alarm.Keeps Value.Measured) : e.OwnWords := by
  cases h with
  | started p id content => exact Event.startEvent_ownWords p id content
  | completed r => exact Event.invocationComplete_ownWords r
  | failed f e h => exact h.ownWords hu hb hc ha
  | closed removed accepted h => exact Event.closedEvent_ownWords removed accepted

end

/-- No alarm is set under another deadline than the one it had at the beginning. -/
theorem Meets.keeps (h : Meets before depth c s) (hu : before.processor.logger.Usable)
    (hw : ∀ w, before.closings w = .request) {P : Value → Prop}
    (ha : ∀ k, (before.alarms k).Keeps P) : s.alarm.Keeps P := by
  induction h with
  | outside t k h =>
    obtain ⟨deadlines, hp⟩ := (h.reportedSince hu hw).alarms k
    exact hp.keeps (ha k)
  | inside depth id sink stream payload rest ending s h ih => exact ih
  | ticked depth c s h ih =>
    obtain ⟨deadlines, hp⟩ := (h.tick_reportsOnly hu).alarm
    exact hp.keeps ih
  | advanced depth c s h ih =>
    obtain ⟨deadlines, hp⟩ := (h.reportsOnly hu).alarm
    exact hp.keeps ih

theorem Reportable.brief (h : Reportable before e) :
    e.Brief (fun f => Raises before f e) before.processor.capture.Directory := by
  cases h with
  | started p id content => exact Event.invocationStart_brief _ _ _
  | completed r => exact Event.invocationComplete_brief r
  | failed f e h =>
    have hraised := h
    cases h <;> exact Event.invocationFailed_brief hraised _ _
  | closed removed accepted h => exact Event.closedEvent_brief h accepted

/-- However the steps of invocations and closings are mixed, each event is brief. A failure that is
shown is one that was raised, and a path is that of the scratch directory. The rest of what is
reported after the construction is numbers and words of the runner, if the backend classifies its
traps. -/
theorem journal_brief {wasm : Value} {directory : Option String} {settings : Settings}
    {logger : Logger} {backend : Settings → Backend} {site : Site} {attempt : Attempt}
    (hattempt : attempt = Processor.construct wasm directory settings logger backend site) :
    (∃ opening, attempt.site.journal = site.journal ++ logger.heard opening ∧
      ∀ e ∈ opening, e.Brief (fun _ => False)
        fun path => ∃ p, attempt.outcome = .ok p ∧ p.capture.Directory path) ∧
    ∀ p (payloads : κ → Value) (alarms : κ → Alarm) (before t : Traffic κ ω),
      attempt.outcome = .ok p → before = start p attempt.site payloads alarms →
      Reaches Anyhow before t →
      ∃ log, t.site.journal = attempt.site.journal ++ logger.heard log ∧
        (∀ e ∈ log, e.Brief (fun f => Raises before f e) p.capture.Directory) ∧
        (p.backend.Classifies →
          (∀ k deadline steps, alarms k = .set deadline steps →
            ∃ late, Deadline.isOver deadline = .ok late) →
          ∀ e ∈ log, e.OwnWords) := by
  subst hattempt
  refine ⟨Processor.construct_brief wasm directory settings logger backend site, ?_⟩
  rintro p payloads alarms before t hp rfl ht
  obtain ⟨hu, -⟩ := Processor.construct_made hp
  have hlogger : p.logger = logger := by
    obtain ⟨content, m, capture, -, origin⟩ := Processor.construct_origin hp
    rw [origin.made]
    rfl
  obtain ⟨log, hlog, hjournal⟩ := (ht.reportedSince hu fun _ => rfl).journal
  refine ⟨log, ?_, fun e he => (hlog e he).brief, fun hb ha e he => ?_⟩
  · rw [hjournal, ← hlogger]
    rfl
  · have hcalls : ∀ k, Call.Measured (.admission (payloads k)) := fun _ => trivial
    refine (hlog e he).ownWords hu hb hcalls fun depth c s hm =>
      hm.keeps hu (fun _ => rfl) fun k => ?_
    show (alarms k).Keeps Value.Measured
    cases hk : alarms k with
    | set deadline steps =>
      obtain ⟨late, hlate⟩ := ha k deadline steps hk
      exact Deadline.isOver_measured hlate
    | _ => trivial

end Traffic

namespace Sample

def longName : String := String.ofList (List.replicate 120 'd')

def deepVolume : Files.Volume :=
  { volume with tree := ⟨[([longName], .directory)]⟩, temporary := [longName] }

def complaint : Scripted.Script :=
  ⟨none, [{ Scripted.Part.idle with lines := [.write .stderr (List.replicate 300 33)] }]⟩

def verbose : Backend := { Scripted.backend complaint with compile := backend.compile }

def verboseSettings : Settings := { ownSettings with failOnStderr := true }

def verboseAttempt : Attempt :=
  Processor.construct (.bytes .fixed [0]) none verboseSettings .structured (fun _ => verbose)
    ⟨deepVolume, [], .zero⟩

def verboseProcessor : Processor :=
  .fresh verboseSettings .structured verbose ⟨.null, .int 0, ""⟩
    (.files ⟨⟨.single, [longName, "wasi_processor_00000001"]⟩, true, "000000000001"⟩ 0)
    [.compile [0]]

set_option maxRecDepth 8192 in
theorem verbose_made : verboseAttempt.outcome = .ok verboseProcessor := rfl

theorem verbose_classifies : verboseProcessor.backend.Classifies := by
  apply Scripted.backend_classifies (s := complaint)
  intro p hp
  rw [List.mem_singleton.mp hp]
  trivial

def eager : Traffic Unit Unit :=
  .start verboseProcessor verboseAttempt.site (fun _ => .text "hi") fun _ => .off

def flooded : Traffic Unit Unit :=
  Nat.repeat (fun t => t.closingStep ()) 8 (Nat.repeat (fun t => t.callStep ()) 16 eager)

def outline : Record → String × Option Nat
  | .structured _ subject fields =>
    (subject.plain,
      match fields.lookup "path" with
      | some (.text shown) => some shown.length
      | _ => none)
  | _ => ("", none)

def complaint? : Call → Option Nat
  | .finished (.error (.failure (.guestReported stderr _ _))) => some stderr.length
  | _ => none

theorem flooded_journal :
    (complaint? (flooded.calls ()), flooded.site.journal.map outline) =
      (some 300, [("module.compiled", none), ("scratch.created", some 140),
        ("invocation.start", none), ("invocation.failed", none), ("processor.closed", none)]) := by
  decide +kernel

theorem flooded_reached : Traffic.Reaches Traffic.Anyhow eager flooded := by
  have hcalls : ∀ n, Traffic.Reaches Traffic.Anyhow eager
      (Nat.repeat (fun t => t.callStep ()) n eager) := by
    intro n
    induction n with
    | zero => exact .refl _
    | succ n ih => exact ih.snoc (.call () trivial)
  have hclosing : ∀ (n : Nat) (t : Traffic Unit Unit), Traffic.Reaches Traffic.Anyhow eager t →
      Traffic.Reaches Traffic.Anyhow eager (Nat.repeat (fun t => t.closingStep ()) n t) := by
    intro n t h
    induction n with
    | zero => exact h
    | succ n ih => exact ih.snoc (.closing ())
  exact hclosing 8 _ (hcalls 16)

end Sample

/-- The guest writes more to its error stream than an event shows, and the end of the path of the
scratch directory is not shown either. -/
theorem journal_brief_sample :
    ∃ log, Sample.flooded.site.journal = Sample.verboseAttempt.site.journal ++
        Logger.structured.heard log ∧
      (∀ e ∈ log, e.Brief (fun f => Traffic.Raises Sample.eager f e)
        Sample.verboseProcessor.capture.Directory) ∧
      (∀ e ∈ log, e.OwnWords) ∧
      Sample.complaint? (Sample.flooded.calls ()) = some 300 ∧
      Sample.flooded.site.journal.map Sample.outline =
        [("module.compiled", none), ("scratch.created", some 140), ("invocation.start", none),
          ("invocation.failed", none), ("processor.closed", none)] := by
  have hattempt : Sample.verboseAttempt = Processor.construct (.bytes .fixed [0]) none
      Sample.verboseSettings .structured (fun _ => Sample.verbose) ⟨Sample.deepVolume, [], .zero⟩ :=
    rfl
  obtain ⟨log, hjournal, hbrief, hown⟩ := (Traffic.journal_brief hattempt).2
    Sample.verboseProcessor (fun _ => .text "hi") (fun _ => .off) Sample.eager Sample.flooded
    Sample.verbose_made rfl Sample.flooded_reached
  obtain ⟨hcomplaint, houtline⟩ := Prod.mk.inj Sample.flooded_journal
  exact ⟨log, hjournal, hbrief, hown Sample.verbose_classifies nofun, hcomplaint, houtline⟩

end GuestRunner
