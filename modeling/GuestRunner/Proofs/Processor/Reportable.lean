import GuestRunner.Proofs.Call.Measured
import GuestRunner.Proofs.Processor.LogInvariant

/-!
# Who reports what

Whatever a processor reports after its construction, it reports about an invocation that starts,
that succeeds or that has raised a failure, about a deadline that has passed, or about a closing and
the directory that it has removed. The invocations are those from outside, in any mixture of steps,
and those that their guests have started in turn.
-/

set_option autoImplicit false

namespace GuestRunner

open Scene

namespace Scene

theorem Continued.hush {s s' : Scene} (h : Continued s s') :
    Continued (.calm s.processor s.site) (.calm s'.processor s'.site) :=
  ⟨h.settings, h.logger, h.backend, h.scratch, fun _ => rfl⟩

structure ReportsOnly (P : Event → Prop) (s s' : Scene) : Prop where
  continued : Continued s s'
  alarm : ∃ deadlines, s.alarm.Passing s'.alarm deadlines
  journal : ∃ events, (∀ e ∈ events, P e) ∧ s'.site.journal = (s.reported events).site.journal

variable {P : Event → Prop} {s s' s'' : Scene}

theorem ReportsOnly.silent (hk : Continued s s') (hj : s'.site.journal = s.site.journal)
    (ha : s'.alarm = s.alarm) : ReportsOnly P s s' where
  continued := hk
  alarm := ⟨[], by rw [ha]; exact .still _⟩
  journal := ⟨[], nofun, by simp [reported, hj]⟩

theorem ReportsOnly.refl (s : Scene) : ReportsOnly P s s := .silent (.refl s) rfl rfl

theorem ReportsOnly.trans (h : ReportsOnly P s s') (h' : ReportsOnly P s' s'') :
    ReportsOnly P s s'' := by
  obtain ⟨first, hfirst⟩ := h.alarm
  obtain ⟨rest, hrest⟩ := h'.alarm
  obtain ⟨events, hevents, hj⟩ := h.journal
  obtain ⟨more, hmore, hj'⟩ := h'.journal
  refine ⟨h.continued.trans h'.continued, ⟨first ++ rest, hfirst.trans hrest⟩, events ++ more,
    ?_, ?_⟩
  · intro e he
    exact (List.mem_append.mp he).elim (hevents e) (hmore e)
  · rw [hj']
    simp only [reported, hj, h.continued.logger, Logger.heard_append, List.append_assoc]

theorem ReportsOnly.quietly (h : ReportsOnly P s s') (hk : Continued s' s'')
    (hj : s''.site.journal = s'.site.journal) (ha : s''.alarm = s'.alarm) : ReportsOnly P s s'' :=
  h.trans (.silent hk hj ha)

theorem ReportsOnly.one {e : Event} (he : P e) : ReportsOnly P s (s.reported [e]) where
  continued := ⟨rfl, rfl, rfl, rfl, id⟩
  alarm := ⟨[], .still _⟩
  journal := ⟨[e], fun _ h => List.mem_singleton.mp h ▸ he, rfl⟩

theorem ring_set (hu : s.processor.logger.Usable) {deadline : Value} {steps : Option Nat}
    (ha : s.alarm = .set deadline steps) :
    s.ring = { s.reported [.invocationFailed (.timedOut deadline .null)
        (Deadline.inMilliseconds deadline) .null] with
      alarm := .rung (.failure (.timedOut deadline .null)) } := by
  simp only [ring, ha, expire_usable hu]

section

variable (hu : s.processor.logger.Usable)
  (hP : ∀ deadline steps f, s.alarm = .set deadline steps → s.ring.alarm = .rung (.failure f) →
    P (.invocationFailed f (Deadline.inMilliseconds deadline) .null))

include hu hP

theorem ring_reportsOnly : ReportsOnly P s s.ring := by
  cases ha : s.alarm with
  | set deadline steps =>
    have hring := ring_set hu ha
    have he := hP deadline steps (.timedOut deadline .null) ha (by rw [hring])
    refine ⟨s.ring_continued, ⟨[deadline], ?_⟩, [_], fun _ h => List.mem_singleton.mp h ▸ he, ?_⟩
    · rw [ha, hring]
      exact .rung deadline steps
    · rw [hring]
  | _ => rw [ring, ha]; exact .refl s

theorem tick_reportsOnly : ReportsOnly P s s.tick := by
  have hk := s.tick_continued
  unfold tick at hk ⊢
  split at hk
  · exact ring_reportsOnly hu hP
  · rename_i deadline steps ha
    refine ⟨hk, ⟨[], ?_⟩, [], nofun, by simp [reported]⟩
    rw [ha]
    exact .nearer deadline _ _
  · exact .refl s

end

end Scene

namespace Closing

variable {P : Event → Prop} {paths : String → Prop} {s : Scene}

theorem step_reportsOnly {k : Closing} (hu : s.processor.logger.Usable) (hk : k.Removes paths)
    (hP : ∀ removed accepted, (∀ path, removed = some path → paths path) →
      P (closedEvent removed accepted)) : ReportsOnly P s (k.step s).2 := by
  obtain ⟨hj, ha⟩ := k.step_logs (κ := Unit) hu
  refine ⟨k.step_continued s, ⟨[], by rw [ha]; exact .still _⟩, _, ?_, hj⟩
  cases k with
  | reporting removed =>
    intro e he
    rw [List.mem_singleton.mp he]
    exact hP removed s.processor.accepted hk
  | _ => nofun

end Closing

theorem Scene.close_reportsOnly {P : Event → Prop} {s : Scene} (hu : s.processor.logger.Usable)
    (hP : ∀ removed accepted, (∀ path, removed = some path → s.processor.capture.Directory path) →
      P (Closing.closedEvent removed accepted)) : ReportsOnly P s s.close.2 := by
  have hstep : ∀ (k : Closing) (s' : Scene),
      (k.Removes s.processor.capture.Directory ∧ ReportsOnly P s s') →
      (k.step s').1.Removes s.processor.capture.Directory ∧ ReportsOnly P s (k.step s').2 := by
    intro k s' ⟨hk, h⟩
    have hpaths : ∀ path, s'.processor.capture.Directory path →
        s.processor.capture.Directory path := by
      intro path ⟨scratch, hs, hp⟩
      exact ⟨scratch, h.continued.scratch ▸ hs, hp⟩
    exact ⟨Closing.step_removes hpaths hk,
      h.trans (Closing.step_reportsOnly (h.continued.logger ▸ hu) hk hP)⟩
  obtain ⟨answer, s', hrun, -, h⟩ :=
    Closing.run_keeps hstep (k := .request) (s := s) ⟨trivial, .refl s⟩
  have hclose : s.close.2 = s' := by rw [close, hrun]
  rw [hclose]
  exact h

namespace Traffic

variable {κ ω : Type} [DecidableEq κ] [DecidableEq ω]

inductive Meets (before : Traffic κ ω) : Nat → Call → Scene → Prop
  | outside (t : Traffic κ ω) (k : κ) (h : Reaches Anyhow before t) :
    Meets before nestingLimit (t.calls k) (t.view k)
  | inside (depth id : Nat) (sink : Sink) (stream : Stream) (payload : Value) (rest : List Act)
    (ending : Except Problem Outcome) (s : Scene)
    (h : Meets before (depth + 1) (.running id sink (.process stream payload :: rest) ending) s) :
    Meets before depth (.admission payload) s
  | ticked (depth : Nat) (c : Call) (s : Scene) (h : Meets before depth c s) :
    Meets before depth c s.tick
  | advanced (depth : Nat) (c : Call) (s : Scene) (h : Meets before depth c s) :
    Meets before depth (c.advance (againWithin depth) s).1 (c.advance (againWithin depth) s).2

/-- A failure that is raised, and its report: an invocation ends with it, or it is the answer to
somebody who has waited for too long. -/
inductive Raises (before : Traffic κ ω) (f : Failure) : Event → Prop
  | ended (depth id : Nat) (pending : Except Problem Drained) (s : Scene)
    (h : Meets before depth (.settling id pending) s)
    (hf : ((Call.settling id pending).advance (againWithin depth) s).1 =
      .finished (.error (.failure f))) :
    Raises before f (Call.failedEvent s.site.elapsed id f)
  | overdue (depth : Nat) (c : Call) (s : Scene) (deadline : Value) (steps : Option Nat)
    (h : Meets before depth c s) (ha : s.alarm = .set deadline steps)
    (hf : s.ring.alarm = .rung (.failure f)) :
    Raises before f (.invocationFailed f (Deadline.inMilliseconds deadline) .null)

/-- The events that a processor may report. -/
inductive Reportable (before : Traffic κ ω) : Event → Prop
  | started (p : Processor) (id : Nat) (content : Bytes) :
    Reportable before (Call.startEvent p id content)
  | completed (r : Result) : Reportable before (.invocationComplete r)
  | failed (f : Failure) (e : Event) (h : Raises before f e) : Reportable before e
  | closed (removed : Option String) (accepted : Nat)
    (h : ∀ path, removed = some path → before.processor.capture.Directory path) :
    Reportable before (Closing.closedEvent removed accepted)

variable {before t t' : Traffic κ ω} {depth : Nat} {c : Call} {s : Scene}

theorem Step.continued (h : Step Anyhow t t') : Continued t.scene t'.scene := by
  cases h with
  | call k h =>
    exact scene_continued ((Call.advance_move Scene.again _ (t.view k)).continued
      again_continued) rfl
  | closing w => exact ((t.closings w).step_continued t.scene).hush
  | tick k => exact scene_continued (t.view k).tick_continued rfl
  | ring k => exact scene_continued (t.view k).ring_continued rfl
  | elsewhere volume elapsed => exact ⟨rfl, rfl, rfl, rfl, id⟩

theorem Reaches.continued (h : Reaches Anyhow before t) : Continued before.scene t.scene :=
  h.keep (P := fun t => Continued before.scene t.scene)
    (fun _ _ hk hs => hk.trans hs.continued) (.refl _)

namespace Meets

theorem continued (h : Meets before depth c s) :
    Continued before.scene (.calm s.processor s.site) := by
  induction h with
  | outside t k h => exact h.continued
  | inside depth id sink stream payload rest ending s h ih => exact ih
  | ticked depth c s h ih => exact ih.trans s.tick_continued.hush
  | advanced depth c s h ih =>
    exact ih.trans ((Call.advance_move _ c s).continued (againWithin_continued depth)).hush

theorem usable (h : Meets before depth c s) (hu : before.processor.logger.Usable) :
    s.processor.logger.Usable := by
  have hl : s.processor.logger = before.processor.logger := h.continued.logger
  exact hl ▸ hu

theorem step (h : Meets before depth c s) :
    Meets before depth (c.step (againWithin depth) s).1 (c.step (againWithin depth) s).2 := by
  rcases Call.step_alone (againWithin depth) c s with hs | hs <;> rw [hs]
  · exact h
  · exact .advanced depth c s.tick (.ticked depth c s h)

theorem ring_reportsOnly (h : Meets before depth c s) (hu : before.processor.logger.Usable) :
    ReportsOnly (Reportable before) s s.ring :=
  Scene.ring_reportsOnly (h.usable hu) fun deadline steps f ha hf =>
    .failed f _ (.overdue depth c s deadline steps h ha hf)

theorem tick_reportsOnly (h : Meets before depth c s) (hu : before.processor.logger.Usable) :
    ReportsOnly (Reportable before) s s.tick :=
  Scene.tick_reportsOnly (h.usable hu) fun deadline steps f ha hf =>
    .failed f _ (.overdue depth c s deadline steps h ha hf)

theorem close_reportsOnly (h : Meets before depth c s) (hu : before.processor.logger.Usable) :
    ReportsOnly (Reportable before) s s.close.2 := by
  apply Scene.close_reportsOnly (h.usable hu)
  intro removed accepted hp
  refine .closed removed accepted fun path he => ?_
  obtain ⟨scratch, hs, hpath⟩ := hp path he
  have hk : s.processor.capture.scratch? = before.processor.capture.scratch? := h.continued.scratch
  exact ⟨scratch, hk ▸ hs, hpath⟩

/-- What an act of a guest has reported, if what the guest starts reports nothing strange. -/
theorem perform_reportsOnly {id : Nat} {sink : Sink} {act : Act} {rest : List Act}
    {ending : Except Problem Outcome}
    (h : Meets before depth (.running id sink (act :: rest) ending) s)
    (hu : before.processor.logger.Usable)
    (ha : ∀ stream payload, act = .process stream payload →
      ReportsOnly (Reportable before) s (againWithin depth payload s).2) :
    ReportsOnly (Reportable before) s (Call.perform (againWithin depth) sink act s).2 := by
  cases act with
  | process stream payload =>
    have hagain := ha stream payload rfl
    simp only [Call.perform]
    split <;> rename_i he <;> rw [he] at hagain
    · exact hagain.quietly ⟨rfl, rfl, rfl, rfl, fun ha => ha⟩ rfl rfl
    · exact hagain
  | closeProcessor => exact h.close_reportsOnly hu
  | wait => exact h.ring_reportsOnly hu
  | _ => exact .silent ⟨rfl, rfl, rfl, rfl, fun ha => ha⟩ rfl rfl

/-- The end of an invocation is reported as what it is. -/
theorem settle_reportsOnly {id : Nat} {pending : Except Problem Drained}
    (h : Meets before depth (.settling id pending) s) (hu : before.processor.logger.Usable) :
    ReportsOnly (Reportable before) s (Call.settle id pending s).2 := by
  have hsettle := Call.settle_usable (h.usable hu) id pending
  have hended : ∀ f, Call.judge s.processor s.site.elapsed id pending = .error (.failure f) →
      Raises before f (Call.failedEvent s.site.elapsed id f) := by
    intro f hf
    refine .ended depth id pending s h ?_
    show Call.finished (Call.settle id pending s).1 = _
    rw [hsettle, hf]
  rw [hsettle]
  generalize Call.judge s.processor s.site.elapsed id pending = judged at hended
  cases judged with
  | ok r => exact .one (.completed r)
  | error problem =>
    cases problem with
    | failure f => exact .one (.failed f _ (hended f rfl))
    | _ => exact .silent ⟨rfl, rfl, rfl, rfl, fun ha => ha⟩ (by simp [Call.endReport, reported]) rfl

/-- A step reports nothing strange if what the guest starts in it reports nothing strange. -/
theorem reportsOnly_of (h : Meets before depth c s) (hu : before.processor.logger.Usable)
    (ha : ∀ id sink stream payload rest ending,
      c = .running id sink (.process stream payload :: rest) ending →
      ReportsOnly (Reportable before) s (againWithin depth payload s).2) :
    ReportsOnly (Reportable before) s (c.advance (againWithin depth) s).2 := by
  have hmove := Call.advance_move (againWithin depth) c s
  generalize (c.advance (againWithin depth) s).1 = c' at hmove
  generalize (c.advance (againWithin depth) s).2 = s' at hmove ⊢
  cases hmove with
  | announced id module payload s s' content hb hs =>
    rw [emit_plain (h.usable hu) (Call.startEvent_plain _ _ _)] at hs
    cases hs
    exact .one (.started _ _ _)
  | unannounced id module payload s s' content problem hb hs =>
    rw [emit_plain (h.usable hu) (Call.startEvent_plain _ _ _)] at hs
    cases hs
  | opened job s =>
    exact .silent ⟨rfl, rfl, rfl, s.processor.capture.nextSink_scratch _, fun ha => ha⟩ rfl rfl
  | acted id sink sink' act rest ending s s' hact =>
    have hp := h.perform_reportsOnly hu fun stream payload he =>
      ha id sink stream payload rest ending
      (by rw [he])
    rwa [hact] at hp
  | stumbled id sink act rest ending s s' problem hact =>
    have hp := h.perform_reportsOnly hu fun stream payload he =>
      ha id sink stream payload rest ending
      (by rw [he])
    rw [hact] at hp
    exact hp.quietly ⟨rfl, rfl, rfl, rfl, fun ha => ha⟩ rfl rfl
  | settled id pending s s' result hs =>
    have hp := h.settle_reportsOnly hu
    rwa [hs] at hp
  | _ => exact .silent ⟨rfl, rfl, rfl, rfl, fun ha => ha⟩ rfl rfl

/-- A step reports nothing strange, down to any depth of invocations that guests start. -/
theorem reportsOnly (h : Meets before depth c s) (hu : before.processor.logger.Usable) :
    ReportsOnly (Reportable before) s (c.advance (againWithin depth) s).2 := by
  -- What a guest starts is met one level down, where each of its steps reports nothing strange.
  induction depth generalizing c s with
  | zero => exact h.reportsOnly_of hu fun _ _ _ _ _ _ _ => .refl s
  | succ depth ih =>
    refine h.reportsOnly_of hu fun id sink stream payload rest ending he => ?_
    subst he
    have hstart : Meets before depth (.admission payload) s :=
      .inside depth id sink stream payload rest ending s h
    have hstep : ∀ c s', (Meets before depth c s' ∧ ReportsOnly (Reportable before) s s') →
        Meets before depth (c.step (againWithin depth) s').1 (c.step (againWithin depth) s').2 ∧
          ReportsOnly (Reportable before) s (c.step (againWithin depth) s').2 := by
      intro c s' ⟨hm, h'⟩
      refine ⟨hm.step, ?_⟩
      rcases Call.step_alone (againWithin depth) c s' with hs | hs <;> rw [hs]
      · exact h'
      · exact (h'.trans (hm.tick_reportsOnly hu)).trans (ih (.ticked depth c s' hm))
    obtain ⟨answer, s', hrun, -, hend⟩ := Call.run_keeps _ hstep ⟨hstart, .refl s⟩
    rw [againWithin_succ hrun]
    exact hend

end Meets

structure ReportedSince (before t : Traffic κ ω) : Prop where
  alarms : ∀ k, ∃ deadlines, (before.alarms k).Passing (t.alarms k) deadlines
  closings : ∀ w, (t.closings w).Removes before.processor.capture.Directory
  journal : ∃ log, (∀ e ∈ log, Reportable before e) ∧
    t.site.journal = (before.scene.reported log).site.journal

variable {s' : Scene} {k : κ} {w : ω}

theorem ReportedSince.more (h : ReportedSince before t) (hk : Continued before.scene t.scene)
    {journal : List Record} (hj : ∃ events, (∀ e ∈ events, Reportable before e) ∧
      journal = (t.scene.reported events).site.journal) :
    ∃ log, (∀ e ∈ log, Reportable before e) ∧
      journal = (before.scene.reported log).site.journal := by
  obtain ⟨log, hlog, hjournal⟩ := h.journal
  obtain ⟨events, hevents, hnext⟩ := hj
  refine ⟨log ++ events, fun e he => (List.mem_append.mp he).elim (hlog e) (hevents e), ?_⟩
  have hs : t.scene.site.journal = (before.scene.reported log).site.journal := hjournal
  rw [hnext]
  simp only [reported, hs, hk.logger, Logger.heard_append, List.append_assoc]

/-- The work of one invocation reports what it may report. -/
theorem ReportedSince.work (h : ReportedSince before t) (hr : Reaches Anyhow before t)
    (hs : ReportsOnly (Reportable before) (t.view k) s') (hj : t'.site.journal = s'.site.journal)
    (ha : t'.alarms = Function.update t.alarms k s'.alarm) (hc : t'.closings = t.closings) :
    ReportedSince before t' where
  alarms j := by
    rw [ha]
    by_cases hjk : j = k
    · subst hjk
      obtain ⟨first, hfirst⟩ := h.alarms j
      obtain ⟨rest, hrest⟩ := hs.alarm
      rw [Function.update_self]
      exact ⟨first ++ rest, hfirst.trans hrest⟩
    · rw [Function.update_of_ne hjk]
      exact h.alarms j
  closings := hc ▸ h.closings
  journal := by
    rw [hj]
    exact h.more hr.continued hs.journal

theorem ReportedSince.closingStep (h : ReportedSince before t) (hr : Reaches Anyhow before t)
    (hu : before.processor.logger.Usable) (w : ω) : ReportedSince before (t.closingStep w) := by
  have hk := hr.continued
  have honly := Closing.step_reportsOnly (P := Reportable before) (s := t.scene) (hk.logger ▸ hu)
    (h.closings w) fun removed accepted hp => .closed removed accepted hp
  refine ⟨h.alarms, fun j => ?_, h.more hk honly.journal⟩
  by_cases hj : j = w
  · subst hj
    simp only [Traffic.closingStep, Function.update_self]
    apply Closing.step_removes _ (h.closings j)
    rintro path ⟨scratch, hs, hp⟩
    exact ⟨scratch, hk.scratch ▸ hs, hp⟩
  · simp only [Traffic.closingStep, Function.update_of_ne hj]
    exact h.closings j

theorem ReportedSince.step (h : ReportedSince before t) (hr : Reaches Anyhow before t)
    (hu : before.processor.logger.Usable) (hs : Step Anyhow t t') : ReportedSince before t' := by
  have hmeets : ∀ k, Meets before nestingLimit (t.calls k) (t.view k) := fun k =>
    .outside t k hr
  cases hs with
  | call k _ => exact h.work hr ((hmeets k).reportsOnly hu) rfl rfl rfl
  | closing w => exact h.closingStep hr hu w
  | tick k => exact h.work hr ((hmeets k).tick_reportsOnly hu) rfl rfl rfl
  | ring k => exact h.work hr ((hmeets k).ring_reportsOnly hu) rfl rfl rfl
  | elsewhere volume elapsed => exact ⟨h.alarms, h.closings, h.journal⟩

theorem Reaches.reportedSince (h : Reaches Anyhow before t) (hu : before.processor.logger.Usable)
    (hc : ∀ w, before.closings w = .request) : ReportedSince before t := by
  have hstart : ReportedSince before before :=
    ⟨fun k => ⟨[], .still _⟩, fun w => by rw [hc w]; trivial, [], nofun,
      by rw [Scene.reported_nil]; rfl⟩
  obtain ⟨-, hend⟩ := h.keep (P := fun t => Reaches Anyhow before t ∧ ReportedSince before t)
    (fun _ _ ⟨hr, hv⟩ hs => ⟨hr.snoc hs, hv.step hr hu hs⟩) ⟨.refl before, hstart⟩
  exact hend

end Traffic

end GuestRunner
