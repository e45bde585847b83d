import GuestRunner.Proofs.Journal.LogEntry
import GuestRunner.Proofs.Processor.Answers
import GuestRunner.Proofs.Processor.Origin
import GuestRunner.Proofs.Processor.TeardownState
import GuestRunner.Proofs.Processor.Traffic

/-!
# Tearing down once

However the steps of invocations and closings are mixed, one closing tears the processor down. It
does so once and to the end, also when the capture cannot be released, and everybody else finds the
processor closed and leaves it as it is.
-/

set_option autoImplicit false

namespace GuestRunner

def Closing.Resting (k : Closing) : Prop := k = .request ∨ k = .finished (.ok ())

namespace Scene

variable {s : Scene} {payload : Value}

/-- Nobody gets into a processor that is closed. Only the clock of whoever awaits goes on. -/
theorem run_shut (again : Call.Again) (hc : s.processor.closed = true) :
    Call.run again (.admission payload) s =
      (.finished (.error (.failure .processorClosed)), s.tick) := by
  have ht : s.tick.processor.closed = true := by
    have h := (s.tick_keepsTeardown.shut hc).1
    exact (congrArg TeardownState.closed h).trans hc
  have hstep : Call.step again (.admission payload) s =
      (.finished (.error (.failure .processorClosed)), s.tick) := by
    simp [Call.step, Call.advance, ht]
  obtain ⟨result, s', hr, hq⟩ := Call.run_keeps again (c := .admission payload) (s := s)
    (Q := fun c s' => c = .admission payload ∧ s' = s ∨
      c = .finished (.error (.failure .processorClosed)) ∧ s' = s.tick)
    (fun c s' h => by
      rcases h with ⟨rfl, rfl⟩ | ⟨rfl, rfl⟩
      · rw [hstep]
        exact Or.inr ⟨rfl, rfl⟩
      · exact Or.inr ⟨rfl, rfl⟩)
    (Or.inl ⟨rfl, rfl⟩)
  rcases hq with ⟨h, -⟩ | ⟨h, rfl⟩
  · cases h
  · rw [hr, h]

theorem tick_calm (ha : s.alarm = .off) : s.tick = s := by simp [tick, ha]

theorem invoke_shut (hc : s.processor.closed = true) (ha : s.alarm = .off) :
    s.invoke payload = (.error (.failure .processorClosed), s) := by
  unfold invoke
  rw [run_shut again hc, tick_calm ha]
  rfl

theorem again_shut (hc : s.processor.closed = true) :
    again payload s = (.error (.failure .processorClosed), s.tick) := by
  unfold again
  rw [show nestingLimit = 999 + 1 from rfl, invokeWithin, run_shut _ hc]
  rfl

end Scene

theorem Processor.backendClosed_of_closings {p : Processor} (h : p.backendClosings = 1) :
    p.backendClosed = true := by
  have hne : p.deeds.filter Deed.isCloseBackend ≠ [] := by
    intro he
    rw [backendClosings, he] at h
    cases h
  obtain ⟨deed, hd⟩ := List.exists_mem_of_ne_nil _ hne
  rw [List.mem_filter] at hd
  exact List.any_eq_true.mpr ⟨deed, hd⟩

namespace Traffic

variable {κ ω : Type}

def notices (t : Traffic κ ω) : List Record := t.site.journal.filter Record.isClosing

/-- The processor is torn down, once and to the end, after its capture was released or could not
be. -/
structure TornDown (before : Traffic κ ω) (removed : Except Problem (Option String))
    (after : Traffic κ ω) : Prop where
  closed : after.processor.closed = true
  backend : after.processor.backendClosed = true
  module : after.processor.module = none
  captureOnce : after.processor.captureClosings = 1
  backendOnce : after.processor.backendClosings = 1
  notices :
    match removed with
    | .ok path => ∃ event, event = Closing.closedEvent path after.processor.accepted ∧
      event.name = "processor.closed" ∧
      event.field "invocations" = Value.ofNat after.processor.accepted ∧
      after.notices = before.notices ++ before.processor.logger.heard [event]
    | .error _ => after.notices = before.notices

structure OneCloses (P : Closing → TeardownState → Prop) (logger : Logger) (accepted : Nat) (w : ω)
    (t : Traffic κ ω) : Prop where
  state : P (t.closings w) t.scene.teardownState
  logger : t.processor.logger = logger
  accepted : t.processor.accepted = accepted
  others : ∀ j, j ≠ w → (t.closings j).Resting

variable {t t' : Traffic κ ω} {k : κ} {w : ω} {b : TeardownState} {logger : Logger} {accepted : Nat}

/-- A closing that has released the capture keeps to what came of it. -/
theorem OneCloses.shutting {removed : Except Problem (Option String)}
    (h : OneCloses (Closing.TearingDown b logger accepted) logger accepted w t)
    (hw : t.closings w = .shutting removed) :
    OneCloses (Closing.Ending b logger accepted removed) logger accepted w t := by
  have hs := h.state
  rw [hw] at hs
  obtain ⟨t', ht⟩ : ∃ t', t.scene.teardownState = t' := ⟨_, rfl⟩
  rw [ht] at hs
  constructor
  · rw [hw, ht]
    cases hs with
    | ending removed' k t h =>
      cases h
      exact .shutting
  · exact h.logger
  · exact h.accepted
  · exact h.others

/-- When such a closing has ended, it has answered by that and torn the processor down. -/
theorem OneCloses.ended {removed : Except Problem (Option String)} {answer : Except Problem Unit}
    (h : OneCloses (Closing.Ending b logger accepted removed) logger accepted w t)
    (hw : t.closings w = .finished answer) :
    answer = Closing.answer removed ∧
      t.scene.teardownState = b.tornDown (Closing.notice logger accepted removed) := by
  have hs := h.state
  obtain ⟨k, hk⟩ : ∃ k, Closing.finished answer = k := ⟨_, rfl⟩
  obtain ⟨t', ht⟩ : ∃ t', t.scene.teardownState = t' := ⟨_, rfl⟩
  rw [hw, hk, ht] at hs
  rw [ht]
  cases hs with
  | finished =>
    cases hk
    exact ⟨rfl, rfl⟩
  | _ => cases hk

/-- A processor whose teardown state is that of a torn-down one is torn down. -/
theorem tornDown_of_teardownState {before : Traffic κ ω} {removed : Except Problem (Option String)}
    (hc : before.processor.captureClosings = 0) (hb : before.processor.backendClosings = 0)
    (ht : t.scene.teardownState = before.scene.teardownState.tornDown
      (Closing.notice before.processor.logger t.processor.accepted removed)) :
    TornDown before removed t := by
  have hback : t.processor.backendClosings = 1 := by
    have h := congrArg TeardownState.backendClosings ht
    exact h.trans (congrArg (· + 1) hb)
  constructor
  · exact congrArg TeardownState.closed ht
  · exact Processor.backendClosed_of_closings hback
  · exact congrArg TeardownState.module ht
  · have h := congrArg TeardownState.captureClosings ht
    exact h.trans (congrArg (· + 1) hc)
  · exact hback
  · have h := congrArg TeardownState.notices ht
    cases removed with
    | ok path => exact ⟨_, rfl, rfl, rfl, h⟩
    | error problem => exact h.trans (List.append_nil _)

inductive Teardown (b : TeardownState) (logger : Logger) (t : Traffic κ ω) : Prop
  | ahead (hl : t.processor.logger = logger) (ht : t.scene.teardownState = b)
    (hr : ∀ w, t.closings w = .request)
  | guest (removed : Except Problem (Option String)) (hl : t.processor.logger = logger)
    (ht : t.scene.teardownState = b.tornDown (Closing.notice logger t.processor.accepted removed))
    (hr : ∀ w, (t.closings w).Resting)
  | under (w : ω) (h : OneCloses (Closing.TearingDown b logger t.processor.accepted) logger
    t.processor.accepted w t)

theorem Teardown.logs (h : Teardown b logger t) : t.processor.logger = logger := by
  cases h with
  | ahead hl ht hr => exact hl
  | guest removed hl ht hr => exact hl
  | under w h => exact h.logger

theorem Teardown.unset (h : Teardown b logger t) (ho : t.processor.closed = false) :
    t.scene.teardownState = b ∧ ∀ w, t.closings w = .request := by
  cases h with
  | ahead hl ht hr => exact ⟨ht, hr⟩
  | guest removed hl ht hr =>
    have hc : t.processor.closed = true := congrArg TeardownState.closed ht
    rw [ho] at hc
    cases hc
  | under w h =>
    have hc : t.processor.closed = true := h.state.closed
    rw [ho] at hc
    cases hc

/-- No more closings than one are counted, at whatever point of the teardown. -/
theorem Teardown.once (h : Teardown b logger t) (hc : b.captureClosings = 0)
    (hb : b.backendClosings = 0) :
    t.processor.captureClosings ≤ 1 ∧ t.processor.backendClosings ≤ 1 := by
  have hstate : t.scene.teardownState.captureClosings ≤ 1 ∧
    t.scene.teardownState.backendClosings ≤ 1 := by
    cases h with
    | ahead hl ht hr =>
      rw [ht]
      omega
    | guest removed hl ht hr =>
      rw [ht]
      simp [TeardownState.tornDown, hc, hb]
    | under w h =>
      have hs := h.state
      obtain ⟨t', ht⟩ : ∃ t', t.scene.teardownState = t' := ⟨_, rfl⟩
      obtain ⟨k, hk⟩ : ∃ k, t.closings w = k := ⟨_, rfl⟩
      rw [ht, hk] at hs
      rw [ht]
      cases hs with
      | detaching => simp [hc, hb]
      | cleaning scratch c => simp [hc, hb]
      | ending removed k t h => cases h <;> simp [TeardownState.tornDown, hc, hb]
  exact hstate

/-- Where no closing is under way any more, a closed processor is torn down. -/
theorem Teardown.tornDown {before : Traffic κ ω}
    (h : Teardown before.scene.teardownState before.processor.logger t)
    (hc : before.processor.captureClosings = 0) (hb : before.processor.backendClosings = 0)
    (ho : before.processor.closed = false) (hclosed : t.processor.closed = true)
    (hidle : ∀ w, (t.closings w).Idle) : ∃ removed, TornDown before removed t := by
  cases h with
  | ahead hl ht hr =>
    have h := congrArg TeardownState.closed ht
    rw [show t.scene.teardownState.closed = true from hclosed] at h
    exact absurd (h.trans ho) (by decide)
  | guest removed hl ht hr => exact ⟨removed, tornDown_of_teardownState hc hb ht⟩
  | under w h =>
    have hs := h.state
    obtain ⟨t', ht⟩ : ∃ t', t.scene.teardownState = t' := ⟨_, rfl⟩
    obtain ⟨k, hk⟩ : ∃ k, t.closings w = k := ⟨_, rfl⟩
    have hw := hidle w
    rw [hk] at hs hw
    rw [ht] at hs
    cases hs with
    | ending removed k t' h =>
      cases h with
      | finished => exact ⟨removed, tornDown_of_teardownState hc hb ht⟩
      | _ => rcases hw with hw | ⟨answer, hw⟩ <;> cases hw
    | _ => rcases hw with hw | ⟨answer, hw⟩ <;> cases hw

section Closings

variable [DecidableEq ω]

theorem closingStep_request (hc : t.processor.closed = true) (hr : t.closings w = .request) :
    t.closingStep w =
      { t with closings := Function.update t.closings w (.finished (.ok ())) } := by
  simp only [closingStep, hr, Closing.request_shut (s := t.scene) hc]
  rfl

theorem closingStep_finished {answer : Except Problem Unit}
    (hr : t.closings w = .finished answer) : t.closingStep w = t := by
  simp only [closingStep, hr, Closing.step, scene, Scene.calm]
  rw [← hr, Function.update_eq_self]

theorem closingStep_resting (hc : t.processor.closed = true) (hr : (t.closings w).Resting) :
    (t.closingStep w).scene = t.scene ∧ ((t.closingStep w).closings w).Resting ∧
      ∀ j, j ≠ w → (t.closingStep w).closings j = t.closings j := by
  rcases hr with hr | hr
  · rw [closingStep_request hc hr]
    exact ⟨rfl, Or.inr (by simp), fun j hj => by simp [hj]⟩
  · rw [closingStep_finished hr]
    exact ⟨rfl, Or.inr hr, fun j hj => rfl⟩

theorem oneCloses_request (ho : t.processor.closed = false) (hr : ∀ w, t.closings w = .request)
    (w : ω) :
    OneCloses (Closing.TearingDown t.scene.teardownState t.processor.logger t.processor.accepted)
      t.processor.logger t.processor.accepted w (t.closingStep w) := by
  refine ⟨?_, ((t.closings w).step_continued t.scene).logger,
    ((t.closings w).step_frame t.scene).2.1,
    fun i hi => ?_⟩
  · rw [show (t.closingStep w).closings w = ((t.closings w).step t.scene).1 by simp [closingStep]]
    show Closing.TearingDown _ _ _ _ ((t.closings w).step t.scene).2.teardownState
    rw [hr w]
    exact Closing.request_open ho _ _
  · rw [show (t.closingStep w).closings i = t.closings i by simp [closingStep, hi]]
    exact Or.inl (hr i)

end Closings

variable [DecidableEq κ] [DecidableEq ω] {held : Traffic κ ω → κ → Prop}

/-- A step of anybody but the closings keeps the teardown state, or completes it in one go. -/
theorem Step.keepsTeardown (h : Step held t t') (hu : t.processor.logger.Usable) :
    (∃ w, t' = t.closingStep w) ∨ t'.closings = t.closings ∧
      Scene.KeepsTeardown t.scene t'.scene := by
  cases h with
  | closing w => exact Or.inl ⟨w, rfl⟩
  | call k h =>
    have ho := (Call.advance_move Scene.again (t.calls k) (t.view k)).keepsTeardown
      Scene.again_keepsTeardown hu
    exact Or.inr ⟨rfl, ho.logger, ho.shut, ho.ahead⟩
  | tick k =>
    have ho := (t.view k).tick_keepsTeardown
    exact Or.inr ⟨rfl, ho.logger, ho.shut, ho.ahead⟩
  | ring k =>
    have ho := (t.view k).ring_keepsTeardown
    exact Or.inr ⟨rfl, ho.logger, ho.shut, ho.ahead⟩
  | elsewhere volume elapsed => exact Or.inr ⟨rfl, .of_teardownState rfl rfl fun _ => rfl⟩

theorem OneCloses.step {P : Closing → TeardownState → Prop}
    (hclosed : ∀ k b, P k b → b.closed = true)
    (hstep : ∀ k s, P k (Scene.teardownState s) → s.processor.logger = logger →
      s.processor.accepted = accepted → P (k.step s).1 (k.step s).2.teardownState)
    (hu : logger.Usable) (h : OneCloses P logger accepted w t) (hs : Step held t t') :
    OneCloses P logger accepted w t' := by
  have hc : t.processor.closed = true := hclosed _ _ h.state
  rcases hs.keepsTeardown (h.logger ▸ hu) with ⟨j, rfl⟩ | ⟨hk, ho⟩
  · by_cases hj : j = w
    · subst hj
      have hn := hstep (t.closings j) t.scene h.state h.logger h.accepted
      refine ⟨?_, ((t.closings j).step_continued t.scene).logger.trans h.logger,
        ((t.closings j).step_frame t.scene).2.1.trans h.accepted, fun i hi => ?_⟩
      · rw [show (t.closingStep j).closings j = ((t.closings j).step t.scene).1 by
          simp [closingStep]]
        exact hn
      · rw [show (t.closingStep j).closings i = t.closings i by simp [closingStep, hi]]
        exact h.others i hi
    · obtain ⟨hsc, hr, hother⟩ := closingStep_resting hc (h.others j hj)
      have hp : (t.closingStep j).processor = t.processor := congrArg Scene.processor hsc
      refine ⟨?_, by rw [hp, h.logger], by rw [hp, h.accepted], fun i hi => ?_⟩
      · rw [hother w (Ne.symm hj), hsc]
        exact h.state
      · by_cases hij : i = j
        · rw [hij]
          exact hr
        · rw [hother i hij]
          exact h.others i hi
  · obtain ⟨ht, ha⟩ := ho.shut hc
    exact ⟨by rw [hk, ht]; exact h.state, ho.logger.trans h.logger, ha.trans h.accepted,
      by rw [hk]; exact h.others⟩

theorem OneCloses.tearing_step (hu : logger.Usable)
    (h : OneCloses (Closing.TearingDown b logger accepted) logger accepted w t)
    (hs : Step held t t') :
    OneCloses (Closing.TearingDown b logger accepted) logger accepted w t' :=
  h.step (fun _ _ h => h.closed) (fun _ _ h hl ha => h.step hl hu ha) hu hs

theorem OneCloses.ending_step {removed : Except Problem (Option String)} (hu : logger.Usable)
    (h : OneCloses (Closing.Ending b logger accepted removed) logger accepted w t)
    (hs : Step held t t') :
    OneCloses (Closing.Ending b logger accepted removed) logger accepted w t' :=
  h.step (fun _ _ h => h.closed) (fun _ _ h hl ha => h.step hl hu ha) hu hs

theorem Teardown.step (hb : b.closed = false) (hu : logger.Usable) (h : Teardown b logger t)
    (hs : Step held t t') : Teardown b logger t' := by
  cases h with
  | ahead hl ht hr =>
    have ho : t.processor.closed = false := (congrArg TeardownState.closed ht).trans hb
    rcases hs.keepsTeardown (hl ▸ hu) with ⟨w, rfl⟩ | ⟨hk, hon⟩
    · have he := oneCloses_request ho hr w
      rw [ht, hl, ← he.accepted] at he
      exact .under w he
    · rcases hon.ahead ho with hs' | ⟨removed, hs'⟩
      · exact .ahead (hon.logger.trans hl) (hs'.trans ht) (hk ▸ hr)
      · rw [ht, show t.scene.processor.logger = logger from hl] at hs'
        exact .guest removed (hon.logger.trans hl) hs' fun w => Or.inl (by rw [hk]; exact hr w)
  | guest removed hl ht hr =>
    have hc : t.processor.closed = true := congrArg TeardownState.closed ht
    rcases hs.keepsTeardown (hl ▸ hu) with ⟨w, rfl⟩ | ⟨hk, hon⟩
    · obtain ⟨hsc, hw, hother⟩ := closingStep_resting hc (hr w)
      have hp : (t.closingStep w).processor = t.processor := congrArg Scene.processor hsc
      refine .guest removed (by rw [hp, hl]) (by rw [hsc, hp, ht]) fun i => ?_
      by_cases hi : i = w
      · rw [hi]
        exact hw
      · rw [hother i hi]
        exact hr i
    · obtain ⟨hs', ha⟩ := hon.shut hc
      have ha' : t'.processor.accepted = t.processor.accepted := ha
      refine .guest removed (hon.logger.trans hl) ?_ (hk ▸ hr)
      rw [hs', ht, ha']
  | under w h =>
    have hn := h.tearing_step hu hs
    rw [← hn.accepted] at hn
    exact .under w hn

theorem Teardown.reaches (hb : b.closed = false) (hu : logger.Usable) (h : Teardown b logger t)
    (hr : Reaches held t t') : Teardown b logger t' :=
  hr.keep (P := Teardown b logger) (fun _ _ h hs => h.step hb hu hs) h

theorem OneCloses.tearing_reaches (hu : logger.Usable)
    (h : OneCloses (Closing.TearingDown b logger accepted) logger accepted w t)
    (hr : Reaches held t t') :
    OneCloses (Closing.TearingDown b logger accepted) logger accepted w t' :=
  hr.keep (P := OneCloses _ logger accepted w) (fun _ _ h hs => h.tearing_step hu hs) h

theorem OneCloses.ending_reaches {removed : Except Problem (Option String)} (hu : logger.Usable)
    (h : OneCloses (Closing.Ending b logger accepted removed) logger accepted w t)
    (hr : Reaches held t t') :
    OneCloses (Closing.Ending b logger accepted removed) logger accepted w t' :=
  hr.keep (P := OneCloses _ logger accepted w) (fun _ _ h hs => h.ending_step hu hs) h

/-- The closing that has found the flag unset ends with what came of the capture, and by then it has
torn the processor down. -/
theorem Teardown.ended {before t₁ t₂ : Traffic κ ω} {removed : Except Problem (Option String)}
    {answer : Except Problem Unit}
    (h : Teardown before.scene.teardownState before.processor.logger t)
    (hu : before.processor.logger.Usable) (hc : before.processor.captureClosings = 0)
    (hb : before.processor.backendClosings = 0) (ho : t.processor.closed = false)
    (h₁ : Reaches held (t.closingStep w) t₁) (hw : t₁.closings w = .shutting removed)
    (h₂ : Reaches held t₁ t₂) (hend : t₂.closings w = .finished answer) :
    answer = Closing.answer removed ∧ TornDown before removed t₂ := by
  obtain ⟨hstate, hr⟩ := h.unset ho
  have hlu : t.processor.logger.Usable := h.logs ▸ hu
  have he := ((oneCloses_request ho hr w).tearing_reaches hlu h₁).shutting hw
  have hfinal := he.ending_reaches hlu h₂
  obtain ⟨ha, ht⟩ := hfinal.ended hend
  refine ⟨ha, tornDown_of_teardownState hc hb ?_⟩
  rw [ht, hfinal.accepted, hstate, h.logs]

/-- The flag stays set, and the numbers stop. -/
theorem closed_reaches (hu : t.processor.logger.Usable) (hc : t.processor.closed = true)
    (hr : Reaches held t t') :
    t'.processor.closed = true ∧ t'.processor.accepted = t.processor.accepted := by
  have h := hr.keep (P := fun t' => t'.processor.closed = true ∧
      t'.processor.logger = t.processor.logger ∧ t'.processor.accepted = t.processor.accepted) ?_
    ⟨hc, rfl, rfl⟩
  · exact ⟨h.1, h.2.2⟩
  · intro t₁ t₂ ⟨h1, h2, h3⟩ hs
    rcases hs.keepsTeardown (h2 ▸ hu) with ⟨w, rfl⟩ | ⟨-, ho⟩
    · refine ⟨?_, ((t₁.closings w).step_continued t₁.scene).logger.trans h2,
        ((t₁.closings w).step_frame t₁.scene).2.1.trans h3⟩
      show ((t₁.closings w).step t₁.scene).2.processor.closed = true
      exact (t₁.closings w).step_closed h1
    · obtain ⟨ht, ha⟩ := ho.shut h1
      exact ⟨(congrArg TeardownState.closed ht).trans h1, ho.logger.trans h2, ha.trans h3⟩

/-- Whatever the order of the steps, a processor is torn down once. The closing that finds the flag
unset does it, and ends with what came of the capture: then the backend is closed too and the module
is gone, and the end is reported if and only if the capture could be released. From the moment when
the flag is set, all other closings and all invocations that begin leave everything as it is. -/
theorem teardown {wasm : Value} {directory : Option String} {settings : Settings}
    {logger : Logger} {backend : Settings → Backend} {site : Site} {p : Processor}
    (hp : (Processor.construct wasm directory settings logger backend site).outcome = .ok p)
    {payloads : κ → Value} {alarms : κ → Alarm} {before t : Traffic κ ω}
    (hb : before = start p
      (Processor.construct wasm directory settings logger backend site).site payloads alarms)
    (ht : Reaches Anyhow before t) :
    (t.processor.captureClosings ≤ 1 ∧ t.processor.backendClosings ≤ 1) ∧
    (t.processor.closed = false → ∀ w removed answer t₁ t₂,
      Reaches Anyhow (t.closingStep w) t₁ → t₁.closings w = .shutting removed →
      Reaches Anyhow t₁ t₂ → t₂.closings w = .finished answer →
      answer = Closing.answer removed ∧ TornDown before removed t₂) ∧
    (t.processor.closed = true → (∀ w, (t.closings w).Idle) →
      ∃ removed, TornDown before removed t) ∧
    (t.processor.closed = true →
      (∀ t', Reaches Anyhow t t' →
        t'.processor.closed = true ∧ t'.processor.accepted = t.processor.accepted) ∧
      (∀ w, t.closings w = .request →
        t.closingStep w =
          { t with closings := Function.update t.closings w (.finished (.ok ())) }) ∧
      t.scene.close = (.ok (), t.scene) ∧
      (∀ k payload, t.calls k = .admission payload →
        t.callStep k = { t with
          calls := Function.update t.calls k (.finished (.error (.failure .processorClosed))) }) ∧
      ∀ payload,
        t.scene.invoke payload = (.error (.failure .processorClosed), t.scene) ∧
        t.scene.process payload = (.error (.failure .processorClosed), t.scene) ∧
        ∀ k, Scene.again payload (t.view k) =
          (.error (.failure .processorClosed), (t.view k).tick)) := by
  obtain ⟨content, m, capture, -, origin⟩ := Processor.construct_origin hp
  have hu : before.processor.logger.Usable := by
    rw [hb]
    show p.logger.Usable
    rw [origin.made]
    exact origin.usable
  have hfresh : before.processor.captureClosings = 0 ∧ before.processor.backendClosings = 0 ∧
      before.processor.closed = false := by
    rw [hb]
    show p.captureClosings = 0 ∧ p.backendClosings = 0 ∧ p.closed = false
    rw [origin.made]
    exact ⟨rfl, rfl, rfl⟩
  obtain ⟨hcap, hback, hopen⟩ := hfresh
  have hstart : Teardown before.scene.teardownState before.processor.logger before := by
    apply Teardown.ahead rfl rfl
    intro w
    rw [hb]
    rfl
  have hteardown : Teardown before.scene.teardownState before.processor.logger t :=
    hstart.reaches hopen hu ht
  refine ⟨hteardown.once hcap hback, ?_, hteardown.tornDown hcap hback hopen, ?_⟩
  · intro ho w removed answer t₁ t₂ h₁ hw h₂ hend
    exact hteardown.ended hu hcap hback ho h₁ hw h₂ hend
  · intro hc
    have hl := hteardown.logs
    have hinvoke : ∀ payload, t.scene.invoke payload =
        (.error (.failure .processorClosed), t.scene) := fun payload =>
      Scene.invoke_shut hc rfl
    refine ⟨fun t' h => closed_reaches (hl ▸ hu) hc h, fun w => closingStep_request hc,
      Scene.close_shut hc, fun k payload => callStep_admission hc, fun payload => ?_⟩
    refine ⟨hinvoke payload, ?_, fun k => Scene.again_shut hc⟩
    unfold Scene.process
    rw [hinvoke payload]
    rfl

end Traffic

namespace Sample

def lightSettings : Settings := { settings with capture := .buffered }

def lightAttempt : Attempt :=
  Processor.construct (.bytes .fixed [0]) none lightSettings (.leveled 10) (fun _ => backend)
    ⟨volume, [], .zero⟩

def lightProcessor : Processor :=
  .fresh lightSettings (.leveled 10) backend ⟨.null, .int 0, ""⟩ .buffered [.compile [0]]

theorem light_made : (Processor.construct (.bytes .fixed [0]) none lightSettings (.leveled 10)
    (fun _ => backend) ⟨volume, [], .zero⟩).outcome = .ok lightProcessor := rfl

def crossing : Traffic Unit Bool :=
  .start lightProcessor lightAttempt.site (fun _ => .text "hi") fun _ => .off

def crossed : Traffic Unit Bool := (crossing.closingStep false).closingStep false

def cleared : Traffic Unit Bool :=
  (((crossed.closingStep true).closingStep false).closingStep false).closingStep false

def sealedAttempt : Attempt :=
  Processor.construct (.bytes .fixed [0]) none { settings with scratchDirectory := none }
    (.leveled 10) (fun _ => backend)
    ⟨{ volume with schedule := Files.Schedule.quiet.failing .examine 13 1 }, [], .zero⟩

def sealedProcessor : Processor :=
  .fresh { settings with scratchDirectory := none } (.leveled 10) backend ⟨.null, .int 0, ""⟩
    (.files ⟨⟨.single, ["wasi_processor_00000001"]⟩, true, "000000000001"⟩ 0) [.compile [0]]

theorem sealed_made : sealedAttempt.outcome = .ok sealedProcessor := rfl

def sealing : Traffic Unit Unit :=
  .start sealedProcessor sealedAttempt.site (fun _ => .text "hi") fun _ => .off

def sealed (n : Nat) : Traffic Unit Unit := Nat.repeat (fun t => t.closingStep ()) n sealing

theorem sealed_reaches (m n : Nat) :
    Traffic.Reaches Traffic.Anyhow (sealed m) (sealed (m + n)) := by
  induction n with
  | zero => exact .refl _
  | succ n ih => exact ih.snoc (.closing ())

end Sample

/-- The first closing ends and has torn the processor down once, while the other one has returned in
the middle of it. A closing that cannot even look for its directory raises the bare error, and has
torn the processor down as well. -/
theorem teardown_sample :
    (Sample.cleared.closings true = .finished (.ok ()) ∧
      Traffic.TornDown Sample.crossing (.ok none) Sample.cleared) ∧
    (Sample.sealed 6).closings () = .finished (.error (.os (.coded 13 none))) ∧
      Traffic.TornDown Sample.sealing (.error (.os (.coded 13 none))) (Sample.sealed 6) := by
  have hreach : Traffic.Reaches Traffic.Anyhow Sample.crossed Sample.cleared :=
    (((Traffic.Reaches.refl _).snoc (.closing true)).snoc (.closing false)).snoc
      (.closing false) |>.snoc (.closing false)
  have hstart : Traffic.Reaches Traffic.Anyhow Sample.crossing Sample.crossing := .refl _
  have h := (Traffic.teardown Sample.light_made rfl hstart).2.1 rfl false (.ok none) (.ok ())
    Sample.crossed Sample.cleared ((Traffic.Reaches.refl _).snoc (.closing false)) rfl hreach rfl
  have hsealed := (Traffic.teardown Sample.sealed_made rfl (Sample.sealed_reaches 0 0)).2.1 rfl ()
    (.error (.os (.coded 13 none))) (.error (.os (.coded 13 none))) (Sample.sealed 4)
    (Sample.sealed 6) (Sample.sealed_reaches 1 3) rfl (Sample.sealed_reaches 4 2) rfl
  exact ⟨⟨rfl, h.2⟩, rfl, hsealed.2⟩

end GuestRunner
