import GuestRunner.Proofs.Call.Course

/-!
# Undisturbed invocations

All the steps of an invocation in a row, with nobody else at work. Up to the start of the guest they
are known one by one; from there on the invocation keeps to its course.
-/

set_option autoImplicit false

namespace GuestRunner

namespace Scene

def nextId (s : Scene) : Nat := s.processor.accepted + 1

def nextSink (s : Scene) : Sink := (s.processor.capture.nextSink (Value.ofNat s.nextId)).1

def nextJob (s : Scene) (content : Bytes) : Job := ⟨s.nextId, s.processor.module, content⟩

def nextRun (s : Scene) (content : Bytes) : Run :=
  s.processor.backend.run s.processor.backendClosed s.processor.module
    (Call.contextOf s.processor (s.nextJob content) s.nextSink) (s.nextSink.prepare s.site.volume).2

/-- The files of the next sink are resolved, and no call to them fails. Buffers are always healthy.
-/
def Healthy (s : Scene) : Prop :=
  ∃ place, s.nextSink.Resolved place s.site.volume ∧
    (s.nextSink.filePaths ≠ none → ∀ call, s.site.volume.Faultless call 2)

end Scene

namespace Call

open Files Files.Volume Run

variable {here : Place → Prop} {t : Terms} {trail : Trail} {lost : Stream → Bytes}
  {again : Again} {c c' : Call} {s s' : Scene}

theorem step_calm (again : Again) (c : Call) (h : s.alarm = .off) :
    step again c s = advance again c s := by
  have ht : s.tick = s := by simp [Scene.tick, h]
  cases c with
  | finished result => rfl
  | _ => simp only [step, ht]

theorem steps_step {n : Nat} (h : step again c s = (c', s')) :
    steps again (n + 1) (c, s) = steps again n (c', s') := by
  rw [Nat.add_comm, steps_add, ← h]
  rfl

structure Underway (t : Terms) (trail : Trail) (lost : Stream → Bytes) (accepted : Nat) (c : Call)
    (s : Scene) : Prop where
  course : Course t trail lost c s.site.volume
  satisfied : t.Satisfied s
  calm : s.alarm = .off
  faultless : t.files → ∀ call, s.site.volume.Faultless call (c.callsLeft call)
  stage : c.stage = stepsBeforeRun
  accepted : s.processor.accepted = accepted

theorem StepEffect.satisfied (h : StepEffect here c s c' s') (hu : t.Satisfied s) :
    t.Satisfied s' where
  settings := h.settings.trans hu.settings
  backend := h.backend.trans hu.backend
  logger := h.logger ▸ hu.logger
  elapsed := h.elapsed.trans hu.elapsed
  closed hc := hu.closed (h.closed ▸ hc)

theorem StepEffect.faultless (h : StepEffect here c s c' s') (hm : Move again c s c' s')
    (hs : ∀ call, s.site.volume.Faultless call (c.callsLeft call)) (call : Files.Call) :
    s'.site.volume.Faultless call (c'.callsLeft call) :=
  h.touches.faultless call _ ((hs call).mono (hm.callsLeft call))

theorem Trail.next_started (trail : Trail) (s : Scene) (h : c.stage = stepsBeforeRun) :
    trail.next c s = trail := by
  cases c with
  | clearing job sink stream => rfl
  | _ => first | rfl | cases h

theorem Underway.step {n : Nat} (hv : Sink.Invariant t.files here t.excused t.holds)
    (h : Underway t trail lost n c s) :
    Underway t trail lost n (step again c s).1 (step again c s).2 := by
  have hm := calm_move again c h.calm
  have hopen : ∀ job, c ≠ .opening job := fun job he => by
    have hs := h.stage
    rw [he] at hs
    cases hs
  have hstart : ∀ job sink, c ≠ .starting job sink := fun job sink he => by
    have hs := h.stage
    rw [he] at hs
    cases hs
  have hfirst : ∀ payload, c ≠ .admission payload := fun payload he => by
    have hs := h.stage
    rw [he] at hs
    cases hs
  obtain ⟨hc, hd⟩ := hm.course hv h.course h.satisfied
    (fun hf call ha e he => absurd he (hm.unfailing (h.faultless hf) call ha e))
    (fun job he => absurd he (hopen job)) (fun job sink he => absurd he (hstart job sink))
  rw [Trail.next_started trail s h.stage] at hc
  refine ⟨hc, hd.satisfied h.satisfied, hd.alarm.trans h.calm,
    fun hf => hd.faultless hm (h.faultless hf), ?_, ?_⟩
  · have hst := hm.stage
    have hle := stage_le (Call.step again c s).1
    have hs := h.stage
    omega
  · rw [hd.accepted, ← h.accepted]
    cases c with
    | admission payload => exact absurd rfl (hfirst payload)
    | _ => rfl

theorem Underway.ends (again : Again) {n : Nat} (hv : Sink.Invariant t.files here t.excused t.holds)
    (h : Underway t trail lost n c s) (k : Nat) :
    Underway t trail lost n (steps again k (c, s)).1 (steps again k (c, s)).2 :=
  steps_keep (fun _ _ h => h.step hv) k c s h

end Call

end GuestRunner
