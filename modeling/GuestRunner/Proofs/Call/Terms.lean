import GuestRunner.Proofs.Call.Ending
import GuestRunner.Proofs.Capture.Invariant
import GuestRunner.Proofs.Journal.Acceptance

/-!
# The terms of an invocation

What an invocation relies on, what it asks of its files, and what it may come to have in hand. Its
trail keeps what its steps have shown: with the run of its guest it is known what there is to drain.
-/

set_option autoImplicit false

namespace GuestRunner

def Capture.opened : Capture → Nat
  | .buffered => 0
  | .files _ opened => opened

namespace Call

open Files Files.Volume Run

/-- What the steps of an invocation have shown so far: its number, how many sinks were opened before
its own, and what its guest does. -/
structure Trail where
  id : Option Nat
  slot : Option Nat
  run : Option Run

namespace Trail

def start : Trail := ⟨none, none, none⟩

def next (trail : Trail) (c : Call) (s : Scene) : Trail :=
  match c with
  | .admission _ =>
    if s.processor.closed then trail
    else { trail with id := some (s.processor.accepted + 1) }
  | .opening _ =>
    match s.processor.capture with
    | .buffered => trail
    | .files _ opened => { trail with slot := some opened }
  | .starting job sink => { trail with run := some (runOf s job sink) }
  | _ => trail

end Trail

def allDrained (run : Run) : Except Problem Drained :=
  run.ending.map fun outcome => ⟨outcome, streamed .stdout run.acts, streamed .stderr run.acts⟩

def judge (p : Processor) (elapsed : Binary64) (id : Nat) (pending : Except Problem Drained) :
    Except Problem Result := do
  let drained ← pending
  (verdict p.settings.failOnStderr id drained).mapError Problem.failure
  return resultOf p elapsed id drained (← fuelOf drained.outcome)

@[simp] theorem mapError_ok {α β γ : Type} (f : α → β) (c : γ) :
    (Except.ok c : Except α γ).mapError f = .ok c := rfl

@[simp] theorem mapError_error {α β γ : Type} (f : α → β) (a : α) :
    (Except.error a : Except α γ).mapError f = .error (f a) := rfl

theorem fuelOf_typed {outcome : Outcome} {fuel : Option Int}
    (h : outcome.fuelConsumed = Value.ofOption .int fuel) : fuelOf outcome = .ok fuel := by
  unfold fuelOf
  rw [h]
  cases fuel <;> rfl

/-- An invocation that succeeds gives back what was drained. -/
theorem judge_ok {p : Processor} {elapsed : Binary64} {id : Nat} {pending : Except Problem Drained}
    {r : Result} (h : judge p elapsed id pending = .ok r) :
    ∃ d, pending = .ok d ∧ r.output = d.output ∧ r.stderr = d.stderr ∧
      (p.settings.failOnStderr = true → d.stderr = []) := by
  cases pending with
  | error problem => cases h
  | ok d =>
    simp only [judge, bind, Except.bind] at h
    cases hv : verdict p.settings.failOnStderr id d with
    | error f => simp [hv] at h
    | ok _ =>
      cases hf : fuelOf d.outcome with
      | error problem => simp [hv, hf] at h
      | ok fuel =>
        simp only [hv, hf, mapError_ok] at h
        cases h
        refine ⟨d, rfl, rfl, rfl, fun hs => ?_⟩
        by_cases hne : d.stderr = []
        · exact hne
        · simp only [verdict] at hv
          split at hv
          · cases hv
          · simp [hs, hne] at hv

theorem judge_error {p : Processor} {elapsed : Binary64} {id : Nat} {d : Drained}
    {problem : Problem} (h : judge p elapsed id (.ok d) = .error problem) :
    (∃ f, problem = .failure f) ∨ fuelOf d.outcome = .error problem := by
  simp only [judge, bind, Except.bind] at h
  cases hv : verdict p.settings.failOnStderr id d with
  | error f =>
    simp only [hv, mapError_error] at h
    cases h
    exact Or.inl ⟨f, rfl⟩
  | ok _ =>
    cases hf : fuelOf d.outcome with
    | error other =>
      simp only [hv, hf, mapError_ok] at h
      cases h
      exact Or.inr rfl
    | ok fuel => simp [hv, hf] at h; cases h

def endReport (elapsed : Binary64) (id : Nat) : Except Problem Result → List Event
  | .ok result => [.invocationComplete result]
  | .error (.failure f) => [failedEvent elapsed id f]
  | .error _ => []

theorem settle_usable {s : Scene} (h : s.processor.logger.Usable) (id : Nat)
    (pending : Except Problem Drained) :
    settle id pending s =
      (judge s.processor s.site.elapsed id pending,
        s.reported (endReport s.site.elapsed id
          (judge s.processor s.site.elapsed id pending))) := by
  obtain ⟨judged, hj⟩ : ∃ judged, judge s.processor s.site.elapsed id pending = judged := ⟨_, rfl⟩
  rw [hj]
  unfold judge at hj
  unfold settle
  rw [hj]
  cases judged with
  | ok result => simp only [Scene.emit_plain h (Event.invocationComplete_plain result)]; rfl
  | error problem =>
    cases problem with
    | failure f => simp only [Scene.emit_plain h (failedEvent_plain _ _ f)]; rfl
    | refusal r => simp [endReport, Scene.reported]
    | os e => simp [endReport, Scene.reported]

def asks : Call → List Files.Call
  | .clearing .. => [.truncate]
  | .draining .. | .drainingError .. => [.open]
  | .releasing .. => [.unlink]
  | _ => []

def callsLeft (c : Call) : Files.Call → Nat
  | .truncate => min 2 (6 - c.stage)
  | .open => if c.stage < stepsBeforeRun then 2 else min 2 (c.togo - 3)
  | .unlink => if c.stage < stepsBeforeRun then 2 else min 2 (c.togo - 1)
  | _ => 0

theorem Move.callsLeft {again : Again} {c c' : Call} {s s' : Scene} (h : Move again c s c' s')
    (call : Files.Call) : c'.callsLeft call + c.asks.count call ≤ c.callsLeft call := by
  cases h with
  | blocked job sink stream s v problem h =>
    cases stream <;> cases call <;>
      simp [Call.callsLeft, Call.stage, Call.togo, stepsBeforeRun, asks]
  | stuck id sink sink' stream pending s v e h =>
    cases stream <;> cases call <;>
      simp [Call.callsLeft, Call.stage, Call.togo, stepsBeforeRun, asks]
  | _ => cases call <;> simp [Call.callsLeft, Call.stage, Call.togo, stepsBeforeRun, asks]

theorem Move.unfailing {again : Again} {c c' : Call} {s s' : Scene} (h : Move again c s c' s')
    (hs : ∀ call, s.site.volume.Faultless call (c.callsLeft call)) :
    ∀ call ∈ c.asks, ∀ e, ¬ s.site.volume.Fails call e := by
  intro call hc e
  have hpos := List.count_pos_iff.mpr hc
  have hle := h.callsLeft call
  exact ((hs call).mono (by omega)).not_fails e

/-- What an invocation relies on, and how it may fail. -/
structure Terms where
  processor : Processor
  elapsed : Binary64
  payload : Value
  /-- Whether the processor may be found closed. -/
  closable : Prop
  /-- Whether the sinks have files. -/
  files : Prop
  excused : OsError → Prop
  /-- What the calls to the files may fail with. -/
  fileFaults : OsError → Prop
  holds : Sink → Volume → Prop

structure Terms.Satisfied (t : Terms) (s : Scene) : Prop where
  settings : s.processor.settings = t.processor.settings
  backend : s.processor.backend = t.processor.backend
  logger : s.processor.logger.Usable
  elapsed : s.site.elapsed = t.elapsed
  closed : s.processor.closed = true → t.closable

inductive Terms.FileFault (t : Terms) : Problem → Prop
  | uncleared (name : String) (e : OsError) (h : t.fileFaults e) :
    FileFault t (.failure (.scratch (.truncate name e)))
  | unread (name : String) (e : OsError) (h : t.fileFaults e) :
    FileFault t (.failure (.scratch (.read name e)))
  | unremoved (e : OsError) (h : t.fileFaults e) : FileFault t (.os e)

def Terms.Meets (t : Terms) (c : Call) (v : Volume) : Prop :=
  t.files → ∀ call ∈ c.asks, ∀ e, v.Fails call e → t.fileFaults e ∧ e.isMissing = false

inductive AfterGuest (t : Terms) (run : Run) (lost : Stream → Bytes) : Except Problem Drained → Prop
  | broken (problem : Problem) (h : run.ending = .error problem) :
    AfterGuest t run lost (.error problem)
  | stumbled (e : OsError) (h : t.excused e) : AfterGuest t run lost (.error (.os e))
  | slipped (problem : Problem) (h : t.FileFault problem) : AfterGuest t run lost (.error problem)
  | drained (outcome : Outcome) (output stderr : Bytes) (h : run.ending = .ok outcome)
    (ho : Accounts run.acts (lost .stdout) .stdout run.acts output)
    (he : Accounts run.acts (lost .stderr) .stderr run.acts stderr) :
    AfterGuest t run lost (.ok ⟨outcome, output, stderr⟩)

theorem Terms.FileFault.fileFaults {t : Terms} {problem : Problem} (h : t.FileFault problem) :
    ∃ e, t.fileFaults e := by
  cases h with
  | uncleared name e h => exact ⟨e, h⟩
  | unread name e h => exact ⟨e, h⟩
  | unremoved e h => exact ⟨e, h⟩

theorem AfterGuest.exact {t : Terms} {run : Run} {pending : Except Problem Drained}
    (h : AfterGuest t run (fun _ => []) pending) (hx : ∀ e, ¬ t.excused e)
    (hs : ∀ e, ¬ t.fileFaults e) :
    pending = allDrained run := by
  cases h with
  | broken problem h => rw [allDrained, h]; rfl
  | stumbled e h => exact absurd h (hx e)
  | slipped problem h =>
    obtain ⟨e, he⟩ := h.fileFaults
    exact absurd he (hs e)
  | drained outcome output stderr h ho he => rw [allDrained, h, ho.exact, he.exact]; rfl

inductive Answer (t : Terms) (trail : Trail) (lost : Stream → Bytes) :
    Except Problem Result → Prop
  | refused (h : t.closable) (hi : trail.id = none) :
    Answer t trail lost (.error (.failure .processorClosed))
  | unreadable (id : Nat) (refusal : Refusal) (hi : trail.id = some id)
    (h : Payload.bytes t.payload = .error refusal) : Answer t trail lost (.error (.refusal refusal))
  | barred (id : Nat) (problem : Problem) (hi : trail.id = some id) (h : t.FileFault problem) :
    Answer t trail lost (.error problem)
  | judged (id : Nat) (run : Run) (pending : Except Problem Drained) (hi : trail.id = some id)
    (hr : trail.run = some run) (h : AfterGuest t run lost pending) :
    Answer t trail lost (judge t.processor t.elapsed id pending)

end Call

end GuestRunner
