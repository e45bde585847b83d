import GuestRunner.Proofs.Backend.Classified
import GuestRunner.Proofs.Call.Terms
import GuestRunner.Proofs.Processor.Removed

/-!
# Measured failures

If a backend classifies its traps, whatever an invocation fails with carries numbers and reasons of
traps, and no text beside its message. It may come from the guest, from the files, from a closing,
or from another invocation that the guest has started.
-/

set_option autoImplicit false

namespace GuestRunner

theorem Problem.ofScratch_measured (cause : OsError → ScratchCause) (e : OsError) :
    (Problem.ofScratch cause e).Measured := by
  cases e with
  | nulInPath => trivial
  | _ => exact Failure.scratch_measured _

namespace Sink

variable {sink : Sink} {stream : Stream} {v v' : Files.Volume} {problem : Problem}

theorem clear_measured (h : sink.clear stream v = (.error problem, v')) : problem.Measured := by
  unfold clear at h
  split at h
  · cases h
  · dsimp only at h
    split at h
    · cases h
    · split at h <;> cases h
      exact Problem.ofScratch_measured _ _

theorem drain_measured {content : Except Problem Bytes} (h : sink.drain stream v = (content, v'))
    (hc : content = .error problem) : problem.Measured := by
  subst hc
  unfold drain at h
  split at h
  · cases h
  · cases h
  · dsimp only at h
    split at h
    · cases h
    · split at h <;> cases h
      exact Problem.ofScratch_measured _ _

end Sink

namespace Call

structure Gathered (pending : Except Problem Drained) : Prop where
  outcome : ∀ d, pending = .ok d → d.outcome.Classified
  problem : ∀ problem, pending = .error problem → problem.Measured

theorem Gathered.failed {problem : Problem} (h : problem.Measured) : Gathered (.error problem) := by
  constructor
  · nofun
  · rintro _ ⟨⟩
    exact h

def Measured : Call → Prop
  | .running _ _ acts ending => Run.Classified ⟨acts, ending⟩
  | .draining _ _ outcome | .drainingError _ _ outcome _ => outcome.Classified
  | .releasing _ _ _ pending | .settling _ pending => Gathered pending
  | .finished answer => ∀ problem, answer = .error problem → problem.Measured
  | _ => True

def Again.Measured (again : Again) : Prop :=
  ∀ payload s, s.processor.logger.Usable → s.processor.backend.Classifies →
    ∀ problem, (again payload s).1 = .error problem → problem.Measured

variable {again : Again} {c c' : Call} {s s' : Scene}

theorem verdict_measured {failOnStderr : Bool} {id : Nat} {d : Drained} {f : Failure}
    (hd : d.outcome.Classified) (h : verdict failOnStderr id d = .error f) : f.Measured := by
  have hcode :
    Value.Measured (if d.outcome.exitCode.isTrue then d.outcome.exitCode else .int 0) := by
    split
    · exact hd.exitCode
    · trivial
  unfold verdict at h
  dsimp only at h
  generalize (if d.outcome.exitCode.isTrue then d.outcome.exitCode else .int 0) = code at hcode h
  split at h
  · rename_i ht
    cases h
    exact ⟨trivial, trivial, trivial, hd.reasoned ht⟩
  · split at h
    · cases h
      exact ⟨trivial, hcode, trivial, Or.inl rfl⟩
    · split at h
      · cases h
        exact ⟨trivial, hcode, trivial, Or.inl rfl⟩
      · cases h

theorem judge_measured {p : Processor} {elapsed : Binary64} {id : Nat}
    {pending : Except Problem Drained} (hp : Gathered pending) {problem : Problem}
    (h : judge p elapsed id pending = .error problem) : problem.Measured := by
  cases pending with
  | error other =>
    cases h
    exact hp.problem _ rfl
  | ok d =>
    simp only [judge, bind, Except.bind] at h
    cases hv : verdict p.settings.failOnStderr id d with
    | error f =>
      simp only [hv, mapError_error] at h
      cases h
      exact verdict_measured (hp.outcome d rfl) hv
    | ok _ =>
      cases hf : fuelOf d.outcome with
      | error other =>
        simp only [hv, hf, mapError_ok] at h
        cases h
        unfold fuelOf at hf
        cases hr : Result.readFuel d.outcome.fuelConsumed <;> rw [hr] at hf <;> cases hf
        trivial
      | ok fuel => simp [hv, hf] at h; cases h

/-- An act of a guest that fails does so over the files, or as another operation of the processor
has failed. -/
theorem perform_measured (ha : again.Measured) (hu : s.processor.logger.Usable)
    (hb : s.processor.backend.Classifies) {sink : Sink} {act : Act} {problem : Problem}
    (h : perform again sink act s = (.error problem, s')) : problem.Measured := by
  have hos : ∀ {done : Except OsError Unit} {sink : Sink},
      ((done.mapError Problem.os).map fun _ => sink) = .error problem → problem.Measured := by
    intro done sink hd
    cases done <;> cases hd
    trivial
  have hfirst := congrArg Prod.fst h
  cases act with
  | process stream payload =>
    simp only [perform] at hfirst
    split at hfirst
    · exact hos hfirst
    · rename_i other s'' he
      cases hfirst
      exact ha payload s hu hb problem (by rw [he])
  | closeProcessor =>
    simp only [perform] at hfirst
    cases hc : s.close.1 with
    | ok _ => rw [hc] at hfirst; cases hfirst
    | error other =>
      rw [hc] at hfirst
      cases hfirst
      cases problem with
      | failure f =>
        obtain ⟨cause, rfl⟩ := Scene.close_fails hc
        exact Failure.scratch_measured cause
      | _ => trivial
  | wait => cases hfirst
  | write stream chunk => exact hos hfirst
  | writeAt stream position chunk => exact hos hfirst
  | removeStreams => exact hos hfirst
  | blockStream stream => exact hos hfirst

/-- Every step keeps an invocation measured. -/
theorem Move.measured (h : Move again c s c' s') (hc : c.Measured) (ha : again.Measured)
    (hu : s.processor.logger.Usable) (hb : s.processor.backend.Classifies) : c'.Measured := by
  cases h with
  | refused payload s h =>
    rintro _ ⟨⟩
    exact Failure.closed_measured _
  | unreadable id module payload s refusal h =>
    rintro _ ⟨⟩
    trivial
  | unannounced id module payload s s' content problem h hs =>
    rintro _ ⟨⟩
    obtain ⟨refusal, rfl⟩ := Scene.emit_refuses (congrArg Prod.fst hs)
    trivial
  | blocked job sink stream s v problem h => exact .failed (Sink.clear_measured h)
  | started job sink s => exact hb _ _ _ _ trivial
  | completed id sink outcome s => exact hc.outcome outcome rfl
  | broken id sink problem s => exact .failed (hc.problem problem rfl)
  | acted id sink sink' act rest ending s s' h => exact ⟨hc.outcome, hc.problem⟩
  | stumbled id sink act rest ending s s' problem h => exact .failed (perform_measured ha hu hb h)
  | drained id sink outcome s v output h => exact hc
  | unread id sink outcome s v problem h => exact .failed (Sink.drain_measured h rfl)
  | drainedError id sink outcome output s v content h =>
    cases content with
    | error problem => exact .failed (Sink.drain_measured h rfl)
    | ok stderr =>
      constructor
      · rintro _ ⟨⟩
        exact hc
      · nofun
  | stuck id sink sink' stream pending s v e h => exact .failed trivial
  | releasedOut id sink sink' pending s v h => exact hc
  | releasedErr id sink sink' pending s v h => exact hc
  | settled id pending s s' result h =>
    rw [settle_usable hu] at h
    intro problem hp
    cases h
    exact judge_measured hc hp
  | rested result s => exact hc
  | _ => trivial

theorem step_measured (ha : again.Measured) (hc : c.Measured) (hu : s.processor.logger.Usable)
    (hb : s.processor.backend.Classifies) : (step again c s).1.Measured := by
  rcases step_move again c s with h | h
  · exact h.measured hc ha hu hb
  · have hk := s.tick_continued
    exact h.measured hc ha (hk.logger ▸ hu) (hk.backend ▸ hb)

end Call

namespace Scene

def againWithin (depth : Nat) : Call.Again :=
  fun payload s => outputOnly (invokeWithin depth payload s)

theorem againWithin_continued (depth : Nat) (payload : Value) (s : Scene) :
    Continued s (againWithin depth payload s).2 :=
  invokeWithin_continued depth payload s

theorem againWithin_succ {depth : Nat} {payload : Value} {s s' : Scene}
    {answer : Except Problem Result}
    (h : Call.run (againWithin depth) (.admission payload) s = (.finished answer, s')) :
    againWithin (depth + 1) payload s = (answer.map (·.output), s') := by
  unfold againWithin at h ⊢
  rw [invokeWithin, h]
  rfl

/-- The invocations that guests start are measured, down to any depth. -/
theorem againWithin_measured (depth : Nat) : (againWithin depth).Measured := by
  induction depth with
  | zero =>
    rintro payload s - - problem ⟨⟩
    trivial
  | succ depth ih =>
    intro payload s hu hb problem hp
    have hstep : ∀ c s', (c.Measured ∧ Continued s s') →
        (Call.step (againWithin depth) c s').1.Measured ∧
          Continued s (Call.step (againWithin depth) c s').2 := by
      intro c s' ⟨hc, hk⟩
      exact ⟨Call.step_measured ih hc (hk.logger ▸ hu) (hk.backend ▸ hb),
        hk.trans (Call.step_continued (againWithin_continued depth) c s')⟩
    obtain ⟨answer, s', hrun, hend, -⟩ :=
      Call.run_keeps _ hstep (c := .admission payload) (s := s) ⟨trivial, .refl s⟩
    rw [againWithin_succ hrun] at hp
    cases answer with
    | ok r => cases hp
    | error other =>
      cases hp
      exact hend problem rfl

end Scene

end GuestRunner
