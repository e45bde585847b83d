import GuestRunner.Proofs.Processor.Answers
import GuestRunner.Proofs.Processor.Overlap

/-!
# What a closing can take from an invocation

An invocation that succeeds while its processor is closed gives back all that its guest has written
but for what the closing took, and only files can be taken. It does not notice: a stream file that
has been removed counts as empty, so that output may be missing and an error stream may pass for
silent.
-/

set_option autoImplicit false

namespace GuestRunner

open Files Files.Volume Run

namespace Overlap

/-- How an invocation may fail while its processor is closed. Other than failures of the processor's
own there are only a payload or an outcome that is not what it should be, what the backend itself
reports, a guest that writes where the directory is gone, and a stream file that cannot be
removed. -/
inductive ClosedFailure (s : Scene) (payload : Value) (trail : Call.Trail) : Problem → Prop
  | failure (f : Failure) : ClosedFailure s payload trail (.failure f)
  | unreadable (refusal : Refusal) (h : Payload.bytes payload = .error refusal) :
    ClosedFailure s payload trail (.refusal refusal)
  | broken (run : Run) (problem : Problem) (hr : trail.run = some run)
    (h : run.ending = .error problem) : ClosedFailure s payload trail problem
  | unfit (run : Run) (outcome : Outcome) (problem : Problem) (hr : trail.run = some run)
    (h : run.ending = .ok outcome) (hf : Call.fuelOf outcome = .error problem) :
    ClosedFailure s payload trail problem
  | directoryMissing (e : OsError) (h : DirectoryMissing s e) :
    ClosedFailure s payload trail (.os e)
  | unremoved (e : OsError) (h : s.site.volume.Faulty e) : ClosedFailure s payload trail (.os e)

variable {s : Scene} {payload : Value} {o : Overlap} {trail : Call.Trail} {lost : Stream → Bytes}

theorem closedFailure_of_fileFault {problem : Problem}
    (h : (termsOnceGone s payload).FileFault problem) :
    ClosedFailure s payload trail problem := by
  cases h with
  | uncleared name e h => exact .failure _
  | unread name e h => exact .failure _
  | unremoved e h => exact .unremoved e h

theorem closedFailure_of_answer {problem : Problem}
    (h : Call.Answer (termsOnceGone s payload) trail lost (.error problem)) :
    ClosedFailure s payload trail problem := by
  -- A result that was judged is no constructor, so that the cases are split first.
  generalize hr : (Except.error problem : Except Problem Result) = result at h
  cases h with
  | refused h hi =>
    cases hr
    exact .failure _
  | unreadable id refusal hi h =>
    cases hr
    exact .unreadable refusal h
  | barred id problem hi h =>
    cases hr
    exact closedFailure_of_fileFault h
  | judged id run pending hi hrun h =>
    cases h with
    | broken problem h =>
      cases hr
      exact .broken run problem hrun h
    | stumbled e h =>
      cases hr
      exact .directoryMissing e h
    | slipped problem h =>
      cases hr
      exact closedFailure_of_fileFault h
    | drained outcome output stderr h ho he =>
      rcases Call.judge_error hr.symm with ⟨f, rfl⟩ | hf
      · exact .failure f
      · exact .unfit run outcome problem hrun h hf

theorem drained_of_answer {r : Result}
    (h : Call.Answer (termsOnceGone s payload) trail lost (.ok r)) :
    ∃ run outcome, trail.run = some run ∧ run.ending = .ok outcome ∧
      Accounts run.acts (lost .stdout) .stdout run.acts r.output ∧
      Accounts run.acts (lost .stderr) .stderr run.acts r.stderr ∧
      (s.processor.settings.failOnStderr = true → r.stderr = []) := by
  generalize hr : (Except.ok r : Except Problem Result) = result at h
  cases h with
  | judged id run pending hi hrun h =>
    obtain ⟨d, hp, ho, he, hs⟩ := Call.judge_ok hr.symm
    cases h with
    | drained outcome output stderr h hout herr =>
      cases hp
      rw [ho, he]
      exact ⟨run, outcome, hrun, h, hout, herr, hs⟩
    | _ => cases hp
  | _ => cases hr

theorem Phase.answer (h : Phase s payload o) {result : Except Problem Result}
    (hf : o.call = .finished result) :
    Call.Answer (Overlap.termsOnceGone s payload) o.trail o.lost result := by
  cases h with
  | termsWhileThere hs ht hb hc =>
    rw [hf] at hc
    cases hc with
    | finished result v h => exact h.yield (yields s payload)
  | termsOnceGone scratch slot hs ho hg hp hc =>
    rw [hf] at hc
    cases hc with
    | finished result v h => exact h

theorem Phase.kept (h : Phase s payload o) (hb : s.processor.capture = .buffered)
    (stream : Stream) : o.lost stream = [] := by
  cases h with
  | termsWhileThere hs ht hlost hc => rw [hlost hb]
  | termsOnceGone scratch slot hs ho hg hp hc => rw [hb] at hs; cases hs

/-- Whatever the order of the steps, an invocation that succeeds while its processor is closed gives
back what its guest has written, but for what the closing took. From buffers it takes nothing. -/
theorem success_accounts (ho : Open s) (h : Reached s payload o) {result : Except Problem Result}
    (hf : o.call = .finished result) :
    (∀ problem, result = .error problem → ClosedFailure s payload o.trail problem) ∧
    (∀ r, result = .ok r → ∃ run outcome, o.trail.run = some run ∧ run.ending = .ok outcome ∧
      (o.lost .stdout = [] → r.output = streamed .stdout run.acts) ∧
      (o.lost .stderr = [] → r.stderr = streamed .stderr run.acts) ∧
      (WritesOnly run.acts → o.lost .stdout ++ r.output = streamed .stdout run.acts ∧
        o.lost .stderr ++ r.stderr = streamed .stderr run.acts) ∧
      (s.processor.settings.failOnStderr = true → r.stderr = [])) ∧
    (s.processor.capture = .buffered → ∀ stream, o.lost stream = []) := by
  have hp : Phase s payload o := (h.phase ho).2
  refine ⟨fun problem he => ?_, fun r he => ?_, hp.kept⟩
  · subst he
    exact closedFailure_of_answer (hp.answer hf)
  · subst he
    obtain ⟨run, outcome, hr, hend, hout, herr, hs⟩ := drained_of_answer (hp.answer hf)
    refine ⟨run, outcome, hr, hend, fun hl => ?_, fun hl => ?_,
      fun hl => ⟨hout (Or.inr hl), herr (Or.inr hl)⟩, hs⟩
    · rw [hl] at hout
      exact hout.exact
    · rw [hl] at herr
      exact herr.exact

end Overlap

namespace Sample

def strictSettings : Settings := { settings with failOnStderr := true }

def strictAttempt : Attempt :=
  Processor.construct (.bytes .fixed [0]) none strictSettings (.leveled 50) (fun _ => backend)
    ⟨volume, [], .zero⟩

def strictProcessor : Processor :=
  .fresh strictSettings (.leveled 50) backend ⟨.null, .int 0, ""⟩ (.files scratch 0) [.compile [0]]

def strictScene : Scene := .calm strictProcessor strictAttempt.site

def overlapped : Overlap :=
  (Overlap.start strictScene (.text "hi")).play
    (List.replicate 10 false ++ List.replicate 12 true ++ List.replicate 8 false)

theorem strict_open : Overlap.Open strictScene where
  reachable := .made (.bytes .fixed [0]) none strictSettings (.leveled 50) (fun _ => backend)
    ⟨volume, [], .zero⟩ strictProcessor rfl
  sound s hs := by
    cases hs
    exact box_sound (by decide) rfl rfl
  fits s slot hs := by
    cases hs
    intro stream
    cases stream <;> decide +kernel
  honest e he := by
    obtain ⟨call, code, hx, -⟩ := he
    cases hx
  plain _ _ _ _ := ⟨trivial, trivial, trivial, trivial⟩

end Sample

def Call.success? : Call → Option (Bytes × Bytes)
  | .finished (.ok r) => some (r.output, r.stderr)
  | _ => none

theorem Call.finished_of_success {c : Call} {output stderr : Bytes}
    (h : c.success? = some (output, stderr)) :
    ∃ r, c = .finished (.ok r) ∧ r.output = output ∧ r.stderr = stderr := by
  unfold success? at h
  split at h
  · cases h
    exact ⟨_, rfl, rfl, rfl⟩
  · cases h

namespace Sample

theorem overlapped_success : overlapped.call.success? = some ([], []) := by decide +kernel

theorem overlapped_run : (overlapped.trail.run.map fun run =>
    (decide (WritesOnly run.acts), streamed .stdout run.acts, streamed .stderr run.acts)) =
      some (true, [104, 105], [33]) := by decide +kernel

end Sample

/-- The closing has taken all that the guest wrote. -/
theorem success_accounts_sample :
    ∃ r run, Sample.overlapped.call = .finished (.ok r) ∧
      Sample.overlapped.trail.run = some run ∧
      Sample.overlapped.lost .stdout ++ r.output = streamed .stdout run.acts ∧
      Sample.overlapped.lost .stderr ++ r.stderr = streamed .stderr run.acts := by
  obtain ⟨r, hr, -⟩ := Call.finished_of_success Sample.overlapped_success
  have hreached : Overlap.Reached Sample.strictScene (.text "hi") Sample.overlapped :=
    Overlap.play_reached .start _
  obtain ⟨-, h, -⟩ := Overlap.success_accounts Sample.strict_open hreached hr
  obtain ⟨run, outcome, hrun, -, -, -, hloose, -⟩ := h r rfl
  have hacts := Sample.overlapped_run
  rw [hrun] at hacts
  simp only [Option.map_some, Option.some.injEq, Prod.mk.injEq, decide_eq_true_eq] at hacts
  exact ⟨r, run, hr, hrun, hloose hacts.1⟩

/-- An invocation can succeed without the output that its guest has written, also where what the
guest wrote to the error stream should have failed it. -/
theorem success_incomplete :
    Overlap.Open Sample.strictScene ∧
      Overlap.Reached Sample.strictScene (.text "hi") Sample.overlapped ∧
      Sample.strictScene.processor.settings.failOnStderr = true ∧
      ∃ r run, Sample.overlapped.call = .finished (.ok r) ∧
        Sample.overlapped.trail.run = some run ∧ r.output ≠ streamed .stdout run.acts ∧
        streamed .stderr run.acts ≠ [] := by
  obtain ⟨r, hr, hout, -⟩ := Call.finished_of_success Sample.overlapped_success
  refine ⟨Sample.strict_open, Overlap.play_reached .start _, rfl, r, ?_⟩
  have hacts := Sample.overlapped_run
  cases hrun : Sample.overlapped.trail.run with
  | none => rw [hrun] at hacts; cases hacts
  | some run =>
    rw [hrun] at hacts
    simp only [Option.map_some, Option.some.injEq, Prod.mk.injEq, decide_eq_true_eq] at hacts
    refine ⟨run, hr, rfl, ?_, ?_⟩
    · rw [hout, hacts.2.1]
      decide
    · rw [hacts.2.2]
      decide

end GuestRunner
