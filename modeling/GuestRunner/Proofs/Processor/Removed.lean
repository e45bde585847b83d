import GuestRunner.Proofs.Processor.Reachable
import GuestRunner.Proofs.Processor.Ending

/-!
# What a closing has removed

The directory that a closing reports as removed is the scratch directory of the processor, spelled
as it was when it was set up. If there is none, nothing is reported. A closing that fails says which
of the files it could not remove, unless it could not even look for the directory.
-/

set_option autoImplicit false

namespace GuestRunner

theorem Scene.emit_refuses {s : Scene} {event : Event} {problem : Problem}
    (h : (s.emit event).1 = .error problem) : ∃ refusal, problem = .refusal refusal := by
  simp only [emit, Site.record] at h
  split at h <;> cases h
  exact ⟨_, rfl⟩

def Capture.Directory (c : Capture) (path : String) : Prop :=
  ∃ scratch, c.scratch? = some scratch ∧ path = scratch.path.text

def Removal (paths : String → Prop) : Except Problem (Option String) → Prop
  | .ok removed => ∀ path, removed = some path → paths path
  | .error problem => ∀ f, problem = .failure f → ∃ cause, f = .scratch cause

theorem Cleanup.step_removal (s : Scratch) {paths : String → Prop} (hp : paths s.path.text)
    {c : Cleanup} (h : ∀ removed, c = .finished removed → Removal paths removed)
    (v : Files.Volume) :
    ∀ removed, (c.step s v).1 = .finished removed → Removal paths removed := by
  have hnone : Removal paths (.ok none) := by
    rintro _ ⟨⟩
  have hsome : Removal paths (.ok (some s.path.text)) := by
    rintro _ ⟨⟩
    exact hp
  intro removed hr
  cases c with
  | look =>
    simp only [step] at hr
    split at hr
    · split at hr <;> cases hr
      exact hnone
    · cases hr
      split
      · exact hnone
      · rintro f ⟨⟩
  | removeDirectory =>
    simp only [step] at hr
    split at hr <;> cases hr
    · exact hsome
    · split
      · exact hnone
      · rintro f ⟨⟩
        exact ⟨_, rfl⟩
  | list => cases hr
  | removeFiles left removedAny =>
    cases left with
    | nil =>
      cases hr
      unfold ending
      split
      · exact hsome
      · exact hnone
    | cons file rest =>
      simp only [step] at hr
      split at hr
      · cases hr
      · split at hr <;> cases hr
        rintro f ⟨⟩
        exact ⟨_, rfl⟩
  | finished result => exact h removed hr

namespace Closing

def Removes (paths : String → Prop) : Closing → Prop
  | .cleaning scratch c =>
    paths scratch.path.text ∧ ∀ removed, c = .finished removed → Removal paths removed
  | .shutting removed | .dropping removed => Removal paths removed
  | .reporting removed => Removal paths (.ok removed)
  | .finished answer => ∀ f, answer = .error (.failure f) → ∃ cause, f = .scratch cause
  | _ => True

theorem step_removes {k : Closing} {s : Scene} {paths : String → Prop}
    (hs : ∀ path, s.processor.capture.Directory path → paths path) (h : k.Removes paths) :
    (k.step s).1.Removes paths := by
  cases k with
  | request =>
    simp only [step]
    split
    · rintro f ⟨⟩
    · trivial
  | detaching =>
    simp only [step]
    split
    · rintro path ⟨⟩
    · rename_i scratch opened hc
      have hcapture : s.processor.capture = .files scratch opened := hc
      refine ⟨hs _ ⟨scratch, by rw [hcapture]; rfl, rfl⟩, ?_⟩
      unfold Cleanup.start
      split <;> rintro removed ⟨⟩
  | cleaning scratch c =>
    cases c with
    | finished removed => exact h.2 removed rfl
    | _ => exact ⟨h.1, Cleanup.step_removal scratch h.1 h.2 s.site.volume⟩
  | shutting removed => exact h
  | dropping removed =>
    cases removed with
    | ok path => exact h
    | error problem =>
      rintro f ⟨⟩
      exact h f rfl
  | reporting removed =>
    intro f hf
    obtain ⟨refusal, hr⟩ := Scene.emit_refuses hf
    cases hr
  | finished answer => exact h

end Closing

theorem Scene.close_fails {s : Scene} {f : Failure} (h : s.close.1 = .error (.failure f)) :
    ∃ cause, f = .scratch cause := by
  have hstep : ∀ k s', k.Removes (fun _ => True) →
      (Closing.step k s').1.Removes fun _ => True :=
    fun k s' hk => Closing.step_removes (fun _ _ => trivial) hk
  obtain ⟨answer, s', hrun, hend⟩ := Closing.run_keeps (k := .request) (s := s) hstep trivial
  have hanswer : s.close.1 = answer := by
    rw [close, hrun]
    rfl
  exact hend f (hanswer ▸ h)

end GuestRunner
