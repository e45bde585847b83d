import GuestRunner.Processor.Closing

/-!
# Every closing ends

After three steps it is known how many files a closing has to remove, and each later step leaves
fewer steps. So all the steps in a row end with an answer, and whatever every step keeps holds of
that end.
-/

set_option autoImplicit false

namespace GuestRunner

namespace Closing

def Idle (k : Closing) : Prop := k = .request ∨ ∃ answer, k = .finished answer

def stage : Closing → Nat
  | .request => 0
  | .detaching => 1
  | .cleaning _ .look | .cleaning _ .list => 2
  | _ => 3

def togo : Closing → Nat
  | .cleaning _ c => c.left + 4
  | .shutting _ => 3
  | .dropping _ => 2
  | .reporting _ => 1
  | _ => 0

theorem step_stage (k : Closing) (s : Scene) : min (k.stage + 1) 3 ≤ (k.step s).1.stage := by
  cases k with
  | request =>
    simp only [step]
    split <;> simp [stage]
  | detaching =>
    simp only [step]
    split
    · simp [stage]
    · rename_i scratch opened hc
      cases hs : scratch.owned <;> simp [stage, Cleanup.start, hs]
  | cleaning scratch c =>
    cases c with
    | look =>
      simp only [step, Cleanup.step]
      split
      · split <;> simp [stage]
      · simp [stage]
    | removeFiles left removed =>
      cases left with
      | nil => simp [step, Cleanup.step, stage]
      | cons file rest =>
        simp only [step, Cleanup.step]
        split
        · simp [stage]
        · split <;> simp [stage]
    | removeDirectory =>
      simp only [step, Cleanup.step]
      split <;> simp [stage]
    | _ => simp [step, Cleanup.step, stage]
  | dropping removed => cases removed <;> simp [step, stage]
  | _ => simp [step, stage]

theorem step_togo {k : Closing} (s : Scene) (hk : k.stage = 3) :
    (k.step s).1.togo ≤ k.togo - 1 := by
  cases k with
  | request => cases hk
  | detaching => cases hk
  | cleaning scratch c =>
    cases c with
    | look => cases hk
    | list => cases hk
    | removeFiles left removed =>
      cases left with
      | nil => simp [step, Cleanup.step, togo, Cleanup.left]
      | cons file rest =>
        simp only [step, Cleanup.step]
        split
        · simp [togo, Cleanup.left]
        · split <;> simp [togo, Cleanup.left]
    | removeDirectory =>
      simp only [step, Cleanup.step]
      split <;> simp [togo, Cleanup.left]
    | finished removed => simp [step, togo, Cleanup.left]
  | dropping removed => cases removed <;> simp [step, togo]
  | _ => simp [step, togo]

theorem stage_le (k : Closing) : k.stage ≤ 3 := by
  unfold stage
  split <;> omega

theorem steps_succ (n : Nat) (state : Closing × Scene) :
    steps (n + 1) state = step (steps n state).1 (steps n state).2 := rfl

theorem steps_stage (n : Nat) (k : Closing) (s : Scene) :
    min (k.stage + n) 3 ≤ (steps n (k, s)).1.stage := by
  induction n with
  | zero => exact Nat.min_le_left _ _
  | succ n ih =>
    have h := step_stage (steps n (k, s)).1 (steps n (k, s)).2
    rw [steps_succ]
    omega

theorem steps_togo (n : Nat) {k : Closing} (s : Scene) (hk : k.stage = 3) :
    (steps n (k, s)).1.togo ≤ k.togo - n := by
  induction n with
  | zero => exact Nat.le_refl _
  | succ n ih =>
    have hn := steps_stage n k s
    have hle := stage_le (steps n (k, s)).1
    have h := step_togo (steps n (k, s)).2 (Nat.le_antisymm hle (by omega))
    rw [steps_succ]
    omega

theorem finished_of_togo {k : Closing} (hs : k.stage = 3) (ht : k.togo = 0) :
    ∃ result, k = .finished result := by
  cases k with
  | finished result => exact ⟨result, rfl⟩
  | request => cases hs
  | detaching => cases hs
  | cleaning scratch c => simp [togo] at ht
  | _ => cases ht

theorem togo_le_left (k : Closing) : k.togo ≤ k.left := by
  cases k <;> simp [togo, left]

theorem request_first {s : Scene} (h : s.processor.closed = false) :
    step .request s = (.detaching,
      { s with processor := { s.processor with closed := true } }) := by
  simp [step, h]

theorem request_shut {s : Scene} (h : s.processor.closed = true) :
    step .request s = (.finished (.ok ()), s) := by
  simp [step, h]

theorem step_closed (k : Closing) {s : Scene} (h : s.processor.closed = true) :
    (k.step s).2.processor.closed = true := by
  cases k with
  | request => simp [step, h]
  | detaching =>
    simp only [step]
    split <;> exact h
  | cleaning scratch c => cases c <;> exact h
  | dropping removed => cases removed <;> exact h
  | _ => exact h

theorem steps_keep {Q : Closing → Scene → Prop}
    (hstep : ∀ k s, Q k s → Q (k.step s).1 (k.step s).2) (n : Nat) {k : Closing} {s : Scene}
    (h : Q k s) : Q (steps n (k, s)).1 (steps n (k, s)).2 := by
  induction n with
  | zero => exact h
  | succ n ih => exact hstep _ _ ih

/-- All the steps in a row come to the end of a closing, where everything holds that every step
keeps. -/
theorem run_keeps {Q : Closing → Scene → Prop}
    (hstep : ∀ k s, Q k s → Q (k.step s).1 (k.step s).2) {k : Closing} {s : Scene} (h : Q k s) :
    ∃ result s', run k s = (.finished result, s') ∧ Q (.finished result) s' := by
  obtain ⟨⟨k₃, s₃⟩, h3⟩ : ∃ state, steps 3 (k, s) = state := ⟨_, rfl⟩
  have hrun : run k s = steps k₃.left (k₃, s₃) := by rw [run, h3]
  have hs := steps_stage 3 k s
  have hq := steps_keep hstep 3 h
  rw [h3] at hs hq
  dsimp only at hs hq
  have hk : k₃.stage = 3 := Nat.le_antisymm (stage_le _) (by omega)
  have hle := stage_le (steps k₃.left (k₃, s₃)).1
  have hn := steps_stage k₃.left k₃ s₃
  have ht := steps_togo k₃.left s₃ hk
  have hl := togo_le_left k₃
  obtain ⟨result, he⟩ := finished_of_togo (k := (steps k₃.left (k₃, s₃)).1)
    (Nat.le_antisymm hle (by omega)) (by omega)
  have hend := steps_keep hstep k₃.left hq
  rw [he] at hend
  exact ⟨result, _, hrun.trans (Prod.ext he rfl), hend⟩

theorem step_shut {s : Scene} (h : s.processor.closed = true) (k : Closing) (s' : Scene) :
    s' = s ∧ (k = .request ∨ k = .finished (.ok ())) →
      (k.step s').2 = s ∧ ((k.step s').1 = .request ∨ (k.step s').1 = .finished (.ok ())) := by
  rintro ⟨rfl, rfl | rfl⟩
  · rw [request_shut h]
    exact ⟨rfl, Or.inr rfl⟩
  · exact ⟨rfl, Or.inr rfl⟩

theorem steps_shut {s : Scene} (h : s.processor.closed = true) (n : Nat) :
    (steps n (.request, s)).2 = s :=
  (steps_keep (step_shut h) n ⟨rfl, Or.inl rfl⟩).1

end Closing

theorem Scene.close_shut {s : Scene} (h : s.processor.closed = true) : s.close = (.ok (), s) := by
  obtain ⟨result, s', hr, rfl, hk⟩ := Closing.run_keeps (Closing.step_shut h) ⟨rfl, Or.inl rfl⟩
  rcases hk with hk | hk <;> cases hk
  unfold close
  rw [hr]
  rfl

end GuestRunner
