import GuestRunner.Proofs.Call.Move

/-!
# Every invocation ends

An invocation reaches the first act of its guest, or its end, after a fixed number of steps, and
each later step leaves fewer of them. So all the steps in a row end with an answer, and whatever
every step keeps holds of that end.
-/

set_option autoImplicit false

namespace GuestRunner.Call

theorem steps_succ (again : Again) (n : Nat) (state : Call × Scene) :
    steps again (n + 1) state = step again (steps again n state).1 (steps again n state).2 := rfl

theorem steps_add (again : Again) (m n : Nat) (state : Call × Scene) :
    steps again (m + n) state = steps again n (steps again m state) := by
  induction n with
  | zero => rfl
  | succ n ih => rw [← Nat.add_assoc, steps_succ, ih, steps_succ]

theorem steps_keep {again : Again} {Q : Call → Scene → Prop}
    (hstep : ∀ c s, Q c s → Q (step again c s).1 (step again c s).2) (n : Nat) (c : Call)
    (s : Scene) (h : Q c s) : Q (steps again n (c, s)).1 (steps again n (c, s)).2 := by
  induction n with
  | zero => exact h
  | succ n ih => exact hstep _ _ ih

def stage : Call → Nat
  | .admission _ => 0
  | .fetching .. => 1
  | .intake .. => 2
  | .opening _ => 3
  | .clearing _ _ .stdout => 4
  | .clearing _ _ .stderr => 5
  | .starting .. => 6
  | _ => stepsBeforeRun

def togo : Call → Nat
  | .running _ _ acts _ => acts.length + 6
  | .draining .. => 5
  | .drainingError .. => 4
  | .releasing _ _ .stdout _ => 3
  | .releasing _ _ .stderr _ => 2
  | .settling .. => 1
  | _ => 0

theorem stage_le (c : Call) : c.stage ≤ stepsBeforeRun := by
  unfold stage stepsBeforeRun
  split <;> omega

variable {again : Again} {c c' : Call} {s s' : Scene}

theorem Move.stage (h : Move again c s c' s') :
    min (c.stage + 1) stepsBeforeRun ≤ c'.stage := by
  cases h with
  | blocked job sink stream s v problem h => exact Nat.min_le_right _ _
  | _ => simp [Call.stage, stepsBeforeRun]

theorem Move.togo (h : Move again c s c' s') (hc : c.stage = stepsBeforeRun) :
    c'.togo ≤ c.togo - 1 := by
  cases h with
  | stuck id sink sink' stream pending s v e h => cases stream <;> simp [Call.togo]
  | blocked job sink stream s v problem h => cases stream <;> cases hc
  | started job sink s => cases hc
  | _ => simp [Call.togo]

theorem step_stage (again : Again) (c : Call) (s : Scene) :
    min (c.stage + 1) stepsBeforeRun ≤ (step again c s).1.stage := by
  rcases step_move again c s with h | h <;> exact h.stage

theorem step_togo (again : Again) {c : Call} (s : Scene) (hc : c.stage = stepsBeforeRun) :
    (step again c s).1.togo ≤ c.togo - 1 := by
  rcases step_move again c s with h | h <;> exact h.togo hc

theorem steps_stage (again : Again) (n : Nat) (c : Call) (s : Scene) :
    min (c.stage + n) stepsBeforeRun ≤ (steps again n (c, s)).1.stage := by
  induction n with
  | zero => exact Nat.min_le_left _ _
  | succ n ih =>
    have h := step_stage again (steps again n (c, s)).1 (steps again n (c, s)).2
    rw [steps_succ]
    omega

theorem steps_togo (again : Again) (n : Nat) {c : Call} (s : Scene)
    (hc : c.stage = stepsBeforeRun) : (steps again n (c, s)).1.togo ≤ c.togo - n := by
  induction n with
  | zero => exact Nat.le_refl _
  | succ n ih =>
    have hn := steps_stage again n c s
    have hle := stage_le (steps again n (c, s)).1
    have h := step_togo again (steps again n (c, s)).2 (Nat.le_antisymm hle (by omega))
    rw [steps_succ]
    omega

theorem finished_of_togo {c : Call} (hs : c.stage = stepsBeforeRun) (ht : c.togo = 0) :
    ∃ result, c = .finished result := by
  cases c with
  | finished result => exact ⟨result, rfl⟩
  | clearing job sink stream => cases stream <;> cases hs
  | releasing id sink stream pending => cases stream <;> cases ht
  | running => simp [Call.togo] at ht
  | draining => cases ht
  | drainingError => cases ht
  | settling => cases ht
  | _ => cases hs

theorem togo_le_left {c : Call} (hs : c.stage = stepsBeforeRun) : c.togo ≤ c.left := by
  cases c with
  | clearing job sink stream => cases stream <;> cases hs
  | releasing id sink stream pending => cases stream <;> simp [Call.togo, left]
  | _ => simp [Call.togo, left]

/-- All the steps in a row come to the end of an invocation. -/
theorem run_ends (again : Again) (c : Call) (s : Scene) :
    ∃ n result s', run again c s = steps again n (c, s) ∧
      run again c s = (.finished result, s') := by
  have hs := steps_stage again stepsBeforeRun c s
  have hle := stage_le (steps again stepsBeforeRun (c, s)).1
  have h0 : (steps again stepsBeforeRun (c, s)).1.stage = stepsBeforeRun :=
    Nat.le_antisymm hle (by omega)
  -- The steps that a run makes in addition are counted from here, and are enough.
  have hl := togo_le_left h0
  let k := (steps again stepsBeforeRun (c, s)).1.left
  have hr : run again c s = steps again (stepsBeforeRun + k) (c, s) :=
    (steps_add again stepsBeforeRun k (c, s)).symm
  have ht := steps_togo again k (steps again stepsBeforeRun (c, s)).2 h0
  have hn := steps_stage again (stepsBeforeRun + k) c s
  have hk := stage_le (steps again (stepsBeforeRun + k) (c, s)).1
  rw [← steps_add] at ht
  obtain ⟨result, he⟩ := finished_of_togo (c := (steps again (stepsBeforeRun + k) (c, s)).1)
    (Nat.le_antisymm hk (by omega)) (by omega)
  exact ⟨_, result, _, hr, hr.trans (Prod.ext he rfl)⟩

theorem run_keeps (again : Again) {Q : Call → Scene → Prop}
    (hstep : ∀ c s, Q c s → Q (step again c s).1 (step again c s).2) (h : Q c s) :
    ∃ result s', run again c s = (.finished result, s') ∧ Q (.finished result) s' := by
  obtain ⟨n, result, s', hn, hr⟩ := run_ends again c s
  have hq := steps_keep hstep n c s h
  rw [← hn, hr] at hq
  exact ⟨result, s', hr, hq⟩

theorem calm_move (again : Again) (c : Call) {s : Scene} (h : s.alarm = .off) :
    Move again c s (step again c s).1 (step again c s).2 := by
  have ht : s.tick = s := by simp [Scene.tick, h]
  rcases step_move again c s with h | h
  · exact h
  · rwa [ht] at h

end GuestRunner.Call
