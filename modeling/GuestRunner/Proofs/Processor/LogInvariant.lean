import GuestRunner.Proofs.Call.Trace
import GuestRunner.Proofs.Processor.TeardownState
import GuestRunner.Proofs.Processor.Traffic

/-!
# The log of a processor

All that a processor reports after its construction stands in one log, in the order in which it was
reported. However the steps of invocations and closings are mixed, the log has one trace for each
number that was given out, one deadline for each alarm that went off and at most one closing.
-/

set_option autoImplicit false

namespace GuestRunner

theorem Scene.admitting_continued (s : Scene) : Continued s s.admitting := ⟨rfl, rfl, rfl, rfl, id⟩

namespace Call

variable {κ : Type} [DecidableEq κ] {k : κ} {again : Again} {wellBehaved : Value → Scene → Prop}
  {c : Call} {s : Scene} {n : Nat} {trace : List (LogEntry κ)}

theorem step_logs (ht : TraceSoFar n c trace) (hr : s.Ready) (hn : n ≤ s.processor.accepted)
    (hc : c.WellBehaved again wellBehaved s.tick) (ha : again.Logs k wellBehaved) :
    ∃ logged : List (LogEntry κ), Scene.Logs k (some n) s logged (step again c s).2 ∧
      TraceSoFar n (step again c s).1 (trace ++ LogEntry.about n logged) := by
  by_cases hf : ∃ result, c = .finished result
  · obtain ⟨result, rfl⟩ := hf
    exact ⟨[], .refl s, by simpa [step] using ht⟩
  · have hstep := step_advance again s fun result he => hf ⟨result, he⟩
    obtain ⟨first, hfirst⟩ := Scene.tick_logs (k := k) hr
    obtain ⟨hfirst, hown⟩ := hfirst.foreign hn
    have hn' : n ≤ s.tick.processor.accepted := Nat.le_trans hn hfirst.accepted
    obtain ⟨logged, htales, hs⟩ :=
      (advance_move again c s.tick).logs ht (hr.continued hfirst.continued) hn' hc ha
    rw [hstep]
    refine ⟨first ++ logged, hfirst.trans htales fun m hm => ?_, ?_⟩
    · cases hm
      exact hn
    · rw [LogEntry.about_append, hown]
      exact hs

inductive OnItsOwn (k : κ) (payload : Value) (s : Scene) : Call → Scene → Prop
  | waiting : OnItsOwn k payload s (.admission payload) s
  | refused (logged : List (LogEntry κ)) (s' : Scene) (h : Scene.Logs k none s logged s') :
    OnItsOwn k payload s (.finished (.error (.failure .processorClosed))) s'
  | inside (first logged : List (LogEntry κ)) (c : Call) (s₁ s' : Scene)
    (hf : Scene.Logs k none s first s₁)
    (ht : Scene.Logs k (some (s₁.processor.accepted + 1)) s₁.admitting logged s')
    (hs : TraceSoFar (s₁.processor.accepted + 1) c
      (LogEntry.about (s₁.processor.accepted + 1) logged)) :
    OnItsOwn k payload s c s'

variable {payload : Value} {s' : Scene}

theorem OnItsOwn.step (h : OnItsOwn k payload s c s') (hr : s.Ready)
    (hc : c.WellBehaved again wellBehaved s'.tick) (ha : again.Logs k wellBehaved) :
    OnItsOwn k payload s (step again c s').1 (step again c s').2 := by
  cases h with
  | waiting =>
    obtain ⟨first, hfirst⟩ := Scene.tick_logs (k := k) hr
    cases hcl : s.tick.processor.closed with
    | true =>
      have hstep : Call.step again (.admission payload) s =
          (.finished (.error (.failure .processorClosed)), s.tick) := by
        simp [Call.step, advance, hcl]
      rw [hstep]
      exact .refused first _ hfirst
    | false =>
      have hstep : Call.step again (.admission payload) s =
          (.fetching (s.tick.processor.accepted + 1) payload, s.tick.admitting) := by
        simp [Call.step, advance, hcl, Scene.admitting]
      rw [hstep]
      exact .inside first [] _ s.tick _ hfirst (.refl _) (.fetching payload)
  | refused logged s' h => exact .refused logged s' h
  | inside first logged c s₁ s' hf ht hs =>
    have hr' : s'.Ready := (hr.continued hf.continued).continued
      (s₁.admitting_continued.trans ht.continued)
    obtain ⟨more, hmore, hs'⟩ := step_logs hs hr' ht.accepted hc ha
    refine .inside first (logged ++ more) _ s₁ _ hf (ht.trans hmore fun m hm => ?_) ?_
    · cases hm
      exact Nat.le_refl _
    · rw [LogEntry.about_append]
      exact hs'

/-- At its end such an invocation has logged its whole trace, and nothing of those before it. -/
theorem OnItsOwn.ended {result : Except Problem Result}
    (h : OnItsOwn k payload s (.finished result) s') :
    ∃ logged : List (LogEntry κ), Scene.Logs k none s logged s' := by
  generalize hf : Call.finished result = c at h
  cases h with
  | waiting => cases hf
  | refused logged s' h => exact ⟨logged, h⟩
  | inside first logged c s₁ s' hfirst ht hs =>
    subst hf
    have hown : Scene.Logs k none s₁ logged s' := by
      have hle : s₁.processor.accepted + 1 ≤ s'.processor.accepted := ht.accepted
      constructor
      · exact s₁.admitting_continued.trans ht.continued
      · exact ht.journal
      · omega
      · intro id hid _
        apply ht.past id (Nat.le_succ_of_le hid)
        simp only [ne_eq, Option.some.injEq]
        omega
      · intro id hlow hhigh
        by_cases hid : id = s₁.processor.accepted + 1
        · subst hid
          exact hs.complete
        · apply ht.nested id ?_ hhigh
          show s₁.processor.accepted + 1 < id
          omega
      · exact ht.future
      · exact ht.shut
      · exact ht.ahead
      · exact ht.alarm
      · exact ht.others
    exact ⟨first ++ logged, hfirst.trans hown nofun⟩

end Call

namespace Scene

def wellBehavedWithin : Nat → Value → Scene → Prop
  | 0, _, _ => True
  | depth + 1, payload, s => ∀ n,
    let again : Call.Again := fun payload s => outputOnly (invokeWithin depth payload s)
    let state := Call.steps again n (.admission payload, s)
    state.1.WellBehaved again (wellBehavedWithin depth) state.2.tick

variable {κ : Type} [DecidableEq κ]

/-- Invocations that guests start log whole traces, down to any depth. -/
theorem invokeWithin_logs (k : κ) (depth : Nat) :
    Call.Again.Logs k (fun payload s => outputOnly (invokeWithin depth payload s))
      (wellBehavedWithin depth) := by
  induction depth with
  | zero =>
    intro payload s _ _
    exact ⟨[], .refl s⟩
  | succ depth ih =>
    intro payload s hr hc
    obtain ⟨n, result, s', hn, hrun⟩ := Call.run_ends
      (fun payload s => outputOnly (invokeWithin depth payload s)) (.admission payload) s
    have hvisit : ∀ m, Call.OnItsOwn k payload s
        (Call.steps (fun payload s => outputOnly (invokeWithin depth payload s)) m
          (.admission payload, s)).1
        (Call.steps (fun payload s => outputOnly (invokeWithin depth payload s)) m
          (.admission payload, s)).2 := by
      intro m
      induction m with
      | zero => exact .waiting
      | succ m ihm =>
        rw [Call.steps_succ]
        exact ihm.step hr (hc m) ih
    have hend := hvisit n
    rw [← hn, hrun] at hend
    obtain ⟨logged, ht⟩ := hend.ended
    refine ⟨logged, ?_⟩
    show Logs k none s logged (invokeWithin (depth + 1) payload s).2
    rw [invokeWithin, hrun]
    exact ht

end Scene

namespace Traffic

open Scene

variable {κ ω : Type}

def WellBehaved (t : Traffic κ ω) (k : κ) : Prop :=
  (t.calls k).WellBehaved Scene.again (Scene.wellBehavedWithin Scene.nestingLimit) (t.view k)

def Accounted (t : Traffic κ ω) (log : List (LogEntry κ)) (k : κ) : Prop :=
  match (t.trails k).id with
  | none => (∃ payload, t.calls k = .admission payload) ∨
      t.calls k = .finished (.error (.failure .processorClosed))
  | some n => 0 < n ∧ n ≤ t.processor.accepted ∧
    Call.TraceSoFar n (t.calls k) (LogEntry.about n log)

def Settled (t : Traffic κ ω) (log : List (LogEntry κ)) : Prop :=
  if t.processor.closed then
    (∃ w, ¬ (t.closings w).Idle ∧ LogEntry.closings log = 0 ∧ ∀ j, j ≠ w → (t.closings j).Idle) ∨
      LogEntry.closings log ≤ 1 ∧ ∀ w, (t.closings w).Idle
  else LogEntry.closings log = 0 ∧ ∀ w, t.closings w = .request

variable {before t t' t'' : Traffic κ ω} {log logged : List (LogEntry κ)} {k : κ} {w : ω}
  {s' : Scene}

/-- What is logged of later numbers leaves the account of an invocation as it is. -/
theorem Accounted.foreign (h : t.Accounted log k) (hn : ∀ n, (t.trails k).id = some n →
    n ≤ t.processor.accepted → LogEntry.about n logged = []) (hc : t'.calls k = t.calls k)
    (hi : (t'.trails k).id = (t.trails k).id)
    (ha : t.processor.accepted ≤ t'.processor.accepted) : t'.Accounted (log ++ logged) k := by
  unfold Accounted at h ⊢
  rw [hc, hi]
  cases hid : (t.trails k).id with
  | none => simpa only [hid] using h
  | some n =>
    simp only [hid] at h ⊢
    obtain ⟨h0, hle, hst⟩ := h
    refine ⟨h0, Nat.le_trans hle ha, ?_⟩
    rw [LogEntry.about_append, hn n hid hle, List.append_nil]
    exact hst

structure LogInvariant [DecidableEq κ] (before t : Traffic κ ω) (log : List (LogEntry κ)) :
    Prop where
  ready : t.scene.Ready
  continued : Continued before.scene t.scene
  journal : t.site.journal =
    (before.scene.reported (log.map (LogEntry.event before.processor.settings))).site.journal
  calls : ∀ k, t.Accounted log k
  apart : ∀ j k n, (t.trails j).id = some n → (t.trails k).id = some n → j = k
  nested : ∀ id, 0 < id → id ≤ t.processor.accepted → (∀ k, (t.trails k).id ≠ some id) →
    LogEntry.Complete id (LogEntry.about id log)
  strange : ∀ id, id = 0 ∨ t.processor.accepted < id → LogEntry.about id log = []
  closings : t.Settled log
  alarms : ∀ k, (before.alarms k).Passing (t.alarms k) (LogEntry.deadlines k log)

structure Later (t t' : Traffic κ ω) : Prop where
  accepted : t.processor.accepted ≤ t'.processor.accepted
  kept : ∀ k n, (t.trails k).id = some n → (t'.trails k).id = some n
  fresh : ∀ k n, (t'.trails k).id = some n →
    (t.trails k).id = some n ∨ t.processor.accepted < n

theorem Later.same (ha : t.processor.accepted ≤ t'.processor.accepted)
    (hi : ∀ k, (t'.trails k).id = (t.trails k).id) : Later t t' :=
  ⟨ha, fun k _ hk => (hi k).trans hk, fun k _ hk => Or.inl ((hi k).symm.trans hk)⟩

theorem Later.refl (t : Traffic κ ω) : Later t t := .same (Nat.le_refl _) fun _ => rfl

theorem Later.trans (h : Later t t') (h' : Later t' t'') : Later t t'' where
  accepted := Nat.le_trans h.accepted h'.accepted
  kept k n hk := h'.kept k n (h.kept k n hk)
  fresh k n hk := by
    rcases h'.fresh k n hk with hk' | hlt
    · exact h.fresh k n hk'
    · exact Or.inr (Nat.lt_of_le_of_lt h.accepted hlt)

section Closing

theorem idle_step {c : Closing} {s : Scene} (hc : s.processor.closed = true) (hi : c.Idle) :
    (c.step s).2 = s ∧ (c.step s).1.Idle ∧ (c.logged s : List (LogEntry κ)) = [] := by
  rcases hi with rfl | ⟨answer, rfl⟩
  · rw [Closing.request_shut hc]
    exact ⟨rfl, Or.inr ⟨_, rfl⟩, rfl⟩
  · exact ⟨rfl, Or.inr ⟨answer, rfl⟩, rfl⟩

variable [DecidableEq ω]

theorem closingStep_closings (t : Traffic κ ω) (w : ω) :
    (t.closingStep w).closings w = ((t.closings w).step t.scene).1 ∧
      ∀ j, j ≠ w → (t.closingStep w).closings j = t.closings j := by
  constructor
  · simp [closingStep]
  · intro j hj
    simp [closingStep, hj]

theorem settled_closingStep (h : t.Settled log) (w : ω) :
    (t.closingStep w).Settled (log ++ (t.closings w).logged t.scene) := by
  obtain ⟨hself, hother⟩ := closingStep_closings t w
  have hclosed : (t.closingStep w).processor.closed =
      ((t.closings w).step t.scene).2.processor.closed := rfl
  have hall : ((t.closings w).step t.scene).1.Idle → (∀ j, j ≠ w → (t.closings j).Idle) →
      ∀ j, ((t.closingStep w).closings j).Idle := by
    intro hw hrest j
    by_cases hj : j = w
    · rw [hj, hself]
      exact hw
    · rw [hother j hj]
      exact hrest j hj
  unfold Settled at h ⊢
  rw [LogEntry.closings_append]
  cases hc : t.processor.closed with
  | false =>
    simp only [hc, Bool.false_eq_true, if_false] at h
    obtain ⟨hzero, hreq⟩ := h
    have hstep : (t.closings w).step t.scene =
        (.detaching, { t.scene with processor := { t.processor with closed := true } }) := by
      rw [hreq w]
      exact Closing.request_first hc
    rw [hstep] at hself hclosed
    simp only [hclosed, if_true]
    refine Or.inl ⟨w, ?_, ?_, fun j hj => Or.inl ?_⟩
    · rw [hself]
      rintro (h | ⟨answer, h⟩) <;> cases h
    · rw [hzero, hreq w]
      rfl
    · rw [hother j hj]
      exact hreq j
  | true =>
    -- The closing that makes the step is the one under way, or it rests beside it, or all rest.
    simp only [hc, if_true] at h
    rw [hclosed, (t.closings w).step_closed hc, if_pos rfl]
    rcases h with ⟨b, hb, hzero, hidle⟩ | ⟨hn, hidle⟩
    · by_cases hw : w = b
      · subst hw
        rcases Closing.step_busy (κ := κ) (s := t.scene) hb with ⟨hn, ht⟩ | ⟨answer, he, hn⟩
        · refine Or.inl ⟨w, by rwa [hself], by rw [hzero, ht]; rfl, fun j hj => ?_⟩
          rw [hother j hj]
          exact hidle j hj
        · exact Or.inr ⟨by omega, hall (Or.inr ⟨answer, he⟩) hidle⟩
      · obtain ⟨-, hi, ht⟩ := idle_step (κ := κ) (s := t.scene) hc (hidle w hw)
        refine Or.inl ⟨b, ?_, by rw [hzero, ht]; rfl, fun j hj => ?_⟩
        · rw [hother b (Ne.symm hw)]
          exact hb
        · by_cases hjw : j = w
          · rw [hjw, hself]
            exact hi
          · rw [hother j hjw]
            exact hidle j hj
    · obtain ⟨-, hi, ht⟩ := idle_step (κ := κ) (s := t.scene) hc (hidle w)
      exact Or.inr ⟨by rw [ht]; simpa using hn, hall hi fun j _ => hidle j⟩

end Closing

theorem scene_continued (h : Continued (t.view k) s') (hp : t'.processor = s'.processor) :
    Continued t.scene t'.scene := by
  have hs : t'.scene.processor = s'.processor := hp
  exact ⟨hs ▸ h.settings, hs ▸ h.logger, hs ▸ h.backend, hs ▸ h.scratch, fun _ => rfl⟩

variable [DecidableEq κ]

theorem LogInvariant.traced (h : LogInvariant before t log) {n : Nat}
    (hn : (t.trails k).id = some n) :
    0 < n ∧ n ≤ t.processor.accepted ∧ Call.TraceSoFar n (t.calls k) (LogEntry.about n log) := by
  have hk := h.calls k
  simpa only [Accounted, hn] using hk

theorem LogInvariant.entered (h : LogInvariant before t log) {journal : List Record}
    (hj : journal =
      (t.scene.reported (logged.map (LogEntry.event t.processor.settings))).site.journal) :
    journal = (before.scene.reported
      ((log ++ logged).map (LogEntry.event before.processor.settings))).site.journal := by
  rw [hj]
  show t.site.journal ++ _ = _
  rw [h.journal]
  simp only [reported, List.map_append, Logger.heard_append, List.append_assoc]
  rw [show t.processor.settings = before.processor.settings from h.continued.settings,
    h.continued.logger]

/-- An invocation logs no closing but the one that its guest may begin. -/
theorem Settled.work (h : t.Settled log) {own : Option Nat} (ht : Logs k own (t.view k) logged s')
    (hp : t'.processor = s'.processor) (hc : t'.closings = t.closings) :
    t'.Settled (log ++ logged) := by
  unfold Settled at h ⊢
  rw [hc, hp, LogEntry.closings_append]
  cases hcl : t.processor.closed with
  | true =>
    obtain ⟨hcl', hn⟩ := ht.shut hcl
    simp only [hcl, hcl', if_true, hn, Nat.add_zero] at h ⊢
    exact h
  | false =>
    simp only [hcl, Bool.false_eq_true, if_false] at h
    obtain ⟨hzero, hreq⟩ := h
    rw [hzero, Nat.zero_add]
    rcases ht.ahead hcl with ⟨hcl', hn⟩ | ⟨hcl', hn⟩
    · simp only [hcl', hn, Bool.false_eq_true, if_false]
      exact ⟨trivial, hreq⟩
    · simp only [hcl', if_true]
      exact Or.inr ⟨hn, fun w => Or.inl (hreq w)⟩

/-- The work of one invocation leaves the accounts of all others as they are. -/
theorem LogInvariant.work (h : LogInvariant before t log)
    (ht : Logs k (t.trails k).id (t.view k) logged s') (hp : t'.processor = s'.processor)
    (hs : t'.site = s'.site) (ha : t'.alarms = Function.update t.alarms k s'.alarm)
    (hc : t'.closings = t.closings) (hcalls : ∀ j, j ≠ k → t'.calls j = t.calls j)
    (hids : ∀ j, (t'.trails j).id = (t.trails j).id) (hk : t'.Accounted (log ++ logged) k) :
    LogInvariant before t' (log ++ logged) := by
  have hcont := scene_continued ht.continued hp
  have hacc : t.processor.accepted ≤ t'.processor.accepted := hp ▸ ht.accepted
  -- A number that was given out already is not logged, unless it is the own one.
  have hpast : ∀ n, n ≤ t.processor.accepted → (t.trails k).id ≠ some n →
      LogEntry.about n (log ++ logged) = LogEntry.about n log := by
    intro n hn hne
    rw [LogEntry.about_append, ht.past n hn hne, List.append_nil]
  constructor
  · exact h.ready.continued hcont
  · exact h.continued.trans hcont
  · rw [hs]
    exact h.entered ht.journal
  · intro j
    by_cases hj : j = k
    · rw [hj]
      exact hk
    · exact (h.calls j).foreign (fun n hid hle => ht.past n hle fun he => hj (h.apart j k n hid he))
        (hcalls j hj) (hids j) hacc
  · intro i j n hi hj
    rw [hids] at hi hj
    exact h.apart i j n hi hj
  · intro id h0 hle hno
    have hne : ∀ j, (t.trails j).id ≠ some id := fun j => by
      rw [← hids j]
      exact hno j
    by_cases hid : id ≤ t.processor.accepted
    · rw [hpast id hid (hne k)]
      exact h.nested id h0 hid hne
    · rw [LogEntry.about_append, h.strange id (Or.inr (by omega)), List.nil_append]
      apply ht.nested id
      · exact Nat.lt_of_not_le hid
      · rw [← hp]
        exact hle
  · intro id hid
    rcases hid with rfl | hid
    · have hne : (t.trails k).id ≠ some 0 := fun he => Nat.lt_irrefl 0 (h.traced he).1
      rw [hpast 0 (Nat.zero_le _) hne]
      exact h.strange 0 (Or.inl rfl)
    · rw [LogEntry.about_append, h.strange id (Or.inr (by omega)), List.nil_append]
      exact ht.future id (hp ▸ hid)
  · exact h.closings.work ht hp hc
  · intro j
    rw [ha, LogEntry.deadlines_append]
    by_cases hj : j = k
    · subst hj
      rw [Function.update_self]
      exact (h.alarms j).trans ht.alarm
    · rw [Function.update_of_ne hj, ht.others j hj, List.append_nil]
      exact h.alarms j

theorem LogInvariant.foreign (h : LogInvariant before t log)
    (ht : Logs k none (t.view k) logged s') :
    LogInvariant before (t.put k s') (log ++ logged) := by
  have hp : (t.put k s').processor = s'.processor := rfl
  apply h.work (ht.anybody _) hp rfl rfl rfl (fun _ _ => rfl) fun _ => rfl
  exact (h.calls k).foreign (fun n _ hn => ht.past n hn nofun) rfl rfl ht.accepted

theorem view_ready (h : LogInvariant before t log) (k : κ) : (t.view k).Ready :=
  ⟨h.ready.usable, h.ready.scratch⟩

theorem next_id {c : Call} {s : Scene} {trail : Call.Trail}
    (hc : ∀ payload, c ≠ .admission payload) :
    (trail.next c s).id = trail.id := by
  cases c with
  | admission payload => exact absurd rfl (hc payload)
  | opening job =>
    simp only [Call.Trail.next]
    split <;> rfl
  | _ => rfl

/-- An invocation with a number continues its trace. -/
theorem LogInvariant.numbered (h : LogInvariant before t log) {n : Nat}
    (hn : (t.trails k).id = some n)
    (hc : t.WellBehaved k) :
    ∃ logged, LogInvariant before (t.callStep k) (log ++ logged) ∧ Later t (t.callStep k) := by
  obtain ⟨h0, hle, hst⟩ := h.traced hn
  obtain ⟨logged, ht, hs⟩ := (Call.advance_move Scene.again (t.calls k) (t.view k)).logs hst
    (view_ready h k) hle hc (Scene.invokeWithin_logs k Scene.nestingLimit)
  have hfirst : ∀ payload, t.calls k ≠ .admission payload := by
    intro payload he
    rw [he] at hst
    cases hst
  have hids : ∀ j, ((t.callStep k).trails j).id = (t.trails j).id := by
    intro j
    by_cases hj : j = k
    · subst hj
      simp only [callStep, Function.update_self]
      exact next_id hfirst
    · simp only [callStep, Function.update_of_ne hj]
  refine ⟨logged, h.work (hn ▸ ht) rfl rfl rfl rfl (fun j hj => Function.update_of_ne hj _ _) hids
    ?_, .same ht.accepted hids⟩
  unfold Accounted
  rw [hids k, hn, callStep_call]
  dsimp only
  rw [LogEntry.about_append]
  exact ⟨h0, Nat.le_trans hle ht.accepted, hs⟩

theorem admitted_id {payload : Value} (hc : t.calls k = .admission payload)
    (ho : t.processor.closed = false) {j : κ} {n : Nat}
    (hj : ((t.callStep k).trails j).id = some n) :
    j = k ∧ n = t.processor.accepted + 1 ∨ j ≠ k ∧ (t.trails j).id = some n := by
  rw [callStep_admitted ho hc] at hj
  dsimp only at hj
  by_cases hjk : j = k
  · subst hjk
    rw [Function.update_self] at hj
    exact Or.inl ⟨rfl, (Option.some.inj hj).symm⟩
  · rw [Function.update_of_ne hjk] at hj
    exact Or.inr ⟨hjk, hj⟩

theorem later_admitted {payload : Value} (hc : t.calls k = .admission payload)
    (hn : (t.trails k).id = none) (ho : t.processor.closed = false) : Later t (t.callStep k) := by
  constructor
  · rw [callStep_admitted ho hc]
    exact Nat.le_succ _
  · intro j n hj
    have hjk : j ≠ k := by
      rintro rfl
      rw [hn] at hj
      cases hj
    rw [(callStep_apart t k).trails j hjk]
    exact hj
  · intro j n hj
    rcases admitted_id hc ho hj with ⟨-, rfl⟩ | ⟨-, hj⟩
    · exact Or.inr (Nat.lt_succ_self _)
    · exact Or.inl hj

/-- An invocation that is let in gets the next number, of which nothing was logged. -/
theorem LogInvariant.admitted (h : LogInvariant before t log) {payload : Value}
    (hc : t.calls k = .admission payload) (hn : (t.trails k).id = none)
    (ho : t.processor.closed = false) : LogInvariant before (t.callStep k) log := by
  have hstep := callStep_admitted ho hc
  have hcont : Continued t.scene (t.callStep k).scene := by
    rw [hstep]
    exact ⟨rfl, rfl, rfl, rfl, id⟩
  have hacc : (t.callStep k).processor.accepted = t.processor.accepted + 1 := by
    rw [hstep]
    rfl
  have hself : ((t.callStep k).trails k).id = some (t.processor.accepted + 1) := by
    rw [hstep]
    simp
  have hapart := callStep_apart t k
  constructor
  · exact h.ready.continued hcont
  · exact h.continued.trans hcont
  · rw [hstep]
    exact h.journal
  · intro j
    by_cases hj : j = k
    · subst hj
      unfold Accounted
      rw [hself, hacc]
      refine ⟨Nat.succ_pos _, Nat.le_refl _, ?_⟩
      rw [h.strange _ (Or.inr (Nat.lt_succ_self _)), hstep]
      simp only [Function.update_self]
      exact .fetching payload
    · have hold : (t.callStep k).Accounted (log ++ []) j :=
        (h.calls j).foreign (fun _ _ _ => rfl) (hapart.calls j hj) (by rw [hapart.trails j hj])
          (by omega)
      rwa [List.append_nil] at hold
  · intro i j n hi hj
    rcases admitted_id hc ho hi with ⟨hik, hnew⟩ | ⟨-, hi'⟩ <;>
      rcases admitted_id hc ho hj with ⟨hjk, hnew'⟩ | ⟨-, hj'⟩
    · rw [hik, hjk]
    · exact absurd (h.traced hj').2.1 (by omega)
    · exact absurd (h.traced hi').2.1 (by omega)
    · exact h.apart i j n hi' hj'
  · intro id h0 hle hno
    have hne : id ≠ t.processor.accepted + 1 := fun he => hno k (he ▸ hself)
    exact h.nested id h0 (by omega) fun j hj => hno j
      ((later_admitted hc hn ho).kept j id hj)
  · intro id hid
    exact h.strange id (by omega)
  · have hold := h.closings
    unfold Settled at hold ⊢
    rw [hstep]
    exact hold
  · intro j
    rw [hstep]
    exact h.alarms j

theorem LogInvariant.callStep (h : LogInvariant before t log) (hc : t.WellBehaved k) :
    ∃ logged, LogInvariant before (t.callStep k) (log ++ logged) ∧ Later t (t.callStep k) := by
  cases hn : (t.trails k).id with
  | some n => exact h.numbered hn hc
  | none =>
    have hk := h.calls k
    simp only [Accounted, hn] at hk
    rcases hk with ⟨payload, hk⟩ | hk
    · cases hcl : t.processor.closed with
      | false =>
        have hnext := h.admitted hk hn hcl
        exact ⟨[], by rwa [List.append_nil], later_admitted hk hn hcl⟩
      | true =>
        rw [callStep_admission hcl hk]
        refine ⟨[], h.work (.refl _) rfl rfl (Function.update_eq_self k t.alarms).symm rfl
          (fun j hj => Function.update_of_ne hj _ _) (fun _ => rfl) ?_,
          .same (Nat.le_refl _) fun _ => rfl⟩
        unfold Accounted
        simp only [hn, Function.update_self]
        exact Or.inr trivial
    · rw [callStep_finished hk]
      exact ⟨[], by rw [List.append_nil]; exact h, .refl t⟩

variable [DecidableEq ω]

theorem LogInvariant.closingStep (h : LogInvariant before t log) (w : ω) :
    LogInvariant before (t.closingStep w) (log ++ (t.closings w).logged t.scene) ∧
      Later t (t.closingStep w) := by
  have hcont : Continued t.scene (t.closingStep w).scene := by
    obtain ⟨h1, h2, h3, h4, -⟩ := (t.closings w).step_continued t.scene
    exact ⟨h1, h2, h3, h4, fun _ => rfl⟩
  have hacc : (t.closingStep w).processor.accepted = t.processor.accepted :=
    ((t.closings w).step_frame t.scene).2.1
  have hnone : ∀ n, LogEntry.about n ((t.closings w).logged t.scene : List (LogEntry κ)) = [] ∧
      ∀ j, LogEntry.deadlines j ((t.closings w).logged t.scene : List (LogEntry κ)) = [] := fun n =>
    ⟨by cases t.closings w <;> rfl, fun j => ((t.closings w).logged_alone t.scene n j).2⟩
  have habout : ∀ n, LogEntry.about n (log ++ (t.closings w).logged t.scene) =
    LogEntry.about n log := by
    intro n
    rw [LogEntry.about_append, (hnone n).1, List.append_nil]
  refine ⟨?_, .same (Nat.le_of_eq hacc.symm) fun _ => rfl⟩
  constructor
  · exact h.ready.continued hcont
  · exact h.continued.trans hcont
  · exact h.entered ((t.closings w).step_logs (κ := κ) h.ready.usable).1
  · intro k
    exact (h.calls k).foreign (fun n _ _ => (hnone n).1) rfl rfl (Nat.le_of_eq hacc.symm)
  · exact h.apart
  · intro id h0 hle hno
    rw [habout]
    exact h.nested id h0 (hacc ▸ hle) hno
  · intro id hid
    rw [habout]
    exact h.strange id (hacc ▸ hid)
  · exact settled_closingStep h.closings w
  · intro k
    rw [LogEntry.deadlines_append, (hnone 0).2 k, List.append_nil]
    exact h.alarms k

/-- Every step is entered in the log. -/
theorem LogInvariant.step (h : LogInvariant before t log) (hs : Step WellBehaved t t') :
    ∃ logged, LogInvariant before t' (log ++ logged) ∧ Later t t' := by
  cases hs with
  | call k hc => exact h.callStep hc
  | closing w => exact ⟨_, h.closingStep w⟩
  | tick k =>
    obtain ⟨logged, ht⟩ := tick_logs (k := k) (view_ready h k)
    exact ⟨logged, h.foreign ht, .same ht.accepted fun _ => rfl⟩
  | ring k =>
    obtain ⟨logged, ht⟩ := ring_logs (k := k) (view_ready h k)
    exact ⟨logged, h.foreign ht, .same ht.accepted fun _ => rfl⟩
  | elsewhere volume elapsed =>
    refine ⟨[], ?_, .same (Nat.le_refl _) fun _ => rfl⟩
    rw [List.append_nil]
    exact { h with
      ready := ⟨h.ready.usable, h.ready.scratch⟩
      continued := ⟨h.continued.settings, h.continued.logger, h.continued.backend,
        h.continued.scratch, fun _ => rfl⟩ }

theorem LogInvariant.reaches (h : LogInvariant before t log) (hr : Reaches WellBehaved t t') :
    ∃ more, LogInvariant before t' (log ++ more) ∧ Later t t' := by
  induction hr with
  | refl => exact ⟨[], by rw [List.append_nil]; exact h, .refl t⟩
  | tail _ hs ih =>
    obtain ⟨more, hc, hl⟩ := ih
    obtain ⟨logged, hc', hl'⟩ := hc.step hs
    exact ⟨more ++ logged, by rw [← List.append_assoc]; exact hc', hl.trans hl'⟩

end Traffic

end GuestRunner
