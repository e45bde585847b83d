import GuestRunner.Proofs.Call.Incidents
import GuestRunner.Proofs.Journal.LogEntry
import GuestRunner.Proofs.Processor.Closings
import GuestRunner.Proofs.Processor.Ending

/-!
# What the steps of an invocation log

An invocation logs its start once its payload is read, and its end with its last step; what is
logged in between comes from its guest, which may start other invocations, close the processor or
wait. The invocations that a guest starts log their whole traces before its next act.
-/

set_option autoImplicit false

namespace GuestRunner

inductive Alarm.Passing : Alarm → Alarm → List Value → Prop
  | still (a : Alarm) : Passing a a []
  | nearer (deadline : Value) (steps steps' : Option Nat) :
    Passing (.set deadline steps) (.set deadline steps') []
  | rung (deadline : Value) (steps : Option Nat) :
    Passing (.set deadline steps) (.rung (.failure (.timedOut deadline .null))) [deadline]

theorem Alarm.Passing.trans {a b c : Alarm} {xs ys : List Value} (h : Passing a b xs)
    (h' : Passing b c ys) : Passing a c (xs ++ ys) := by
  cases h with
  | still a => exact h'
  | nearer deadline steps steps' =>
    cases h' with
    | still a => exact .nearer deadline steps steps'
    | nearer deadline steps' steps'' => exact .nearer deadline steps steps''
    | rung deadline steps' => exact .rung deadline steps
  | rung deadline steps =>
    cases h' with
    | still a => exact .rung deadline steps

namespace Scene

structure Ready (s : Scene) : Prop where
  usable : s.processor.logger.Usable
  scratch : ∀ scratch, s.processor.capture.scratch? = some scratch →
    scratch.WellFormed ∧ scratch.path.Clean

theorem Ready.continued {s s' : Scene} (h : s.Ready) (hk : Continued s s') : s'.Ready :=
  ⟨hk.logger ▸ h.usable, hk.scratch ▸ h.scratch⟩

variable {κ : Type} [DecidableEq κ]

/-- What is logged while one invocation works, awaited by `k`, beside its own trace: the whole
traces of the invocations that take a number meanwhile, a closing if there was none before, and the
deadline that passes. Of all other invocations nothing is logged. -/
structure Logs (k : κ) (own : Option Nat) (s : Scene) (logged : List (LogEntry κ)) (s' : Scene) :
    Prop where
  continued : Continued s s'
  journal : s'.site.journal =
    (s.reported (logged.map (LogEntry.event s.processor.settings))).site.journal
  accepted : s.processor.accepted ≤ s'.processor.accepted
  past : ∀ id, id ≤ s.processor.accepted → own ≠ some id → LogEntry.about id logged = []
  nested : ∀ id, s.processor.accepted < id → id ≤ s'.processor.accepted →
    LogEntry.Complete id (LogEntry.about id logged)
  future : ∀ id, s'.processor.accepted < id → LogEntry.about id logged = []
  shut : s.processor.closed = true → s'.processor.closed = true ∧ LogEntry.closings logged = 0
  ahead : s.processor.closed = false →
    s'.processor.closed = false ∧ LogEntry.closings logged = 0 ∨
      s'.processor.closed = true ∧ LogEntry.closings logged ≤ 1
  alarm : s.alarm.Passing s'.alarm (LogEntry.deadlines k logged)
  others : ∀ j, j ≠ k → LogEntry.deadlines j logged = []

variable {k : κ} {own : Option Nat} {s s' s'' : Scene} {logged more : List (LogEntry κ)}

theorem Logs.silent (hk : Continued s s') (hj : s'.site.journal = s.site.journal)
    (ha : s'.processor.accepted = s.processor.accepted)
    (hc : s'.processor.closed = s.processor.closed) (hal : s'.alarm = s.alarm) :
    Logs k own s [] s' where
  continued := hk
  journal := by simp [reported, hj]
  accepted := Nat.le_of_eq ha.symm
  past _ _ _ := rfl
  nested id h h' := by omega
  future _ _ := rfl
  shut h := ⟨hc.trans h, rfl⟩
  ahead h := Or.inl ⟨hc.trans h, rfl⟩
  alarm := by
    rw [hal]
    exact .still _
  others _ _ := rfl

theorem Logs.refl (s : Scene) : Logs k own s [] s := .silent (.refl s) rfl rfl rfl rfl

theorem Logs.trans (h : Logs k own s logged s') (h' : Logs k own s' more s'')
    (ho : ∀ n, own = some n → n ≤ s.processor.accepted) :
    Logs k own s (logged ++ more) s'' := by
  constructor
  · exact h.continued.trans h'.continued
  · rw [h'.journal]
    simp only [reported, h.journal, h.continued.settings, h.continued.logger, List.map_append,
      Logger.heard_append, List.append_assoc]
  · exact Nat.le_trans h.accepted h'.accepted
  · intro id hid hne
    rw [LogEntry.about_append, h.past id hid hne, h'.past id (Nat.le_trans hid h.accepted) hne]
    rfl
  · intro id hlow hhigh
    rw [LogEntry.about_append]
    by_cases hid : id ≤ s'.processor.accepted
    · have hne : own ≠ some id := by
        intro he
        have hle := ho id he
        omega
      rw [h'.past id hid hne, List.append_nil]
      exact h.nested id hlow hid
    · rw [h.future id (by omega), List.nil_append]
      exact h'.nested id (by omega) hhigh
  · intro id hid
    rw [LogEntry.about_append, h.future id (Nat.lt_of_le_of_lt h'.accepted hid), h'.future id hid]
    rfl
  · intro hc
    obtain ⟨hc', hn⟩ := h.shut hc
    obtain ⟨hc'', hn'⟩ := h'.shut hc'
    exact ⟨hc'', by rw [LogEntry.closings_append, hn, hn']⟩
  · intro hc
    rw [LogEntry.closings_append]
    rcases h.ahead hc with ⟨hc', hn⟩ | ⟨hc', hn⟩
    · rw [hn, Nat.zero_add]
      exact h'.ahead hc'
    · obtain ⟨hc'', hn'⟩ := h'.shut hc'
      exact Or.inr ⟨hc'', by omega⟩
  · rw [LogEntry.deadlines_append]
    exact h.alarm.trans h'.alarm
  · intro j hj
    rw [LogEntry.deadlines_append, h.others j hj, h'.others j hj]
    rfl

/-- What changes unreported changes nothing about what was logged. -/
theorem Logs.quietly (h : Logs k own s logged s') (hk : Continued s' s'')
    (hj : s''.site.journal = s'.site.journal)
    (ha : s''.processor.accepted = s'.processor.accepted)
    (hc : s''.processor.closed = s'.processor.closed) (hal : s''.alarm = s'.alarm) :
    Logs k own s logged s'' where
  continued := h.continued.trans hk
  journal := hj.trans h.journal
  accepted := ha ▸ h.accepted
  past := h.past
  nested := ha ▸ h.nested
  future := ha ▸ h.future
  shut := hc ▸ h.shut
  ahead := hc ▸ h.ahead
  alarm := hal ▸ h.alarm
  others := h.others

theorem Logs.withVolume (h : Logs k own s logged s') (v : Files.Volume) :
    Logs k own s logged (s'.withVolume v) :=
  h.quietly ⟨rfl, rfl, rfl, rfl, id⟩ rfl rfl rfl rfl

theorem Logs.did (h : Logs k own s logged s') (deed : Deed) :
    Logs k own s logged (s'.did deed) :=
  h.quietly ⟨rfl, rfl, rfl, rfl, id⟩ rfl rfl rfl rfl

theorem Logs.anybody (h : Logs k none s logged s') (own : Option Nat) : Logs k own s logged s' :=
  { h with past := fun id hid _ => h.past id hid nofun }

theorem Logs.foreign (h : Logs k none s logged s') {n : Nat} (hn : n ≤ s.processor.accepted) :
    Logs k (some n) s logged s' ∧ LogEntry.about n logged = [] :=
  ⟨h.anybody (some n), h.past n hn nofun⟩

theorem Logs.itself (s : Scene) {x : LogEntry κ} {n : Nat} (hx : x.id? = some n)
    (hn : n ≤ s.processor.accepted) :
    Logs k (some n) s [x] (s.reported [x.event s.processor.settings]) := by
  have hclosed : x.isClosed = false := by
    cases x <;> first | rfl | cases hx
  have hdeadline : ∀ j, LogEntry.deadlines j [x] = [] := by
    intro j
    cases x <;> first | rfl | cases hx
  constructor
  · exact ⟨rfl, rfl, rfl, rfl, id⟩
  · rfl
  · exact Nat.le_refl _
  · intro id hid hne
    apply LogEntry.about_other
    rw [hx]
    exact hne
  · intro id hlow hhigh
    exact absurd hhigh (Nat.not_le.mpr hlow)
  · intro id hid
    apply LogEntry.about_other
    rw [hx]
    intro he
    cases he
    exact absurd hn (Nat.not_le.mpr hid)
  · intro hc
    exact ⟨hc, by simp [LogEntry.closings, hclosed]⟩
  · intro hc
    exact Or.inl ⟨hc, by simp [LogEntry.closings, hclosed]⟩
  · rw [hdeadline]
    exact .still _
  · intro j _
    exact hdeadline j

/-- A deadline that passes is logged for whoever awaits. -/
theorem ring_logs (hr : s.Ready) : ∃ logged : List (LogEntry κ), Logs k none s logged s.ring := by
  cases ha : s.alarm with
  | off => exact ⟨[], by rw [ring, ha]; exact .refl s⟩
  | rung problem => exact ⟨[], by rw [ring, ha]; exact .refl s⟩
  | set deadline steps =>
    have hring : s.ring =
      { s.reported [(LogEntry.expired k deadline).event s.processor.settings] with
        alarm := .rung (.failure (.timedOut deadline .null)) } := by
      simp only [ring, ha, expire_usable hr.usable]
      rfl
    have hself : LogEntry.deadlines k [.expired k deadline] = [deadline] := by
      simp [LogEntry.deadlines]
    refine ⟨[.expired k deadline], ?_⟩
    rw [hring]
    constructor
    · exact ⟨rfl, rfl, rfl, rfl, fun h => by rw [ha] at h; cases h⟩
    · rfl
    · exact Nat.le_refl _
    · intro id _ _
      rfl
    · intro id hlow hhigh
      exact absurd hhigh (Nat.not_le.mpr hlow)
    · intro id _
      rfl
    · intro hc
      exact ⟨hc, rfl⟩
    · intro hc
      exact Or.inl ⟨hc, rfl⟩
    · rw [hself, ha]
      exact .rung deadline steps
    · intro j hj
      simp [LogEntry.deadlines, hj.symm]

theorem tick_logs (hr : s.Ready) : ∃ logged : List (LogEntry κ), Logs k none s logged s.tick := by
  unfold tick
  split
  · exact ring_logs hr
  · rename_i deadline steps ha
    refine ⟨[], ?_⟩
    have hk : Continued s { s with alarm := .set deadline (some steps) } :=
      ⟨rfl, rfl, rfl, rfl, fun h => by rw [ha] at h; cases h⟩
    refine { Logs.refl s with continued := hk, alarm := ?_ }
    rw [ha]
    exact .nearer deadline _ _
  · exact ⟨[], .refl s⟩

end Scene

namespace Closing

variable {κ : Type}

def logged (k : Closing) (s : Scene) : List (LogEntry κ) :=
  match k with
  | .reporting path => [.closed path s.processor.accepted]
  | _ => []

/-- A step of a closing reports what it logs, and nobody is awaiting it. -/
theorem step_logs (k : Closing) {s : Scene} (hu : s.processor.logger.Usable) :
    (k.step s).2.site.journal =
        (s.reported ((k.logged s : List (LogEntry κ)).map
          (LogEntry.event s.processor.settings))).site.journal ∧
      (k.step s).2.alarm = s.alarm := by
  have hsilent : s.site.journal = (s.reported []).site.journal := by simp [Scene.reported]
  cases k with
  | request =>
    simp only [step]
    split <;> exact ⟨hsilent, rfl⟩
  | detaching =>
    simp only [step]
    split <;> exact ⟨hsilent, rfl⟩
  | cleaning scratch c => cases c <;> exact ⟨hsilent, rfl⟩
  | dropping removed => cases removed <;> exact ⟨hsilent, rfl⟩
  | reporting removed =>
    have he := Scene.emit_plain hu
      (Event.processorClosed_plain
        (Value.ofOption (fun path => .text (Event.clipPath path)) removed)
        (Value.ofNat s.processor.accepted))
    have hstep : step (.reporting removed) s =
        (.finished (.ok ()), s.reported [closedEvent removed s.processor.accepted]) := by
      simp only [step, closedEvent, he]
    rw [hstep]
    exact ⟨rfl, rfl⟩
  | shutting removed => exact ⟨hsilent, rfl⟩
  | finished answer => exact ⟨hsilent, rfl⟩

/-- A closing that is under way logs nothing before its last step, and then no more than its end. -/
theorem step_busy {k : Closing} {s : Scene} (hk : ¬ k.Idle) :
    (¬ (k.step s).1.Idle ∧ (k.logged s : List (LogEntry κ)) = []) ∨
      ∃ answer, (k.step s).1 = .finished answer ∧
        LogEntry.closings (k.logged s : List (LogEntry κ)) ≤ 1 := by
  have hbusy : ∀ {k : Closing}, k ≠ .request → (∀ answer, k ≠ .finished answer) → ¬ k.Idle := by
    intro k hr hf h
    rcases h with h | ⟨answer, h⟩
    · exact hr h
    · exact hf answer h
  cases k with
  | request => exact absurd (Or.inl rfl) hk
  | detaching =>
    simp only [step]
    split <;> exact Or.inl ⟨hbusy (by simp) (by simp), rfl⟩
  | cleaning scratch c => cases c <;> exact Or.inl ⟨hbusy (by simp [step]) (by simp [step]), rfl⟩
  | shutting removed => exact Or.inl ⟨hbusy (by simp [step]) (by simp [step]), rfl⟩
  | dropping removed =>
    cases removed with
    | ok path => exact Or.inl ⟨hbusy (by simp [step]) (by simp [step]), rfl⟩
    | error f => exact Or.inr ⟨_, rfl, Nat.zero_le 1⟩
  | reporting removed => exact Or.inr ⟨_, rfl, Nat.le_refl 1⟩
  | finished answer => exact absurd (Or.inr ⟨answer, rfl⟩) hk

theorem logged_alone (k : Closing) (s : Scene) (id : Nat) [DecidableEq κ] (j : κ) :
    LogEntry.about id (k.logged s : List (LogEntry κ)) = [] ∧
      LogEntry.deadlines j (k.logged s : List (LogEntry κ)) = [] := by
  cases k <;> exact ⟨rfl, rfl⟩

end Closing

namespace Scene

variable {κ : Type} [DecidableEq κ] {k : κ} {s : Scene}

/-- A closing that has set the flag logs at most one end of itself. -/
theorem Logs.closing {s' : Scene} (h : Logs k none s ([] : List (LogEntry κ)) s') (hr : s.Ready)
    (ho : s.processor.closed = false) (hc : s'.processor.closed = true) (c : Closing)
    (hb : ¬ c.Idle) :
    Logs k none s (c.logged s') (c.step s').2 := by
  have hk := h.continued.trans (c.step_continued s')
  have ha : (c.step s').2.processor.accepted = s'.processor.accepted := (c.step_frame s').2.1
  obtain ⟨hj, hal⟩ := c.step_logs (κ := κ) (hr.continued h.continued).usable
  have hjournal : s'.site.journal = s.site.journal := by simpa [reported] using h.journal
  have hcount : LogEntry.closings (c.logged s' : List (LogEntry κ)) ≤ 1 := by
    rcases Closing.step_busy (κ := κ) (s := s') hb with ⟨-, ht⟩ | ⟨answer, -, hn⟩
    · rw [ht]
      exact Nat.zero_le 1
    · exact hn
  constructor
  · exact hk
  · rw [hj]
    simp only [reported, hjournal, h.continued.settings, h.continued.logger]
  · rw [ha]
    exact h.accepted
  · intro id _ _
    exact (c.logged_alone s' id k).1
  · intro id hlow hhigh
    rw [ha] at hhigh
    rw [(c.logged_alone s' id k).1]
    exact h.nested id hlow hhigh
  · intro id _
    exact (c.logged_alone s' id k).1
  · intro hcl
    rw [ho] at hcl
    cases hcl
  · intro _
    exact Or.inr ⟨c.step_closed hc, hcount⟩
  · rw [(c.logged_alone s' 0 k).2, hal]
    exact h.alarm
  · intro j _
    exact (c.logged_alone s' 0 j).2

theorem close_logs (hr : s.Ready) :
    ∃ logged : List (LogEntry κ), Logs k none s logged s.close.2 := by
  -- As long as the closing is under way, it has set the flag and logged nothing.
  have hstep : ∀ (c : Closing) (s' : Scene), (∃ logged : List (LogEntry κ),
    Logs k none s logged s' ∧
      (c = .request → s' = s) ∧
      (¬ c.Idle → s.processor.closed = false ∧ s'.processor.closed = true ∧ logged = [])) →
      ∃ logged : List (LogEntry κ), Logs k none s logged (c.step s').2 ∧
      ((c.step s').1 = .request → (c.step s').2 = s) ∧
      (¬ (c.step s').1.Idle → s.processor.closed = false ∧
        (c.step s').2.processor.closed = true ∧ logged = []) := by
    intro c s' ⟨logged, ht, hfirst, hbusy⟩
    by_cases hi : c.Idle
    · rcases hi with rfl | ⟨answer, rfl⟩
      · obtain rfl := hfirst rfl
        cases hc : s'.processor.closed with
        | true =>
          rw [Closing.request_shut hc]
          exact ⟨[], .refl s', by simp, fun h => absurd (Or.inr ⟨_, rfl⟩) h⟩
        | false =>
          have hk := Closing.step_continued .request s'
          rw [Closing.request_first hc] at hk ⊢
          refine ⟨[], { Logs.refl s' with
            continued := hk
            shut := fun h => ?_
            ahead := fun _ => Or.inr ⟨rfl, Nat.zero_le 1⟩ }, by simp,
            fun _ => ⟨rfl, rfl, rfl⟩⟩
          rw [hc] at h
          cases h
      · exact ⟨logged, ht, by simp [Closing.step], fun h => absurd (Or.inr ⟨answer, rfl⟩) h⟩
    · obtain ⟨hopen, hclosed, rfl⟩ := hbusy hi
      refine ⟨c.logged s', ht.closing hr hopen hclosed c hi, fun h => ?_, fun h => ?_⟩
      · rcases Closing.step_busy (κ := κ) (s := s') hi with ⟨hn, -⟩ | ⟨answer, he, -⟩
        · exact absurd (Or.inl h) hn
        · rw [he] at h
          cases h
      · rcases Closing.step_busy (κ := κ) (s := s') hi with ⟨-, hentry⟩ | ⟨answer, he, -⟩
        · exact ⟨hopen, c.step_closed hclosed, hentry⟩
        · exact absurd (Or.inr ⟨answer, he⟩) h
  obtain ⟨answer, s', hrun, logged, ht, -⟩ := Closing.run_keeps hstep (k := .request) (s := s)
    ⟨[], .refl s, fun _ => rfl, fun h => absurd (Or.inl rfl) h⟩
  have hclose : s.close.2 = s' := by rw [close, hrun]
  exact ⟨logged, hclose ▸ ht⟩

end Scene

end GuestRunner
