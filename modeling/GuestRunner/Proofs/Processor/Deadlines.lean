import GuestRunner.Proofs.Processor.Answers
import GuestRunner.Proofs.Processor.Alarms

/-!
# Workers that come in time

Whoever awaits an invocation gets its own answer, and everything is as it is without a deadline, if
the worker ends before the deadline. There is one exception: an error of the system that says that
time is up is taken for the deadline, also when the deadline has not passed. Beside that the failure
of being too late comes from a deadline that has passed, and from the one that counts.
-/

set_option autoImplicit false

namespace GuestRunner

namespace Scene

def InTime (payload given : Value) (steps : Option Nat) (s : Scene) : Prop :=
  match Deadline.effective given s.processor.settings with
  | .null => True
  | deadline => Deadline.isOver deadline = .ok false ∧
      (invoke payload (s.under (.set deadline steps))).2.alarm.Silent

def tooLate (deadline : Value) : Event :=
  .invocationFailed (.timedOut deadline .null) (Deadline.inMilliseconds deadline) .null

variable {s : Scene} {payload given deadline : Value} {steps : Option Nat}

theorem withoutAlarm_under (ha : s.alarm = .off) (alarm : Alarm) :
    (s.under alarm).withoutAlarm = s := by
  obtain ⟨p, site, old⟩ := s
  cases ha
  rfl

theorem passed_usable (hu : s.processor.logger.Usable) (deadline : Value) :
    s.passed deadline =
      (.error (.failure (.timedOut deadline .null)), s.reported [tooLate deadline]) := by
  simp only [passed, expire_usable hu, tooLate]

theorem awaited_silent {s : Scene} (h : s.alarm.Silent) (deadline : Value)
    (result : Except Problem Result) :
    s.awaited deadline result =
      if Deadline.isTimeUp result then s.withoutAlarm.passed deadline
      else (result, s.withoutAlarm) := by
  obtain ⟨p, site, alarm⟩ := s
  cases alarm with
  | rung problem => exact h.elim
  | _ => rfl

/-- Under a deadline that has not passed when the worker ends. -/
theorem invokeUnder_silent (ha : s.alarm = .off) (hu : s.processor.logger.Usable)
    (ho : Deadline.isOver deadline = .ok false)
    (hs : (invoke payload (s.under (.set deadline steps))).2.alarm.Silent) :
    s.invokeUnder deadline steps payload =
      if Deadline.isTimeUp (s.invoke payload).1 then
        (.error (.failure (.timedOut deadline .null)),
          (s.invoke payload).2.reported [tooLate deadline])
      else s.invoke payload := by
  have hh := (invoke_ringOnly (s := s.under (.set deadline steps)) payload hu).withoutAlarm hs
  rw [withoutAlarm_under ha] at hh
  have hlogger : (s.invoke payload).2.processor.logger.Usable :=
    (invoke_continued payload s).logger ▸ hu
  unfold invokeUnder
  rw [ho]
  show awaited deadline (invoke payload (s.under (.set deadline steps))).1
    (invoke payload (s.under (.set deadline steps))).2 = _
  rw [awaited_silent hs]
  rw [hh] at hlogger ⊢
  rw [passed_usable hlogger]

theorem invokeUnder_loud (hu : s.processor.logger.Usable)
    (ho : Deadline.isOver deadline = .ok false)
    (hs : ¬ (invoke payload (s.under (.set deadline steps))).2.alarm.Silent) :
    (s.invokeUnder deadline steps payload).1 = .error (.failure (.timedOut deadline .null)) := by
  obtain ⟨deadlines, hp⟩ := (invoke_ringOnly (s := s.under (.set deadline steps)) payload hu).alarm
  have hrung := hp.loud hs
  unfold invokeUnder
  rw [ho]
  show (awaited deadline (invoke payload (s.under (.set deadline steps))).1
    (invoke payload (s.under (.set deadline steps))).2).1 = _
  simp only [awaited, hrung]

theorem invokeAsync_unhurried (h : Deadline.effective given s.processor.settings = .null) :
    s.invokeAsync payload given steps = s.invoke payload := by
  simp only [invokeAsync, h]

theorem invokeAsync_hurried (h : Deadline.effective given s.processor.settings = deadline)
    (hd : deadline ≠ .null) :
    s.invokeAsync payload given steps = s.invokeUnder deadline steps payload := by
  unfold invokeAsync
  rw [h]
  split
  · exact absurd rfl hd
  · rfl

theorem inTime_hurried (h : Deadline.effective given s.processor.settings = deadline)
    (hd : deadline ≠ .null) :
    s.InTime payload given steps ↔ Deadline.isOver deadline = .ok false ∧
      (invoke payload (s.under (.set deadline steps))).2.alarm.Silent := by
  unfold InTime
  rw [h]
  split
  · exact absurd rfl hd
  · rfl

theorem inTime_unhurried (h : Deadline.effective given s.processor.settings = .null) :
    s.InTime payload given steps := by
  unfold InTime
  rw [h]
  trivial

theorem invokeAsync_prompt (hl : Reachable s)
    (hd : Deadline.effective given s.processor.settings = deadline)
    (ht : s.InTime payload given steps)
    (hn : deadline = .null ∨ Deadline.isTimeUp (s.invoke payload).1 = false) :
    s.invokeAsync payload given steps = s.invoke payload := by
  by_cases hnull : deadline = .null
  · exact invokeAsync_unhurried (hd.trans hnull)
  · obtain ⟨ho, hs⟩ := (inTime_hurried hd hnull).mp ht
    rw [invokeAsync_hurried hd hnull, invokeUnder_silent hl.calm hl.usable ho hs]
    have hfalse := hn.resolve_left hnull
    simp [hfalse]

theorem invokeAsync_mistaken (hl : Reachable s)
    (hd : Deadline.effective given s.processor.settings = deadline)
    (ht : s.InTime payload given steps) (hnull : deadline ≠ .null)
    (hu : Deadline.isTimeUp (s.invoke payload).1 = true) :
    s.invokeAsync payload given steps = (.error (.failure (.timedOut deadline .null)),
      (s.invoke payload).2.reported [tooLate deadline]) := by
  obtain ⟨ho, hs⟩ := (inTime_hurried hd hnull).mp ht
  rw [invokeAsync_hurried hd hnull, invokeUnder_silent hl.calm hl.usable ho hs, if_pos hu]

theorem invokeAsync_late (hl : Reachable s)
    (hd : Deadline.effective given s.processor.settings = deadline)
    (ht : ¬ s.InTime payload given steps) :
    (s.invokeAsync payload given steps).1 = .error (.failure (.timedOut deadline .null)) ∨
      ∃ refusal, Deadline.isOver deadline = .error refusal ∧
        s.invokeAsync payload given steps = (.error (.refusal refusal), s) := by
  have hnull : deadline ≠ .null := fun hnull => ht (inTime_unhurried (hd.trans hnull))
  rw [inTime_hurried hd hnull] at ht
  rw [invokeAsync_hurried hd hnull]
  cases ho : Deadline.isOver deadline with
  | error refusal => exact Or.inr ⟨refusal, rfl, by simp only [invokeUnder, ho]⟩
  | ok passed =>
    left
    cases passed with
    | true => simp only [invokeUnder, ho, passed_usable hl.usable]
    | false => exact invokeUnder_loud hl.usable ho fun hs => ht ⟨ho, hs⟩

end Scene

open Scene

/-- Awaiting an invocation whose worker ends in time is the invocation itself, but that an error of
the system that says that time is up is taken for the deadline. A worker that comes too late is
answered for by the deadline that counts. -/
theorem invokeAsync_agrees {s : Scene} (hl : Reachable s) (payload given : Value)
    (steps : Option Nat)
    (deadline : Value) (hd : Deadline.effective given s.processor.settings = deadline) :
    (s.InTime payload given steps →
      (deadline = .null ∨ Deadline.isTimeUp (s.invoke payload).1 = false →
        s.invokeAsync payload given steps = s.invoke payload ∧
        s.processAsync payload given steps = s.process payload) ∧
      (deadline ≠ .null → Deadline.isTimeUp (s.invoke payload).1 = true →
        s.invokeAsync payload given steps = (.error (.failure (.timedOut deadline .null)),
          (s.invoke payload).2.reported [tooLate deadline]))) ∧
    (¬ s.InTime payload given steps →
      (s.invokeAsync payload given steps).1 = .error (.failure (.timedOut deadline .null)) ∨
      ∃ refusal, Deadline.isOver deadline = .error refusal ∧
        s.invokeAsync payload given steps = (.error (.refusal refusal), s)) ∧
    ∀ d id, (s.invokeAsync payload given steps).1 = .error (.failure (.timedOut d id)) →
      (s.invoke payload).1 = .error (.failure (.timedOut d id)) ∨
      d = deadline ∧ (s.InTime payload given steps →
        Deadline.isTimeUp (s.invoke payload).1 = true) := by
  refine ⟨fun ht => ⟨fun hn => ?_, ?_⟩, invokeAsync_late hl hd, ?_⟩
  · have hi := invokeAsync_prompt hl hd ht hn
    exact ⟨hi, by rw [processAsync, hi, process]⟩
  · exact invokeAsync_mistaken hl hd ht
  · intro d id he
    by_cases ht : s.InTime payload given steps
    · by_cases hn : deadline = .null ∨ Deadline.isTimeUp (s.invoke payload).1 = false
      · rw [invokeAsync_prompt hl hd ht hn] at he
        exact Or.inl he
      · obtain ⟨hnull, hu⟩ := not_or.mp hn
        have hup : Deadline.isTimeUp (s.invoke payload).1 = true := by simpa using hu
        rw [invokeAsync_mistaken hl hd ht hnull hup] at he
        cases he
        exact Or.inr ⟨rfl, fun _ => hup⟩
    · refine Or.inr ⟨?_, fun h => absurd h ht⟩
      rcases invokeAsync_late hl hd ht with h | ⟨refusal, -, h⟩
      · rw [h] at he
        cases he
        rfl
      · rw [h] at he
        cases he

namespace Sample

def pooled (run : Bool → Option CompiledModule → Context → Files.Volume → Run) : Scene :=
  .calm (.fresh .default (.leveled 50) { backend with run } ⟨.null, .int 0, ""⟩ .buffered
    [.compile [0]]) ⟨volume, [], .zero⟩

theorem pooled_reachable (run : Bool → Option CompiledModule → Context → Files.Volume → Run) :
    Reachable (pooled run) :=
  .made (.bytes .fixed [0]) none .default (.leveled 50) (fun _ => { backend with run })
    ⟨volume, [], .zero⟩ _ rfl

def unanswered : Scene :=
  pooled fun _ _ _ _ => ⟨[], .error (.os (.coded OsError.timedOut none))⟩

def waiting : Scene := pooled fun _ _ _ _ => ⟨[.wait], .ok (.exited (.int 0) .null)⟩

theorem five_seconds : Deadline.isOver (.int 5) = .ok false := by
  have h : (Binary64.ofInt 5).isFinite = true := by decide +kernel
  simp [Deadline.isOver, h]

theorem unanswered_inTime : unanswered.InTime (.text "hi") (.int 5) none :=
  ⟨five_seconds, trivial⟩

theorem waiting_late : ¬ waiting.InTime (.text "hi") (.int 5) none := fun h => h.2

theorem quick_inTime : (pooled backend.run).InTime (.text "hi") (.int 5) none :=
  ⟨five_seconds, trivial⟩

end Sample

/-- A worker in time, one whose error is taken for the deadline, and one that comes too late. -/
theorem invokeAsync_agrees_sample :
    (Sample.pooled Sample.backend.run).invokeAsync (.text "hi") (.int 5) none =
      (Sample.pooled Sample.backend.run).invoke (.text "hi") ∧
    (Sample.unanswered.invokeAsync (.text "hi") (.int 5) none).1 =
      .error (.failure (.timedOut (.int 5) .null)) ∧
    (Sample.waiting.invokeAsync (.text "hi") (.int 5) none).1 =
      .error (.failure (.timedOut (.int 5) .null)) := by
  have h : ∀ run, _ := fun run =>
    @invokeAsync_agrees (Sample.pooled run) (Sample.pooled_reachable run) (.text "hi") (.int 5) none
      (.int 5) rfl
  refine ⟨(((h _).1 Sample.quick_inTime).1 (Or.inr rfl)).1, ?_, ?_⟩
  · have hu := ((h _).1 Sample.unanswered_inTime).2 (by simp) rfl
    exact congrArg Prod.fst hu
  · rcases (h _).2.1 Sample.waiting_late with hw | ⟨refusal, hr, -⟩
    · exact hw
    · rw [Sample.five_seconds] at hr
      cases hr

/-- The deadline has not passed, and still the answer is that it has. -/
theorem deadline_mistaken :
    Sample.unanswered.InTime (.text "hi") (.int 5) none ∧
    (Sample.unanswered.invoke (.text "hi")).1 = .error (.os (.coded 110 none)) ∧
    (Sample.unanswered.invokeAsync (.text "hi") (.int 5) none).1 =
      .error (.failure (.timedOut (.int 5) .null)) := by
  have hm := invokeAsync_mistaken (s := Sample.unanswered) (Sample.pooled_reachable _) rfl
    Sample.unanswered_inTime (show Value.int 5 ≠ .null by simp) rfl
  exact ⟨Sample.unanswered_inTime, rfl, congrArg Prod.fst hm⟩

end GuestRunner
