import GuestRunner.Proofs.Processor.Deadlines
import GuestRunner.Proofs.Processor.TeardownState

/-!
# Whoever listens

Nothing that a processor does depends on its logger, as long as the logger is usable. What is done
from a scene has one answer, one scene in the end and one list of events, all of which a usable
logger accepts; the journal is what the logger makes of the events.
-/

set_option autoImplicit false

namespace GuestRunner

def Processor.under (p : Processor) (logger : Logger) : Processor := { p with logger }

namespace Scene

def relogged (s : Scene) (logger : Logger) (journal : List Record) : Scene :=
  ⟨s.processor.under logger, { s.site with journal }, s.alarm⟩

variable {α β : Type}

abbrev Reports (f : Scene → α × Scene) (s : Scene) (answer : α) (after : Scene)
    (events : List Event) : Prop :=
  HeardByAll (fun logger journal journal' =>
    f (s.relogged logger journal) = (answer, after.relogged logger journal')) events

/-- What is done does not depend on who listens. -/
def LoggerFree (f : Scene → α × Scene) : Prop :=
  ∀ s, ∃ answer after events, Reports f s answer after events

def ReportsNothing (f : Scene → α × Scene) : Prop :=
  ∀ (s : Scene) (logger : Logger) (journal : List Record),
    f (s.relogged logger journal) = ((f s).1, (f s).2.relogged logger journal)

theorem ReportsNothing.loggerFree {f : Scene → α × Scene} (h : ReportsNothing f) :
    LoggerFree f := fun s =>
  ⟨_, _, [], .silent (h s)⟩

theorem LoggerFree.congr {f g : Scene → α × Scene} (hf : LoggerFree f) (h : ∀ s, f s = g s) :
    LoggerFree g :=
  funext h ▸ hf

theorem LoggerFree.pure (a : α) : LoggerFree fun s => (a, s) := fun s =>
  ⟨a, s, [], .silent fun _ _ => rfl⟩

theorem LoggerFree.andThen {f : Scene → α × Scene} {h : Scene → β × Scene} (hf : LoggerFree f)
    (hg : ∀ a, ∃ g, LoggerFree g ∧ ∀ s s', f s = (a, s') → h s = g s') : LoggerFree h := by
  intro s
  obtain ⟨a, s₁, first, h₁⟩ := hf s
  obtain ⟨g, hi, hh⟩ := hg a
  obtain ⟨b, s₂, rest, h₂⟩ := hi s₁
  refine ⟨b, s₂, first ++ rest, h₁.andThen h₂ fun logger journal journal' journal'' _ he he' => ?_⟩
  rw [hh _ _ he, he']

theorem LoggerFree.bind {f : Scene → α × Scene} {g : α → Scene → β × Scene} (hf : LoggerFree f)
    (hg : ∀ a, LoggerFree (g a)) : LoggerFree fun s => g (f s).1 (f s).2 :=
  hf.andThen fun a => ⟨g a, hg a, fun s s' he => by rw [he]⟩

theorem LoggerFree.map {f : Scene → α × Scene} (hf : LoggerFree f) (k : α → β) :
    LoggerFree fun s => (k (f s).1, (f s).2) :=
  hf.bind fun a => .pure (k a)

theorem emit_reports {event : Event} (he : event.Plain) (s : Scene) :
    Reports (fun s => s.emit event) s (.ok ()) s [event] where
  plain _ h := List.mem_singleton.mp h ▸ he
  told _ _ hu := emit_plain hu he

theorem expire_reports (deadline : Value) (s : Scene) :
    Reports (expire deadline) s (.failure (.timedOut deadline .null)) s
      [.invocationFailed (.timedOut deadline .null) (Deadline.inMilliseconds deadline) .null] where
  plain _ h := List.mem_singleton.mp h ▸ Event.invocationFailed_plain _ _ _
  told _ _ hu := expire_usable hu deadline

theorem ring_loggerFree : LoggerFree fun s => ((), s.ring) := by
  rintro ⟨p, site, alarm⟩
  cases alarm with
  | set deadline steps =>
    have h := expire_reports deadline ⟨p, site, .set deadline steps⟩
    refine ⟨(), ⟨p, site, .rung (.failure (.timedOut deadline .null))⟩, _, h.plain,
      fun logger journal hu => ?_⟩
    have he := h.told logger journal hu
    simp only [relogged] at he
    simp only [relogged, ring, he]
  | off => exact ⟨(), _, [], .silent fun _ _ => rfl⟩
  | rung problem => exact ⟨(), _, [], .silent fun _ _ => rfl⟩

theorem tick_loggerFree : LoggerFree fun s => ((), s.tick) := by
  rintro ⟨p, site, alarm⟩
  cases alarm with
  | set deadline steps =>
    rcases steps with _ | _ | steps
    · exact ⟨(), _, [], .silent fun _ _ => rfl⟩
    · obtain ⟨answer, after, events, h⟩ := ring_loggerFree ⟨p, site, .set deadline (some 0)⟩
      exact ⟨answer, after, events, h.plain, h.told⟩
    · exact ⟨(), ⟨p, site, .set deadline (some steps)⟩, [], .silent fun _ _ => rfl⟩
  | off => exact ⟨(), _, [], .silent fun _ _ => rfl⟩
  | rung problem => exact ⟨(), _, [], .silent fun _ _ => rfl⟩

end Scene

open Scene

namespace Closing

theorem step_reportsNothing {c : Closing} (hc : ∀ removed, c ≠ .reporting removed) :
    ReportsNothing c.step := by
  rintro ⟨p, site, alarm⟩ logger journal
  cases c with
  | request => by_cases ho : p.closed = true <;> simp [step, relogged, Processor.under, ho]
  | detaching =>
    obtain ⟨settings, _, backend, module, capture, accepted, closed, deeds⟩ := p
    cases capture <;> rfl
  | cleaning scratch c => cases c <;> rfl
  | dropping removed => cases removed <;> rfl
  | reporting removed => exact absurd rfl (hc removed)
  | _ => rfl

theorem step_loggerFree (c : Closing) : LoggerFree c.step := by
  by_cases hc : ∃ removed, c = .reporting removed
  · obtain ⟨removed, rfl⟩ := hc
    intro s
    have h := emit_reports (closedEvent_plain removed s.processor.accepted) s
    refine ⟨.finished (.ok ()), s, _, h.plain, fun logger journal hu => ?_⟩
    have he : (s.relogged logger journal).emit (closedEvent removed s.processor.accepted) =
        (.ok (), s.relogged logger (journal ++ logger.heard _)) := h.told logger journal hu
    simp only [step]
    rw [show (s.relogged logger journal).processor.accepted = s.processor.accepted from rfl, he]
  · exact (step_reportsNothing fun removed he => hc ⟨removed, he⟩).loggerFree

theorem steps_loggerFree (n : Nat) (c : Closing) : LoggerFree fun s => steps n (c, s) := by
  induction n with
  | zero => exact .pure c
  | succ n ih => exact ih.bind step_loggerFree

end Closing

theorem Scene.close_loggerFree : LoggerFree Scene.close := by
  have hrun : LoggerFree (Closing.run .request) :=
    (Closing.steps_loggerFree 3 .request).bind fun c => Closing.steps_loggerFree c.left c
  exact hrun.map Closing.result

namespace Call

theorem write_reportsNothing (sink : Sink) (stream : Stream) (chunk : Bytes) :
    ReportsNothing (write sink stream chunk) := fun _ _ _ => rfl

theorem endReport_plain (elapsed : Binary64) (id : Nat) (judged : Except Problem Result) :
    ∀ e ∈ endReport elapsed id judged, e.Plain := by
  intro e he
  rcases judged with (f | _ | _) | result
  · rw [List.mem_singleton.mp he]
    exact failedEvent_plain elapsed id f
  · cases he
  · cases he
  · rw [List.mem_singleton.mp he]
    exact Event.invocationComplete_plain result

theorem settle_loggerFree (id : Nat) (pending : Except Problem Drained) :
    LoggerFree (settle id pending) := fun s =>
  ⟨judge s.processor s.site.elapsed id pending, s, _,
    endReport_plain s.site.elapsed id (judge s.processor s.site.elapsed id pending),
    fun _ _ hu => settle_usable hu id pending⟩

section

variable {again : Again} (ha : ∀ payload, LoggerFree (again payload))

include ha

theorem perform_loggerFree (sink : Sink) (act : Act) : LoggerFree (perform again sink act) := by
  cases act with
  | process stream payload =>
    refine (ha payload).andThen fun answer => ?_
    cases answer with
    | ok output =>
      exact ⟨_, (write_reportsNothing sink stream output).loggerFree,
        fun s s' he => by simp only [perform, he]⟩
    | error problem => exact ⟨_, .pure (.error problem), fun s s' he => by simp only [perform, he]⟩
  | closeProcessor => exact close_loggerFree.map fun done => done.map fun _ => sink
  | wait => exact ring_loggerFree.map fun _ => Except.ok sink
  | _ => exact ReportsNothing.loggerFree fun _ _ _ => rfl

theorem advance_loggerFree (c : Call) : LoggerFree (advance again c) := by
  cases c with
  | admission payload =>
    apply ReportsNothing.loggerFree
    rintro ⟨p, site, alarm⟩ logger journal
    by_cases hc : p.closed = true <;> simp [advance, relogged, Processor.under, hc]
  | intake id module payload =>
    cases hb : Payload.bytes payload with
    | error refusal =>
      exact (LoggerFree.pure (finished (.error (.refusal refusal)))).congr fun s => by
        simp only [advance, hb]
    | ok content =>
      intro s
      have h := emit_reports (startEvent_plain s.processor id content) s
      refine ⟨.opening ⟨id, module, content⟩, s, _, h.plain, fun logger journal hu => ?_⟩
      have he : (s.relogged logger journal).emit (startEvent s.processor id content) =
          (.ok (), s.relogged logger (journal ++ logger.heard _)) := h.told logger journal hu
      simp only [advance, hb]
      rw [show startEvent (s.relogged logger journal).processor id content =
        startEvent s.processor id content from rfl, he]
  | clearing job sink stream =>
    apply ReportsNothing.loggerFree
    intro s logger journal
    obtain ⟨⟨done, v⟩, h⟩ : ∃ r, sink.clear stream s.site.volume = r := ⟨_, rfl⟩
    have h' : sink.clear stream (s.relogged logger journal).site.volume = (done, v) := h
    simp only [advance, h, h']
    cases done <;> cases stream <;> rfl
  | running id sink acts ending =>
    cases acts with
    | nil => exact ReportsNothing.loggerFree fun _ _ _ => by cases ending <;> rfl
    | cons act rest =>
      refine (perform_loggerFree ha sink act).andThen fun done => ?_
      cases done with
      | ok sink =>
        exact ⟨_, .pure (running id sink rest ending), fun s s' he => by simp only [advance, he]⟩
      | error problem =>
        have hm : ReportsNothing fun s : Scene =>
            (releasing id sink .stdout (.error problem), s.did (.release sink)) := fun _ _ _ => rfl
        exact ⟨_, hm.loggerFree, fun s s' he => by simp only [advance, he]⟩
  | draining id sink outcome =>
    apply ReportsNothing.loggerFree
    intro s logger journal
    obtain ⟨⟨content, v⟩, h⟩ : ∃ r, sink.drain .stdout s.site.volume = r := ⟨_, rfl⟩
    have h' : sink.drain .stdout (s.relogged logger journal).site.volume = (content, v) := h
    simp only [advance, h, h']
    cases content <;> rfl
  | releasing id sink stream pending =>
    apply ReportsNothing.loggerFree
    intro s logger journal
    obtain ⟨⟨done, sink', v⟩, h⟩ : ∃ r, sink.discard stream s.site.volume = r := ⟨_, rfl⟩
    have h' : sink.discard stream (s.relogged logger journal).site.volume = (done, sink', v) := h
    simp only [advance, h, h']
    cases done <;> cases stream <;> rfl
  | settling id pending => exact (settle_loggerFree id pending).map finished
  | _ => exact ReportsNothing.loggerFree fun _ _ _ => rfl

theorem step_loggerFree (c : Call) : LoggerFree (step again c) := by
  by_cases hf : ∃ result, c = .finished result
  · obtain ⟨result, rfl⟩ := hf
    exact .pure _
  · have hn : ∀ result, c ≠ .finished result := fun result he => hf ⟨result, he⟩
    exact (tick_loggerFree.bind fun _ => advance_loggerFree ha c).congr fun s =>
      (step_advance again s hn).symm

theorem steps_loggerFree (n : Nat) (c : Call) : LoggerFree fun s => steps again n (c, s) := by
  induction n with
  | zero => exact .pure c
  | succ n ih => exact ih.bind (step_loggerFree ha)

theorem run_loggerFree (c : Call) : LoggerFree (run again c) :=
  (steps_loggerFree ha stepsBeforeRun c).bind fun c => steps_loggerFree ha c.left c

end

end Call

namespace Scene

theorem outputOnly_loggerFree {f : Scene → Except Problem Result × Scene} (hf : LoggerFree f) :
    LoggerFree fun s => outputOnly (f s) :=
  hf.map fun result => result.map (·.output)

theorem invokeWithin_loggerFree (depth : Nat) (payload : Value) :
    LoggerFree (invokeWithin depth payload) := by
  induction depth generalizing payload with
  | zero => exact .pure _
  | succ depth ih =>
    exact (Call.run_loggerFree (fun payload => outputOnly_loggerFree (ih payload))
      (.admission payload)).map Call.result

theorem again_loggerFree (payload : Value) : LoggerFree (again payload) :=
  outputOnly_loggerFree (invokeWithin_loggerFree nestingLimit payload)

theorem invoke_loggerFree (payload : Value) : LoggerFree (invoke payload) :=
  (Call.run_loggerFree again_loggerFree (.admission payload)).map Call.result

theorem process_loggerFree (payload : Value) : LoggerFree (process payload) :=
  outputOnly_loggerFree (invoke_loggerFree payload)

theorem processEach_loggerFree (payloads : List Value) : LoggerFree (processEach payloads) := by
  induction payloads with
  | nil => exact .pure _
  | cons payload rest ih =>
    refine (process_loggerFree payload).andThen fun answer => ?_
    cases answer with
    | ok output =>
      exact ⟨_, ih.map fun outputs => outputs.map (output :: ·), fun s s' he => by
        rw [processEach, he]⟩
    | error problem =>
      exact ⟨_, .pure (.error problem), fun s s' he => by rw [processEach, he]⟩

theorem processThenClose_loggerFree (payloads : List Value) :
    LoggerFree (processThenClose payloads) :=
  (processEach_loggerFree payloads).bind fun outputs =>
    close_loggerFree.map fun done => done.bind fun _ => outputs

theorem passed_loggerFree (deadline : Value) : LoggerFree (passed deadline) := fun s =>
  have h := expire_reports deadline s
  ⟨.error (.failure (.timedOut deadline .null)), s, _, h.plain, fun logger journal hu => by
    simp only [passed, h.told logger journal hu]⟩

theorem awaited_loggerFree (deadline : Value) (result : Except Problem Result) :
    LoggerFree (awaited deadline result) := by
  rintro ⟨p, site, alarm⟩
  cases alarm with
  | rung problem => exact ⟨_, ⟨p, site, .off⟩, [], .silent fun _ _ => rfl⟩
  | _ =>
    by_cases ht : Deadline.isTimeUp result = true
    · obtain ⟨answer, after, events, h⟩ := passed_loggerFree deadline ⟨p, site, .off⟩
      refine ⟨answer, after, events, h.plain, fun logger journal hu => ?_⟩
      have hp := h.told logger journal hu
      simp only [awaited, relogged, ht, if_true] at hp ⊢
      exact hp
    · refine ⟨result, ⟨p, site, .off⟩, [], .silent fun logger journal => ?_⟩
      simp only [awaited, relogged, ht]
      rfl

theorem setAlarm_loggerFree (alarm : Alarm) : LoggerFree fun s => ((), { s with alarm }) := fun s =>
  ⟨(), { s with alarm }, [], .silent fun _ _ => rfl⟩

theorem invokeUnder_loggerFree (deadline : Value) (steps : Option Nat) (payload : Value) :
    LoggerFree (invokeUnder deadline steps payload) := by
  unfold invokeUnder
  split
  · exact .pure _
  · exact passed_loggerFree deadline
  · exact (setAlarm_loggerFree (.set deadline steps)).bind fun _ =>
      (invoke_loggerFree payload).bind fun result => awaited_loggerFree deadline result

theorem invokeAsync_loggerFree (payload given : Value) (steps : Option Nat) :
    LoggerFree (invokeAsync payload given steps) := by
  intro s
  by_cases hnull : Deadline.effective given s.processor.settings = .null
  · obtain ⟨answer, after, events, h⟩ := invoke_loggerFree payload s
    refine ⟨answer, after, events, h.plain, fun logger journal hu => ?_⟩
    rw [← h.told logger journal hu]
    exact invokeAsync_unhurried hnull
  · obtain ⟨answer, after, events, h⟩ := invokeUnder_loggerFree _ steps payload s
    refine ⟨answer, after, events, h.plain, fun logger journal hu => ?_⟩
    rw [← h.told logger journal hu]
    exact invokeAsync_hurried rfl hnull

theorem processAsync_loggerFree (payload given : Value) (steps : Option Nat) :
    LoggerFree (processAsync payload given steps) :=
  outputOnly_loggerFree (invokeAsync_loggerFree payload given steps)

end Scene

end GuestRunner
