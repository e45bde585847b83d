import GuestRunner.Processor.Call
import GuestRunner.Proofs.Journal.Hearing

/-!
# Accepted events

A logger is usable when it has the method that it falls back to. A usable logger accepts every event
of a processor and hears it: their severities have names, and none of their fields has a name that a
logger keeps for itself. So reporting never gets in the way of what is reported.
-/

set_option autoImplicit false

namespace GuestRunner

def Logger.Usable : Logger → Prop
  | .structured | .leveled _ => True
  | .selective methods attributes =>
    Logger.fallback ∈ methods ∧ Logger.fallback ∉ attributes

namespace Event

def severities : List Int := [Severity.debug, Severity.info, Severity.warning]

structure Plain (e : Event) : Prop where
  severity : e.severity ∈ severities
  fields : ∀ f ∈ e.fields, f.1 ≠ Logger.ownField ∧ f.1 ∉ Logger.reserved

theorem plain_of_names (e : Event) (hs : e.severity ∈ severities) (names : List String)
    (hf : ∀ f ∈ e.fields, f.1 ∈ names)
    (hn : ∀ name ∈ names, name ≠ Logger.ownField ∧ name ∉ Logger.reserved) : e.Plain :=
  ⟨hs, fun f h => hn f.1 (hf f h)⟩

theorem name_present (name : String) (v : Value) : ∀ f ∈ present name v, f.1 = name := by
  intro f hf
  unfold present at hf
  split at hf <;> simp_all

theorem moduleCompiled_plain (backend size digest duration : Value) :
    (moduleCompiled backend size digest duration).Plain := by
  refine plain_of_names _ (show Severity.info ∈ _ by decide)
    ["backend", "size_bytes", "digest", "duration_ms"] ?_ (by decide)
  simp [moduleCompiled]

theorem scratchCreated_plain (path owned : Value) : (scratchCreated path owned).Plain := by
  refine plain_of_names _ (show Severity.info ∈ _ by decide)
    ["path", "owned"] ?_ (by decide)
  simp [scratchCreated]

theorem invocationStart_plain (id size capture : Value) :
    (invocationStart id size capture []).Plain := by
  refine plain_of_names _ (show Severity.debug ∈ _ by decide)
    ["invocation_id", "payload_bytes", "capture"] ?_ (by decide)
  simp [invocationStart]

theorem invocationComplete_plain (r : Result) : (invocationComplete r).Plain := by
  refine plain_of_names _ (show Severity.debug ∈ _ by decide)
    ["invocation_id", "exit_code", "output_bytes", "stderr_bytes", "fuel_consumed", "duration_ms"]
    ?_ (by decide)
  simp [invocationComplete]

theorem invocationFailed_plain (f : Failure) (duration given : Value) :
    (invocationFailed f duration given).Plain := by
  refine plain_of_names _ (show Severity.warning ∈ _ by decide)
    ["invocation_id", "kind", "error_type", "error", "exit_code", "trap_reason", "timeout",
      "duration_ms"] ?_ (by decide)
  intro field hf
  simp only [invocationFailed, List.mem_append] at hf
  rcases hf with (((hf | hf) | hf) | hf) | hf
  · simp only [failureFields, List.mem_cons, List.not_mem_nil, or_false] at hf
    rcases hf with rfl | rfl | rfl | rfl <;> simp
  all_goals simp [name_present _ _ field hf]

theorem processorClosed_plain (removed invocations : Value) :
    (processorClosed removed invocations).Plain := by
  refine plain_of_names _ (show Severity.info ∈ _ by decide)
    ["removed_path", "invocations"] ?_ (by decide)
  simp [processorClosed]

end Event

namespace Logger

theorem selected_usable {methods attributes : List String}
    (h : (selective methods attributes).Usable) (name : String) :
    selected methods attributes name =
      .ok (if name ∈ methods ∧ name ∉ attributes then name else fallback) := by
  obtain ⟨hm, ha⟩ := h
  unfold selected methodFor
  by_cases hc : name ∈ methods ∧ name ∉ attributes
  · simp [hc]
  · simp [hc, hm, ha]

theorem name_plain {event : Event} (he : event.Plain) :
    Severity.name (.int event.severity) = .ok event.word := by
  have h := he.severity
  simp only [Event.severities, List.mem_cons, List.not_mem_nil, or_false] at h
  unfold Event.word
  rcases h with h | h | h <;> rw [h] <;> rfl

theorem guardOwn_plain {event : Event} (he : event.Plain) : guardOwn event.fields = .ok () := by
  unfold guardOwn
  rw [if_neg]
  simpa using fun v hf => (he.fields (ownField, v) hf).1 rfl

theorem unreserved_plain {event : Event} (he : event.Plain) :
    (event.fields.find? fun f => reserved.contains f.1) = none := by
  rw [List.find?_eq_none]
  intro f hf
  simpa using (he.fields f hf).2

theorem passes_plain {event : Event} (he : event.Plain) (threshold : Int) :
    passes threshold event.severity = decide (threshold ≤ event.severity) := by
  have h : 0 < event.severity := by
    have h := he.severity
    simp only [Event.severities, List.mem_cons, List.not_mem_nil, or_false] at h
    rcases h with h | h | h <;> rw [h] <;> decide
  simp [passes, h]

theorem record_plain {logger : Logger} (h : logger.Usable) {event : Event} (he : event.Plain) :
    logger.record event.emission = .ok (logger.heard [event]) := by
  have hn := name_plain he
  cases logger with
  | structured => simp only [record, Event.emission, hn, guardOwn_plain he]; rfl
  | leveled threshold =>
    simp only [record, Event.emission, rank, hn, unreserved_plain he, bind, Except.bind,
      passes_plain he, decide_eq_true_eq]
    by_cases ht : threshold ≤ event.severity <;> simp [heard, ht] <;> rfl
  | selective methods attributes =>
    simp only [record, Event.emission, hn, selected_usable h, bind, Except.bind]
    rfl

/-- A logger that has accepted one event of the severity it falls back to is usable. -/
theorem usable_of_record {logger : Logger} {event : Event} {records : List Record}
    (hs : event.severity = Severity.info) (h : logger.record event.emission = .ok records) :
    logger.Usable := by
  cases logger with
  | structured => trivial
  | leveled threshold => trivial
  | selective methods attributes =>
    have hn : Severity.name (.int event.severity) = .ok fallback := by rw [hs]; rfl
    have hm : methodFor (methods.filter fun name => !attributes.contains name) fallback =
        fallback := by
      unfold methodFor
      split <;> rfl
    simp only [record, Event.emission, hn, selected, hm, bind, Except.bind] at h
    by_cases ha : fallback ∈ attributes
    · simp [ha] at h
    · by_cases hf : fallback ∈ methods
      · exact ⟨hf, ha⟩
      · simp [ha, hf] at h

end Logger

/-- Some events are reported between two journals: under every usable logger what the logger hears
of them is added. -/
structure HeardByAll (happens : Logger → List Record → List Record → Prop) (events : List Event) :
    Prop where
  plain : ∀ e ∈ events, e.Plain
  told : ∀ (logger : Logger) (journal : List Record), logger.Usable →
    happens logger journal (journal ++ logger.heard events)

namespace HeardByAll

variable {happens happens' happens'' : Logger → List Record → List Record → Prop}
  {events first rest : List Event}

theorem silent (h : ∀ logger journal, happens logger journal journal) : HeardByAll happens [] where
  plain := nofun
  told logger journal _ := by
    rw [Logger.heard_nil, List.append_nil]
    exact h logger journal

theorem imp (h : HeardByAll happens events)
    (hi : ∀ logger journal journal', logger.Usable → happens logger journal journal' →
      happens' logger journal journal') : HeardByAll happens' events where
  plain := h.plain
  told logger journal hu := hi logger journal _ hu (h.told logger journal hu)

theorem andThen (h : HeardByAll happens first) (h' : HeardByAll happens' rest)
    (hi : ∀ logger journal journal' journal'', logger.Usable → happens logger journal journal' →
      happens' logger journal' journal'' → happens'' logger journal journal'') :
    HeardByAll happens'' (first ++ rest) where
  plain e he := (List.mem_append.mp he).elim (h.plain e) (h'.plain e)
  told logger journal hu := by
    rw [Logger.heard_append, ← List.append_assoc]
    exact hi logger journal _ _ hu (h.told logger journal hu) (h'.told logger _ hu)

end HeardByAll

theorem Site.record_volume (site : Site) (logger : Logger) (event : Event) :
    (site.record logger event).2.volume = site.volume := by
  simp only [record]
  split <;> rfl

namespace Scene

def reported (s : Scene) (events : List Event) : Scene :=
  { s with site := { s.site with
      journal := s.site.journal ++ s.processor.logger.heard events } }

@[simp] theorem reported_nil (s : Scene) : s.reported [] = s := by
  rw [reported, Logger.heard_nil, List.append_nil]

theorem emit_volume (s : Scene) (event : Event) : (s.emit event).2.site.volume = s.site.volume :=
  s.site.record_volume s.processor.logger event

theorem emit_plain {s : Scene} (h : s.processor.logger.Usable) {event : Event}
    (he : event.Plain) : s.emit event = (.ok (), s.reported [event]) := by
  simp only [emit, Site.record, Logger.record_plain h he, reported]

theorem expire_scene (s : Scene) (deadline : Value) :
    (s.expire deadline).2 = (s.emit (.invocationFailed (.timedOut deadline .null)
      (Deadline.inMilliseconds deadline) .null)).2 := by
  unfold expire
  dsimp only
  split <;> rename_i he <;> rw [he]

theorem expire_usable {s : Scene} (h : s.processor.logger.Usable) (deadline : Value) :
    s.expire deadline = (.failure (.timedOut deadline .null),
      s.reported [.invocationFailed (.timedOut deadline .null) (Deadline.inMilliseconds deadline)
        .null]) := by
  simp only [expire, emit_plain h (Event.invocationFailed_plain _ _ _)]

end Scene

namespace Call

theorem startEvent_plain (p : Processor) (id : Nat) (content : Bytes) :
    (startEvent p id content).Plain :=
  Event.invocationStart_plain _ _ _

theorem failedEvent_plain (elapsed : Binary64) (id : Nat) (f : Failure) :
    (failedEvent elapsed id f).Plain :=
  Event.invocationFailed_plain f _ _

end Call

end GuestRunner
