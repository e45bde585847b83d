import GuestRunner.Proofs.Processor.LogInvariant
import GuestRunner.Proofs.Processor.Teardown

/-!
# The grammar of a journal

A journal opens with the compilation of the module and, where output goes to files, with the scratch
directory. What follows has one trace for each number that was given out, from the start of the
invocation to its end, and beside the traces the deadlines that have passed and at most one closing.
Of invocations that are rejected it has nothing. Invocations that come one after another have their
traces in this order, and the end of a closing comes after the traces of all that ended before it
began.
-/

set_option autoImplicit false

namespace GuestRunner

namespace LogEntry

variable {κ : Type}

end LogEntry

namespace Call

variable {κ : Type} {n : Nat} {c : Call} {trace : List (LogEntry κ)}

def Trace (n : Nat) (trace : List (LogEntry κ)) : Call → Prop
  | .finished answer => ∃ content elapsed own, answer = own.mapError Problem.failure ∧
      trace = [.started n content, .ended n elapsed own] ∧ LogEntry.Own n own
  | _ => trace = [] ∨ ∃ content, trace = [.started n content]

theorem TraceSoFar.fits (h : TraceSoFar n c trace) : c.Trace n trace := by
  cases h with
  | fetching payload => exact Or.inl rfl
  | intake module payload => exact Or.inl rfl
  | succeeded content elapsed r hr => exact ⟨content, elapsed, .ok r, rfl, rfl, hr⟩
  | failed content elapsed f hf => exact ⟨content, elapsed, .error f, rfl, rfl, hf⟩
  | _ => exact Or.inr ⟨_, rfl⟩

theorem TraceSoFar.own (h : TraceSoFar n c trace) {id : Nat} {elapsed : Binary64}
    {answer : Except Failure Result} (hx : LogEntry.ended id elapsed answer ∈ trace) :
    LogEntry.Own id answer := by
  cases h <;> simp at hx
  · obtain ⟨rfl, -, rfl⟩ := hx
    assumption
  · obtain ⟨rfl, -, rfl⟩ := hx
    assumption

end Call

namespace Traffic

variable {κ ω : Type}

variable [DecidableEq κ]

variable {before t t' : Traffic κ ω} {log more : List (LogEntry κ)} {k : κ} {n : Nat}

theorem LogInvariant.number (h : LogInvariant before t log) {x : LogEntry κ} (hx : x ∈ log)
    (hn : x.id? = some n) : 0 < n ∧ n ≤ t.processor.accepted := by
  by_contra hno
  have hmem : x ∈ LogEntry.about n log := List.mem_filter.mpr ⟨hx, by simp [hn]⟩
  rw [h.strange n (by omega)] at hmem
  cases hmem

theorem LogInvariant.own (h : LogInvariant before t log) {elapsed : Binary64}
    {answer : Except Failure Result} (hx : LogEntry.ended n elapsed answer ∈ log) :
    LogEntry.Own n answer := by
  have hmem : LogEntry.ended n elapsed answer ∈ LogEntry.about n log :=
    List.mem_filter.mpr ⟨hx, by simp [LogEntry.id?]⟩
  obtain ⟨h0, hle⟩ := h.number hx rfl
  by_cases hk : ∃ k, (t.trails k).id = some n
  · obtain ⟨k, hk⟩ := hk
    exact (h.traced hk).2.2.own hmem
  · obtain ⟨content, elapsed', answer', hs, hown⟩ :=
      h.nested n h0 hle fun k he => hk ⟨k, he⟩
    rw [hs] at hmem
    simp only [List.mem_cons, reduceCtorEq, LogEntry.ended.injEq, List.not_mem_nil, or_false,
      false_or, true_and] at hmem
    rw [hmem.2]
    exact hown

/-- Nothing is logged of a processor that nobody has worked with. -/
theorem LogInvariant.start {p : Processor} {site : Site} {payloads : κ → Value} {alarms : κ → Alarm}
    (hu : p.logger.Usable) (hs : ∀ scratch, p.capture.scratch? = some scratch →
      scratch.WellFormed ∧ scratch.path.Clean) (ha : p.accepted = 0) (ho : p.closed = false)
    (hb : before = Traffic.start p site payloads alarms) : LogInvariant before before [] := by
  subst hb
  constructor
  · exact ⟨hu, hs⟩
  · exact .refl _
  · rw [List.map_nil, Scene.reported_nil]
    rfl
  · intro k
    exact Or.inl ⟨payloads k, rfl⟩
  · intro j k n hj
    cases hj
  · intro n h0 hle
    have hzero : n ≤ 0 := ha ▸ hle
    omega
  · intro n _
    rfl
  · unfold Settled
    rw [show (Traffic.start p site payloads alarms : Traffic κ ω).processor.closed = false from ho]
    exact ⟨rfl, fun w => rfl⟩
  · intro k
    exact .still _

variable [DecidableEq ω]

theorem finished_reaches {held : Traffic κ ω → κ → Prop} {answer : Except Problem Result}
    (hr : Reaches held t t') (hk : t.calls k = .finished answer) :
    t'.calls k = .finished answer := by
  apply hr.keep (P := fun t => t.calls k = .finished answer) _ hk
  intro t₁ t₂ h₁ hs
  cases hs with
  | call j hj =>
    by_cases hjk : j = k
    · rw [hjk, callStep_finished h₁]
      exact h₁
    · rw [← h₁]
      exact (callStep_apart t₁ j).calls k (Ne.symm hjk)
  | _ => exact h₁

theorem LogInvariant.ended (h : LogInvariant before t log)
    (h' : LogInvariant before t' (log ++ more))
    (hl : Later t t') (hr : Reaches WellBehaved t t') (hn : (t.trails k).id = some n)
    {answer : Except Problem Result} (hk : t.calls k = .finished answer) :
    LogEntry.about n more = [] := by
  have ht := (h.traced hn).2.2
  have ht' := (h'.traced (hl.kept k n hn)).2.2
  rw [hk] at ht
  rw [finished_reaches hr hk, LogEntry.about_append] at ht'
  exact ht.complete.silent ht'.complete

end Traffic

namespace Sample

def worked (n : Nat) : Traffic Unit Bool := Nat.repeat (fun t => t.callStep ()) n crossing

end Sample

end GuestRunner
