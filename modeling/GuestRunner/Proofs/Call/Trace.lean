import GuestRunner.Proofs.Call.Payload
import GuestRunner.Proofs.Call.Logging

/-!
# The trace of an invocation

Every invocation that gets a number leaves one trace: that it has started, and then how it has
ended, which is what it answers. This holds as long as payloads can be read, outcomes are of the
declared types, the errors of guests are failures of their own invocation and stream files can be
removed. Guests may start other invocations, close the processor and wait.
-/

set_option autoImplicit false

namespace GuestRunner

namespace Call

variable {κ : Type}

def Sound (id : Nat) : Except Problem Drained → Prop
  | .ok d => d.outcome.Typed
  | .error problem => ∃ f, problem = .failure f ∧ f.Concerns id

/-- What is asked of the next step: that a payload can be read, that a guest ends with an outcome of
the declared types or with a failure of its own invocation, and that a stream file can be removed.
The invocations that a guest starts are held to the same. -/
def WellBehaved (again : Again) (wellBehaved : Value → Scene → Prop) : Call → Scene → Prop
  | .intake _ _ payload, _ => ∃ content, Payload.Denotes payload content
  | .running id _ [] ending, _ =>
    match ending with
    | .ok outcome => outcome.Typed
    | .error problem => ∃ f, problem = .failure f ∧ f.Concerns id
  | .running id sink (act :: _) _, s =>
    (∀ problem, (perform again sink act s).1 = .error problem →
      ∃ f, problem = .failure f ∧ f.Concerns id) ∧
    ∀ stream payload, act = .process stream payload → wellBehaved payload s
  | .releasing _ sink stream _, s => ∀ e, (sink.discard stream s.site.volume).1 ≠ .error e
  | _, _ => True

inductive TraceSoFar (n : Nat) : Call → List (LogEntry κ) → Prop
  | fetching (payload : Value) : TraceSoFar n (.fetching n payload) []
  | intake (module : Option CompiledModule) (payload : Value) :
    TraceSoFar n (.intake n module payload) []
  | opening (module : Option CompiledModule) (content : Bytes) :
    TraceSoFar n (.opening ⟨n, module, content⟩) [.started n content]
  | clearing (module : Option CompiledModule) (content : Bytes) (sink : Sink) (stream : Stream)
    (hc : sink.Clean) :
    TraceSoFar n (.clearing ⟨n, module, content⟩ sink stream) [.started n content]
  | starting (module : Option CompiledModule) (content : Bytes) (sink : Sink) (hc : sink.Clean) :
    TraceSoFar n (.starting ⟨n, module, content⟩ sink) [.started n content]
  | running (content : Bytes) (sink : Sink) (acts : List Act) (ending : Except Problem Outcome)
    (hc : sink.Clean) : TraceSoFar n (.running n sink acts ending) [.started n content]
  | draining (content : Bytes) (sink : Sink) (outcome : Outcome) (hc : sink.Clean)
    (ht : outcome.Typed) : TraceSoFar n (.draining n sink outcome) [.started n content]
  | drainingError (content : Bytes) (sink : Sink) (outcome : Outcome) (output : Bytes)
    (hc : sink.Clean) (ht : outcome.Typed) :
    TraceSoFar n (.drainingError n sink outcome output) [.started n content]
  | releasing (content : Bytes) (sink : Sink) (stream : Stream) (pending : Except Problem Drained)
    (hp : Sound n pending) : TraceSoFar n (.releasing n sink stream pending) [.started n content]
  | settling (content : Bytes) (pending : Except Problem Drained) (hp : Sound n pending) :
    TraceSoFar n (.settling n pending) [.started n content]
  | succeeded (content : Bytes) (elapsed : Binary64) (r : Result) (hr : r.id = (n : Int)) :
    TraceSoFar n (.finished (.ok r)) [.started n content, .ended n elapsed (.ok r)]
  | failed (content : Bytes) (elapsed : Binary64) (f : Failure) (hf : f.Concerns n) :
    TraceSoFar n (.finished (.error (.failure f))) [.started n content, .ended n elapsed (.error f)]

theorem TraceSoFar.complete {n : Nat} {result : Except Problem Result} {trace : List (LogEntry κ)}
    (h : TraceSoFar n (.finished result) trace) : LogEntry.Complete n trace := by
  cases h with
  | succeeded content elapsed r hr => exact ⟨content, elapsed, .ok r, rfl, hr⟩
  | failed content elapsed f hf => exact ⟨content, elapsed, .error f, rfl, hf⟩

theorem verdict_concerns {failOnStderr : Bool} {id : Nat} {d : Drained} {f : Failure}
    (h : verdict failOnStderr id d = .error f) : f.Concerns id := by
  simp only [verdict] at h
  repeat' split at h
  all_goals first | (cases h; exact Or.inr rfl) | cases h

/-- What an invocation answers concerns it. -/
theorem judge_sound (p : Processor) (elapsed : Binary64) {id : Nat}
    {pending : Except Problem Drained} (hp : Sound id pending) :
    (∃ r, judge p elapsed id pending = .ok r ∧ r.id = (id : Int)) ∨
      ∃ f, judge p elapsed id pending = .error (.failure f) ∧ f.Concerns id := by
  cases pending with
  | error problem =>
    obtain ⟨f, rfl, hf⟩ := hp
    exact Or.inr ⟨f, rfl, hf⟩
  | ok d =>
    obtain ⟨fuel, ht⟩ := hp
    simp only [judge, bind, Except.bind, fuelOf_typed ht]
    cases hv : verdict p.settings.failOnStderr id d with
    | error f => exact Or.inr ⟨f, rfl, verdict_concerns hv⟩
    | ok _ => exact Or.inl ⟨_, rfl, rfl⟩

end Call

namespace Call

open Scene

variable {κ : Type} [DecidableEq κ] {k : κ} {again : Again} {wellBehaved : Value → Scene → Prop}
  {c c' : Call} {s s' : Scene} {n : Nat} {trace : List (LogEntry κ)}

def Again.Logs (k : κ) (again : Again) (wellBehaved : Value → Scene → Prop) : Prop :=
  ∀ payload s, s.Ready → wellBehaved payload s →
    ∃ logged : List (LogEntry κ), Scene.Logs k none s logged (again payload s).2

/-- What an act of a guest logs is not about its own invocation. -/
theorem perform_logs (ha : again.Logs k wellBehaved) (sink : Sink) (act : Act) (hr : s.Ready)
    (hc : ∀ stream payload, act = .process stream payload → wellBehaved payload s) :
    ∃ logged : List (LogEntry κ), Scene.Logs k none s logged (perform again sink act s).2 := by
  cases act with
  | process stream payload =>
    obtain ⟨logged, ht⟩ := ha payload s hr (hc stream payload rfl)
    refine ⟨logged, ?_⟩
    simp only [perform]
    split <;> rename_i he <;> rw [he] at ht
    · exact ht.withVolume _
    · exact ht
  | closeProcessor => exact close_logs hr
  | wait => exact ring_logs hr
  | _ => exact ⟨[], (Logs.refl s).withVolume _⟩

theorem perform_clean {sink sink' : Sink} {act : Act} (hc : sink.Clean)
    (h : perform again sink act s = (.ok sink', s')) : sink'.Clean := by
  have hself : ∀ {sink'' : Sink}, sink = sink'' → sink''.Clean := fun he => he ▸ hc
  cases act with
  | process stream payload =>
    simp only [perform] at h
    split at h
    · exact (afterWriting_clean (Sink.write_clean hc rfl) h).2 sink' rfl
    · cases h
  | closeProcessor =>
    simp only [perform] at h
    cases hd : s.close.1 <;> simp only [hd, Except.map, Prod.mk.injEq] at h
    · cases h.1
    · exact hself (Except.ok.inj h.1)
  | wait =>
    cases h
    exact hc
  | write stream chunk =>
    exact (perform_alone (.write stream chunk) trivial hc h).2 sink' rfl
  | writeAt stream position chunk =>
    exact (perform_alone (.writeAt stream position chunk) trivial hc h).2 sink' rfl
  | removeStreams =>
    exact (perform_alone .removeStreams trivial hc h).2 sink' rfl
  | blockStream stream =>
    exact (perform_alone (.blockStream stream) trivial hc h).2 sink' rfl

/-- Up to the opening of the sink the start of an invocation is logged. -/
theorem Move.logs_entering (h : Move again c s c' s') (ht : TraceSoFar n c trace)
    (hst : c.stage ≤ 2)
    (hr : s.Ready) (hn : n ≤ s.processor.accepted) (hc : c.WellBehaved again wellBehaved s) :
    ∃ logged : List (LogEntry κ), Scene.Logs k (some n) s logged s' ∧
      TraceSoFar n c' (trace ++ LogEntry.about n logged) := by
  cases ht with
  | fetching payload =>
    cases h with
    | fetched id payload s => exact ⟨[], .refl s, .intake _ payload⟩
  | intake module payload =>
    obtain ⟨content, hd⟩ := hc
    cases h with
    | unreadable id module payload s refusal h =>
      exact absurd hd (Payload.bytes_error.mp ⟨refusal, h⟩ content)
    | announced id module payload s s' content' h hs =>
      rw [Scene.emit_plain hr.usable (startEvent_plain _ _ _)] at hs
      cases hs
      have hx : (LogEntry.started n content' : LogEntry κ).id? = some n := rfl
      refine ⟨[.started n content'], .itself s hx hn, ?_⟩
      rw [LogEntry.about_own hx]
      exact .opening module content'
    | unannounced id module payload s s' content' problem h hs =>
      rw [Scene.emit_plain hr.usable (startEvent_plain _ _ _)] at hs
      cases hs
  | clearing module content sink stream hc =>
    cases stream <;> exact absurd hst (by simp [Call.stage])
  | _ => exact absurd hst (by simp [Call.stage, stepsBeforeRun])

theorem Move.logs_preparing (h : Move again c s c' s') (ht : TraceSoFar n c trace)
    (hst : 3 ≤ c.stage)
    (hst' : c.stage ≤ 6) (hr : s.Ready) :
    Scene.Logs k (some n) s ([] : List (LogEntry κ)) s' ∧ TraceSoFar n c' trace := by
  cases ht with
  | opening module content =>
    cases h with
    | opened job s =>
      exact ⟨(Logs.refl s).quietly ⟨rfl, rfl, rfl, s.processor.capture.nextSink_scratch _, id⟩
        rfl rfl rfl rfl, .clearing module content _ _ (Capture.nextSink_clean hr.scratch n)⟩
  | clearing module content sink stream hc =>
    cases h with
    | blocked job sink stream s v problem h =>
      refine ⟨(Logs.refl s).withVolume v, .settling content _ ?_⟩
      rcases Sink.clear_fileError hc h with ⟨-, hd⟩ | ⟨e, name, -, hd⟩
      · cases hd
      · cases hd
        exact ⟨_, rfl, Or.inl rfl⟩
    | clearedOut job sink s v h =>
      exact ⟨(Logs.refl s).withVolume v, .clearing module content sink .stderr hc⟩
    | clearedErr job sink s v h =>
      exact ⟨((Logs.refl s).withVolume v).did _, .starting module content sink hc⟩
  | starting module content sink hc =>
    cases h with
    | started job sink s => exact ⟨(Logs.refl s).did _, .running content sink _ _ hc⟩
  | fetching => exact absurd hst (by simp [Call.stage])
  | intake => exact absurd hst (by simp [Call.stage])
  | _ => exact absurd hst' (by simp [Call.stage, stepsBeforeRun])

/-- While the guest runs, its acts may log other invocations. -/
theorem Move.logs_running {sink : Sink} {acts : List Act} {ending : Except Problem Outcome}
    (h : Move again (.running n sink acts ending) s c' s')
    (ht : TraceSoFar n (.running n sink acts ending) trace) (hr : s.Ready)
    (hn : n ≤ s.processor.accepted)
    (hc : (Call.running n sink acts ending).WellBehaved again wellBehaved s)
    (ha : again.Logs k wellBehaved) :
    ∃ logged : List (LogEntry κ), Scene.Logs k (some n) s logged s' ∧
      TraceSoFar n c' (trace ++ LogEntry.about n logged) := by
  cases ht with
  | running content sink acts ending hcl =>
    cases h with
    | completed id sink outcome s => exact ⟨[], .refl s, .draining content sink outcome hcl hc⟩
    | broken id sink problem s =>
      exact ⟨[], (Logs.refl s).did _, .releasing content sink .stdout _ hc⟩
    | acted id sink sink' act rest ending s s' h =>
      obtain ⟨logged, ht⟩ := perform_logs ha sink act hr hc.2
      rw [h] at ht
      obtain ⟨ht, hown⟩ := ht.foreign hn
      refine ⟨logged, ht, ?_⟩
      rw [hown]
      exact .running content sink' rest ending (perform_clean hcl h)
    | stumbled id sink act rest ending s s' problem h =>
      obtain ⟨logged, ht⟩ := perform_logs ha sink act hr hc.2
      rw [h] at ht
      obtain ⟨ht, hown⟩ := ht.foreign hn
      refine ⟨logged, ht.did _, ?_⟩
      rw [hown]
      exact .releasing content sink .stdout _ (hc.1 problem (by rw [h]))

theorem Move.logs_leaving (h : Move again c s c' s') (ht : TraceSoFar n c trace) (hst : c.togo ≤ 5)
    (hst' : 2 ≤ c.togo) (hc : c.WellBehaved again wellBehaved s) :
    Scene.Logs k (some n) s ([] : List (LogEntry κ)) s' ∧ TraceSoFar n c' trace := by
  cases ht with
  | draining content sink outcome hcl ht =>
    cases h with
    | drained id sink outcome s v output h =>
      exact ⟨((Logs.refl s).withVolume v).did _, .drainingError content sink outcome output hcl ht⟩
    | unread id sink outcome s v problem h =>
      refine ⟨(((Logs.refl s).withVolume v).did _).did _, .releasing content sink .stdout _ ?_⟩
      rcases Sink.drain_fileError hcl h with ⟨-, bytes, hd⟩ | ⟨e, name, -, hd⟩
      · cases hd
      · cases hd
        exact ⟨_, rfl, Or.inl rfl⟩
  | drainingError content sink outcome output hcl ht =>
    cases h with
    | drainedError id sink outcome output s v drained h =>
      refine ⟨(((Logs.refl s).withVolume v).did _).did _, .releasing content sink .stdout _ ?_⟩
      rcases Sink.drain_fileError hcl h with ⟨-, bytes, hd⟩ | ⟨e, name, -, hd⟩
      · rw [hd]
        exact ht
      · rw [hd]
        exact ⟨_, rfl, Or.inl rfl⟩
  | releasing content sink stream pending hp =>
    cases h with
    | stuck id sink sink' stream pending s v e h => exact absurd (by rw [h]) (hc e)
    | releasedOut id sink sink' pending s v h =>
      exact ⟨(Logs.refl s).withVolume v, .releasing content sink' .stderr pending hp⟩
    | releasedErr id sink sink' pending s v h =>
      exact ⟨(Logs.refl s).withVolume v, .settling content pending hp⟩
  | running content sink acts ending hcl => exact absurd hst (by simp [Call.togo])
  | _ => exact absurd hst' (by simp [Call.togo])

/-- The last step logs the end, and that is what the invocation answers. -/
theorem Move.logs_settling {pending : Except Problem Drained}
    (h : Move again (.settling n pending) s c' s') (ht : TraceSoFar n (.settling n pending) trace)
    (hr : s.Ready) (hn : n ≤ s.processor.accepted) :
    ∃ logged : List (LogEntry κ), Scene.Logs k (some n) s logged s' ∧
      TraceSoFar n c' (trace ++ LogEntry.about n logged) := by
  cases ht with
  | settling content pending hp =>
    cases h with
    | settled id pending s s' result h =>
      rw [settle_usable hr.usable] at h
      rcases judge_sound s.processor s.site.elapsed hp with ⟨r, hj, hid⟩ | ⟨f, hj, hf⟩
      · rw [hj] at h
        cases h
        have hx : (LogEntry.ended n s.site.elapsed (.ok r) : LogEntry κ).id? = some n := rfl
        refine ⟨[.ended n s.site.elapsed (.ok r)], .itself s hx hn, ?_⟩
        rw [LogEntry.about_own hx]
        exact .succeeded content s.site.elapsed r hid
      · rw [hj] at h
        cases h
        have hx : (LogEntry.ended n s.site.elapsed (.error f) : LogEntry κ).id? = some n := rfl
        refine ⟨[.ended n s.site.elapsed (.error f)], .itself s hx hn, ?_⟩
        rw [LogEntry.about_own hx]
        exact .failed content s.site.elapsed f hf

/-- Every step of an invocation with a number continues its trace. -/
theorem Move.logs (h : Move again c s c' s') (ht : TraceSoFar n c trace) (hr : s.Ready)
    (hn : n ≤ s.processor.accepted) (hc : c.WellBehaved again wellBehaved s)
    (ha : again.Logs k wellBehaved) :
    ∃ logged : List (LogEntry κ), Scene.Logs k (some n) s logged s' ∧
      TraceSoFar n c' (trace ++ LogEntry.about n logged) := by
  have hsilent : Scene.Logs k (some n) s ([] : List (LogEntry κ)) s' ∧ TraceSoFar n c' trace →
      ∃ logged : List (LogEntry κ), Scene.Logs k (some n) s logged s' ∧
        TraceSoFar n c' (trace ++ LogEntry.about n logged) := fun ⟨ht, hs⟩ =>
    ⟨[], ht, by simpa using hs⟩
  cases c with
  | admission payload => cases ht
  | fetching id payload => exact h.logs_entering ht (by simp [Call.stage]) hr hn hc
  | intake id module payload => exact h.logs_entering ht (by simp [Call.stage]) hr hn hc
  | opening job =>
    exact hsilent (h.logs_preparing ht (by simp [Call.stage]) (by simp [Call.stage]) hr)
  | clearing job sink stream =>
    exact hsilent (h.logs_preparing ht (by cases stream <;> simp [Call.stage])
      (by cases stream <;> simp [Call.stage]) hr)
  | starting job sink =>
    exact hsilent (h.logs_preparing ht (by simp [Call.stage]) (by simp [Call.stage]) hr)
  | running id sink acts ending =>
    cases ht with
    | running content sink acts ending hcl =>
      exact h.logs_running (.running content sink acts ending hcl) hr hn hc ha
  | draining id sink outcome =>
    exact hsilent (h.logs_leaving ht (by simp [Call.togo]) (by simp [Call.togo]) hc)
  | drainingError id sink outcome output =>
    exact hsilent (h.logs_leaving ht (by simp [Call.togo]) (by simp [Call.togo]) hc)
  | releasing id sink stream pending =>
    exact hsilent (h.logs_leaving ht (by cases stream <;> simp [Call.togo])
      (by cases stream <;> simp [Call.togo]) hc)
  | settling id pending =>
    cases ht with
    | settling content pending hp => exact h.logs_settling (.settling content pending hp) hr hn
  | finished result =>
    cases h with
    | rested result s => exact hsilent ⟨.refl s, ht⟩

end Call

end GuestRunner
