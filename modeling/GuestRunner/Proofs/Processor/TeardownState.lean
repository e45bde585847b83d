import GuestRunner.Proofs.Processor.Closings
import GuestRunner.Proofs.Processor.Ending

/-!
# How far a teardown has come

The first closing that finds the flag unset tears the processor down: it releases the capture and
the backend, drops the module and reports it, unless the capture could not be released. A few data
of the processor show how far it has come with this. No invocation changes them, unless its guest
closes the processor itself, and no other closing does.
-/

set_option autoImplicit false

namespace GuestRunner

def Deed.isCloseCapture : Deed → Bool
  | .closeCapture => true
  | _ => false

def Processor.captureClosings (p : Processor) : Nat := (p.deeds.filter Deed.isCloseCapture).length

def Event.closingName : String := "processor.closed"

def Record.isClosing : Record → Bool
  | .structured _ (.text name) _ | .called _ (.text name) _ => name == Event.closingName
  | .leveled _ message _ => message == Event.closingName
  | _ => false

theorem Logger.record_isClosing {logger : Logger} {event : Event} {records : List Record}
    {record : Record} (hr : logger.record event.emission = .ok records) (h : record ∈ records) :
    record.isClosing = (event.name == Event.closingName) := by
  unfold Logger.record at hr
  simp only [bind, Except.bind] at hr
  cases logger <;> simp only at hr
  all_goals
    repeat' split at hr
    all_goals first | (cases hr; done) | skip
  all_goals
    cases hr
    simp only [List.mem_singleton, List.not_mem_nil] at h
  all_goals
    subst h
    rfl

structure TeardownState where
  closed : Bool
  captureClosings : Nat
  backendClosings : Nat
  module : Option CompiledModule
  /-- What the journal has about the closing of processors. -/
  notices : List Record

def Scene.teardownState (s : Scene) : TeardownState where
  closed := s.processor.closed
  captureClosings := s.processor.captureClosings
  backendClosings := s.processor.backendClosings
  module := s.processor.module
  notices := s.site.journal.filter Record.isClosing

def Closing.notice (logger : Logger) (accepted : Nat) :
    Except Problem (Option String) → List Record
  | .ok path => logger.heard [closedEvent path accepted]
  | .error _ => []

def Closing.answer : Except Problem (Option String) → Except Problem Unit
  | .ok _ => .ok ()
  | .error problem => .error problem

def TeardownState.tornDown (b : TeardownState) (notice : List Record) : TeardownState :=
  ⟨true, b.captureClosings + 1, b.backendClosings + 1, none, b.notices ++ notice⟩

namespace Scene

/-- What the work of others may do to the teardown of a processor: nothing once the processor is
closed, and all of it before. -/
structure KeepsTeardown (s s' : Scene) : Prop where
  logger : s'.processor.logger = s.processor.logger
  shut : s.processor.closed = true →
    s'.teardownState = s.teardownState ∧ s'.processor.accepted = s.processor.accepted
  ahead : s.processor.closed = false → s'.teardownState = s.teardownState ∨
    ∃ removed, s'.teardownState =
      s.teardownState.tornDown (Closing.notice s.processor.logger s'.processor.accepted removed)

variable {s s' s'' : Scene}

theorem KeepsTeardown.of_teardownState (hl : s'.processor.logger = s.processor.logger)
    (ht : s'.teardownState = s.teardownState)
    (ha : s.processor.closed = true → s'.processor.accepted = s.processor.accepted) :
    KeepsTeardown s s' :=
  ⟨hl, fun hc => ⟨ht, ha hc⟩, fun _ => Or.inl ht⟩

theorem KeepsTeardown.refl (s : Scene) : KeepsTeardown s s := .of_teardownState rfl rfl fun _ => rfl

theorem KeepsTeardown.trans (h : KeepsTeardown s s') (h' : KeepsTeardown s' s'') :
    KeepsTeardown s s'' := by
  have hclosed : ∀ {s : Scene}, s.teardownState.closed = s.processor.closed := rfl
  refine ⟨h'.logger.trans h.logger, ?_, ?_⟩
  · intro hc
    obtain ⟨ht, ha⟩ := h.shut hc
    obtain ⟨ht', ha'⟩ := h'.shut (by rw [← hclosed, ht, hclosed, hc])
    exact ⟨ht'.trans ht, ha'.trans ha⟩
  · intro ho
    rcases h.ahead ho with ht | ⟨removed, ht⟩
    · have ho' : s'.processor.closed = false := by rw [← hclosed, ht, hclosed, ho]
      rw [← ht, ← h.logger]
      exact h'.ahead ho'
    · obtain ⟨ht', ha'⟩ := h'.shut (by rw [← hclosed, ht]; rfl)
      exact Or.inr ⟨removed, by rw [ht', ht, ha']⟩

theorem teardownState_did (s : Scene) (deed : Deed) :
    (s.did deed).teardownState = { s.teardownState with
      captureClosings := s.teardownState.captureClosings + deed.isCloseCapture.toNat
      backendClosings := s.teardownState.backendClosings + deed.isCloseBackend.toNat } := by
  cases hc : deed.isCloseCapture <;> cases hb : deed.isCloseBackend <;>
    simp [teardownState, did, Processor.did, Processor.captureClosings, Processor.backendClosings,
      List.filter_append, hc, hb]

theorem keepsTeardown_did (s : Scene) {deed : Deed} (hc : deed.isCloseCapture = false)
    (hb : deed.isCloseBackend = false) : KeepsTeardown s (s.did deed) := by
  refine .of_teardownState rfl ?_ fun _ => rfl
  rw [teardownState_did, hc, hb]
  rfl

theorem keepsTeardown_withVolume (s : Scene) (v : Files.Volume) :
    KeepsTeardown s (s.withVolume v) :=
  .of_teardownState rfl rfl fun _ => rfl

/-- Reporting anything else keeps the teardown state. -/
theorem emit_keepsTeardown (s : Scene) (event : Event) (he : event.name ≠ Event.closingName) :
    KeepsTeardown s (s.emit event).2 := by
  refine .of_teardownState rfl ?_ fun _ => rfl
  have hb : (event.name == Event.closingName) = false := beq_false_of_ne he
  unfold emit Site.record
  cases hr : s.processor.logger.record event.emission with
  | error refusal => simp
  | ok records =>
    have hf : records.filter Record.isClosing = [] := by
      apply List.filter_eq_nil_iff.mpr
      intro record hm
      rw [Logger.record_isClosing hr hm, hb]
      exact Bool.false_ne_true
    simp [teardownState, List.filter_append, hf]

theorem expire_keepsTeardown (s : Scene) (deadline : Value) :
    KeepsTeardown s (s.expire deadline).2 := by
  rw [expire_scene]
  exact s.emit_keepsTeardown _ (show "invocation.failed" ≠ Event.closingName by decide)

theorem ring_keepsTeardown (s : Scene) : KeepsTeardown s s.ring := by
  unfold ring
  split
  · rename_i deadline steps ha
    have h := s.expire_keepsTeardown deadline
    exact ⟨h.logger, h.shut, h.ahead⟩
  · exact .refl s

theorem tick_keepsTeardown (s : Scene) : KeepsTeardown s s.tick := by
  unfold tick
  split
  · exact s.ring_keepsTeardown
  · exact .of_teardownState rfl rfl fun _ => rfl
  · exact .refl s

end Scene

namespace Closing

/-- What a closing that tears down has still to do once the capture was released or could not be.
The teardown state is compared with that of the moment when the flag was set. -/
inductive Ending (b : TeardownState) (logger : Logger) (accepted : Nat)
    (removed : Except Problem (Option String)) : Closing → TeardownState → Prop
  | shutting : Ending b logger accepted removed (.shutting removed)
      ⟨true, b.captureClosings + 1, b.backendClosings, b.module, b.notices⟩
  | dropping : Ending b logger accepted removed (.dropping removed)
      ⟨true, b.captureClosings + 1, b.backendClosings + 1, b.module, b.notices⟩
  | reporting (path : Option String) (h : removed = .ok path) :
    Ending b logger accepted removed (.reporting path)
      ⟨true, b.captureClosings + 1, b.backendClosings + 1, none, b.notices⟩
  | finished : Ending b logger accepted removed (.finished (answer removed))
      (b.tornDown (notice logger accepted removed))

inductive TearingDown (b : TeardownState) (logger : Logger) (accepted : Nat) :
    Closing → TeardownState → Prop
  | detaching : TearingDown b logger accepted .detaching
      ⟨true, b.captureClosings, b.backendClosings, b.module, b.notices⟩
  | cleaning (scratch : Scratch) (c : Cleanup) :
    TearingDown b logger accepted (.cleaning scratch c)
      ⟨true, b.captureClosings + 1, b.backendClosings, b.module, b.notices⟩
  | ending (removed : Except Problem (Option String)) (k : Closing) (t : TeardownState)
    (h : Ending b logger accepted removed k t) : TearingDown b logger accepted k t

variable {b t : TeardownState} {logger : Logger} {accepted : Nat} {k : Closing} {s : Scene}
  {removed : Except Problem (Option String)}

theorem closedEvent_plain (path : Option String) (accepted : Nat) :
    (closedEvent path accepted).Plain :=
  Event.processorClosed_plain _ _

theorem teardownState_closedEvent (hu : s.processor.logger.Usable) (path : Option String)
    (accepted : Nat) :
    (s.reported [closedEvent path accepted]).teardownState =
      { s.teardownState with notices := s.teardownState.notices ++
        s.processor.logger.heard [closedEvent path accepted] } := by
  have hf : (s.processor.logger.heard [closedEvent path accepted]).filter Record.isClosing =
      s.processor.logger.heard [closedEvent path accepted] := by
    apply List.filter_eq_self.mpr
    intro record hm
    rw [Logger.record_isClosing (Logger.record_plain hu (closedEvent_plain path accepted)) hm]
    rfl
  simp [Scene.teardownState, Scene.reported, Processor.captureClosings, Processor.backendClosings,
    List.filter_append, hf]

theorem Ending.closed (h : Ending b logger accepted removed k t) : t.closed = true := by
  cases h <;> rfl

theorem TearingDown.closed (h : TearingDown b logger accepted k t) : t.closed = true := by
  cases h with
  | ending removed k t h => exact h.closed
  | _ => rfl

theorem Ending.step (h : Ending b logger accepted removed k s.teardownState)
    (hl : s.processor.logger = logger) (hu : logger.Usable)
    (ha : s.processor.accepted = accepted) :
    Ending b logger accepted removed (k.step s).1 (k.step s).2.teardownState := by
  obtain ⟨t, ht⟩ : ∃ t, s.teardownState = t := ⟨_, rfl⟩
  rw [ht] at h
  cases h with
  | shutting =>
    have hstep : (Closing.step (.shutting removed) s).2.teardownState =
        ⟨true, b.captureClosings + 1, b.backendClosings + 1, b.module, b.notices⟩ := by
      show (s.did .closeBackend).teardownState = _
      rw [Scene.teardownState_did, ht]
      rfl
    rw [hstep]
    exact .dropping
  | dropping =>
    have hm : { s.teardownState with module := none } =
        (⟨true, b.captureClosings + 1, b.backendClosings + 1, none, b.notices⟩ :
          TeardownState) := by
      rw [ht]
    cases removed with
    | ok path =>
      have hstep : (Closing.step (.dropping (.ok path)) s).2.teardownState = _ := hm
      rw [hstep]
      exact .reporting path rfl
    | error problem =>
      have hstep : (Closing.step (.dropping (.error problem)) s).2.teardownState = _ := hm
      have hdown : b.tornDown (notice logger accepted (.error problem)) =
          ⟨true, b.captureClosings + 1, b.backendClosings + 1, none, b.notices⟩ := by
        simp [TeardownState.tornDown, notice]
      rw [hstep, ← hdown]
      exact .finished
  | reporting path hr =>
    subst hr
    have he := Scene.emit_plain (s := s) (hl ▸ hu) (closedEvent_plain path s.processor.accepted)
    have hstep : Closing.step (.reporting path) s =
        (.finished (.ok ()), s.reported [closedEvent path s.processor.accepted]) := by
      simp only [Closing.step, he]
    have hstate : (s.reported [closedEvent path s.processor.accepted]).teardownState =
        b.tornDown (notice logger accepted (.ok path)) := by
      rw [teardownState_closedEvent (hl ▸ hu), ht, hl, ha]
      rfl
    rw [hstep, hstate]
    exact .finished
  | finished =>
    rw [show (Closing.step (.finished (answer removed)) s) =
      (.finished (answer removed), s) from rfl,
      ht]
    exact .finished

theorem TearingDown.step (h : TearingDown b logger accepted k s.teardownState)
    (hl : s.processor.logger = logger)
    (hu : logger.Usable) (ha : s.processor.accepted = accepted) :
    TearingDown b logger accepted (k.step s).1 (k.step s).2.teardownState := by
  obtain ⟨t, ht⟩ : ∃ t, s.teardownState = t := ⟨_, rfl⟩
  rw [ht] at h
  cases h with
  | detaching =>
    have hd : (s.did .closeCapture).teardownState =
        ⟨true, b.captureClosings + 1, b.backendClosings, b.module, b.notices⟩ := by
      rw [Scene.teardownState_did, ht]
      rfl
    simp only [Closing.step]
    split
    · rw [hd]
      exact .ending (.ok none) _ _ .shutting
    · rw [hd]
      exact .cleaning _ _
  | cleaning scratch c =>
    cases c with
    | finished removed =>
      rw [show (Closing.step (.cleaning scratch (.finished removed)) s) = (.shutting removed, s)
        from rfl, ht]
      exact .ending removed _ _ .shutting
    | _ =>
      rw [show (Closing.step (.cleaning scratch _) s).2.teardownState =
        s.teardownState from rfl, ht]
      exact .cleaning _ _
  | ending removed k t h => exact .ending removed _ _ ((ht.symm ▸ h : Ending ..).step hl hu ha)

theorem request_open (ho : s.processor.closed = false) (logger : Logger) (accepted : Nat) :
    TearingDown s.teardownState logger accepted (Closing.step .request s).1
      (Closing.step .request s).2.teardownState := by
  rw [request_first ho]
  exact .detaching

end Closing

namespace Scene

/-- A whole closing of an open processor tears it down. -/
theorem close_open {s : Scene} (ho : s.processor.closed = false) (hu : s.processor.logger.Usable) :
    s.close.2.processor.logger = s.processor.logger ∧
      s.close.2.processor.accepted = s.processor.accepted ∧
      ∃ removed, s.close.1 = Closing.answer removed ∧ s.close.2.teardownState =
        s.teardownState.tornDown (Closing.notice s.processor.logger
          s.processor.accepted removed) := by
  obtain ⟨result, s', hr, hq⟩ := Closing.run_keeps (k := .request) (s := s)
    (Q := fun k s' => s'.processor.logger = s.processor.logger ∧
      s'.processor.accepted = s.processor.accepted ∧
      (k = .request ∧ s' = s ∨
        Closing.TearingDown s.teardownState s.processor.logger s.processor.accepted k
          s'.teardownState))
    (fun k s' ⟨hl, ha, hk⟩ => by
      refine ⟨(k.step_continued s').logger.trans hl, (k.step_frame s').2.1.trans ha, Or.inr ?_⟩
      rcases hk with ⟨rfl, rfl⟩ | hk
      · exact Closing.request_open ho _ _
      · exact hk.step hl hu ha)
    ⟨rfl, rfl, Or.inl ⟨rfl, rfl⟩⟩
  obtain ⟨hl, ha, ⟨hk, -⟩ | hk⟩ := hq
  · cases hk
  have hclose : s.close = (result, s') := by
    unfold close
    rw [hr]
    rfl
  obtain ⟨k, hk'⟩ : ∃ k, Closing.finished result = k := ⟨_, rfl⟩
  obtain ⟨t, ht⟩ : ∃ t, s'.teardownState = t := ⟨_, rfl⟩
  rw [hclose, ht]
  rw [hk', ht] at hk
  cases hk with
  | ending removed k t h =>
    cases h with
    | finished =>
      cases hk'
      exact ⟨hl, ha, removed, rfl, rfl⟩
    | _ => cases hk'
  | _ => cases hk'

theorem close_keepsTeardown (s : Scene) (hu : s.processor.logger.Usable) :
    KeepsTeardown s s.close.2 := by
  cases hc : s.processor.closed with
  | true =>
    rw [close_shut hc]
    exact .refl s
  | false =>
    obtain ⟨hl, ha, removed, -, ht⟩ := close_open hc hu
    refine ⟨hl, fun h => ?_, fun _ => Or.inr ⟨removed, ?_⟩⟩
    · rw [hc] at h
      cases h
    · rw [ht, ha]

end Scene

namespace Call

open Scene

variable {again : Again}

def Again.KeepsTeardown (again : Again) : Prop :=
  ∀ payload s, s.processor.logger.Usable → Scene.KeepsTeardown s (again payload s).2

theorem perform_keepsTeardown (ha : again.KeepsTeardown) (sink : Sink) (act : Act) (s : Scene)
    (hu : s.processor.logger.Usable) : Scene.KeepsTeardown s (perform again sink act s).2 := by
  cases act with
  | process stream payload =>
    have h := ha payload s hu
    simp only [perform]
    split <;> rename_i he <;> rw [he] at h
    · exact h.trans (keepsTeardown_withVolume _ _)
    · exact h
  | closeProcessor => exact s.close_keepsTeardown hu
  | wait => exact s.ring_keepsTeardown
  | _ => exact keepsTeardown_withVolume s _

theorem Move.keepsTeardown {c c' : Call} {s s' : Scene} (h : Move again c s c' s')
    (ha : again.KeepsTeardown)
    (hu : s.processor.logger.Usable) : Scene.KeepsTeardown s s' := by
  have hstart : ∀ p id content, (startEvent p id content).name ≠ Event.closingName := by
    intro p id content
    show "invocation.start" ≠ Event.closingName
    decide
  cases h with
  | refused payload s h => exact .refl s
  | admitted payload s h =>
    refine .of_teardownState rfl rfl fun hc => ?_
    rw [h] at hc
    cases hc
  | announced id module payload s s' content h hs =>
    have ho := s.emit_keepsTeardown _ (hstart s.processor id content)
    rwa [hs] at ho
  | unannounced id module payload s s' content problem h hs =>
    have ho := s.emit_keepsTeardown _ (hstart s.processor id content)
    rwa [hs] at ho
  | opened job s => exact .of_teardownState rfl rfl fun _ => rfl
  | clearedErr job sink s v h =>
    exact (keepsTeardown_withVolume s v).trans (keepsTeardown_did _ rfl rfl)
  | started job sink s => exact keepsTeardown_did s rfl rfl
  | broken id sink problem s => exact keepsTeardown_did s rfl rfl
  | acted id sink sink' act rest ending s s' h =>
    have ho := perform_keepsTeardown ha sink act s hu
    rwa [h] at ho
  | stumbled id sink act rest ending s s' problem h =>
    have ho := perform_keepsTeardown ha sink act s hu
    rw [h] at ho
    exact ho.trans (keepsTeardown_did _ rfl rfl)
  | drained id sink outcome s v output h =>
    exact (keepsTeardown_withVolume s v).trans (keepsTeardown_did _ rfl rfl)
  | unread id sink outcome s v problem h =>
    exact ((keepsTeardown_withVolume s v).trans (keepsTeardown_did _ rfl rfl)).trans
      (keepsTeardown_did _ rfl rfl)
  | drainedError id sink outcome output s v content h =>
    exact ((keepsTeardown_withVolume s v).trans (keepsTeardown_did _ rfl rfl)).trans
      (keepsTeardown_did _ rfl rfl)
  | settled id pending s s' result h =>
    have hs : s' = (settle id pending s).2 := by rw [h]
    subst hs
    unfold settle
    dsimp only
    split
    · exact s.emit_keepsTeardown _ (show "invocation.complete" ≠ Event.closingName by decide)
    · exact s.emit_keepsTeardown _ (show "invocation.failed" ≠ Event.closingName by decide)
    · exact .refl s
  | fetched | unreadable | completed | rested => exact .refl _
  | blocked | clearedOut | stuck | releasedOut | releasedErr => exact keepsTeardown_withVolume _ _

theorem step_keepsTeardown (ha : again.KeepsTeardown) (c : Call) (s : Scene)
    (hu : s.processor.logger.Usable) : Scene.KeepsTeardown s (step again c s).2 := by
  rcases step_move again c s with h | h
  · exact h.keepsTeardown ha hu
  · exact s.tick_keepsTeardown.trans (h.keepsTeardown ha (s.tick_keepsTeardown.logger ▸ hu))

theorem run_keepsTeardown (ha : again.KeepsTeardown) (c : Call) (s : Scene)
    (hu : s.processor.logger.Usable) :
    Scene.KeepsTeardown s (run again c s).2 := by
  obtain ⟨result, s', hr, ho⟩ := run_keeps again (c := c) (s := s)
    (Q := fun _ s' => Scene.KeepsTeardown s s')
    (fun c s' h => h.trans (step_keepsTeardown ha c s' (h.logger ▸ hu))) (.refl s)
  rw [hr]
  exact ho

end Call

theorem Scene.invokeWithin_keepsTeardown (depth : Nat) :
    Call.Again.KeepsTeardown fun payload s => outputOnly (invokeWithin depth payload s) := by
  induction depth with
  | zero =>
    intro payload s _
    exact .refl s
  | succ depth ih =>
    intro payload s hu
    exact Call.run_keepsTeardown ih _ s hu

theorem Scene.again_keepsTeardown : Call.Again.KeepsTeardown Scene.again :=
  invokeWithin_keepsTeardown nestingLimit

end GuestRunner
