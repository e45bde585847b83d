import GuestRunner.Proofs.Processor.Deeds
import GuestRunner.Proofs.Processor.Origin
import GuestRunner.Proofs.Processor.Teardown

/-!
# What a processor asks of its backend and its sinks

An invocation is followed step by step, with what it has asked so far. At its end these are the
deeds of its request. The invocations that a guest starts and the closing that it makes are requests
within the run of the guest.
-/

set_option autoImplicit false

namespace GuestRunner

open Scene

structure Scene.Able (settings : Settings) (backend : Backend) (m : CompiledModule) (s : Scene) :
    Prop where
  settings : s.processor.settings = settings
  backend : s.processor.backend = backend
  usable : s.processor.logger.Usable
  module : s.processor.closed = false → s.processor.module = some m

structure Scene.Works (settings : Settings) (backend : Backend) (m : CompiledModule)
    (requests : List Request) (s : Scene) (deeds : List Deed) (s' : Scene) : Prop where
  able : s'.Able settings backend m
  asked : s'.processor.deeds = s.processor.deeds ++ deeds
  deedsOf : DeedsOf settings backend m requests s.servingState deeds s'.servingState

variable {settings : Settings} {backend : Backend} {m : CompiledModule}

namespace Scene

variable {s s' s'' : Scene} {requests more : List Request} {deeds after : List Deed}

theorem Able.keep (h : s.Able settings backend m) (hk : Continued s s')
    (hm : s'.processor.closed = false →
      s.processor.closed = false ∧ s'.processor.module = s.processor.module) :
    s'.Able settings backend m where
  settings := hk.settings.trans h.settings
  backend := hk.backend.trans h.backend
  usable := hk.logger ▸ h.usable
  module := by
    intro hc
    obtain ⟨ho, he⟩ := hm hc
    exact he.trans (h.module ho)

theorem Able.same (h : s.Able settings backend m) (hp : s'.processor = s.processor) :
    s'.Able settings backend m := by
  constructor
  · rw [hp]
    exact h.settings
  · rw [hp]
    exact h.backend
  · rw [hp]
    exact h.usable
  · rw [hp]
    exact h.module

theorem Able.did (h : s.Able settings backend m) (deed : Deed) :
    (s.did deed).Able settings backend m :=
  ⟨h.settings, h.backend, h.usable, h.module⟩

theorem Works.refl (h : s.Able settings backend m) : Works settings backend m [] s [] s :=
  ⟨h, (List.append_nil _).symm, .rest _⟩

theorem Works.trans (h : Works settings backend m requests s deeds s')
    (h' : Works settings backend m more s' after s'') :
    Works settings backend m (requests ++ more) s (deeds ++ after) s'' where
  able := h'.able
  asked := by rw [h'.asked, h.asked, List.append_assoc]
  deedsOf := h.deedsOf.append h'.deedsOf

theorem Works.elsewhere (h : s.Able settings backend m) (hp : s'.processor = s.processor) :
    Works settings backend m [.elsewhere s'.site.volume s'.site.elapsed] s [] s' where
  able := h.same hp
  asked := by rw [hp, List.append_nil]
  deedsOf := by
    have hst : s'.servingState = s.servingState.on s'.site.volume := by
      rw [servingState, hp]
      rfl
    rw [hst]
    exact .elsewhere _ _ (.rest _)

theorem ring_same (s : Scene) :
    s.ring.processor = s.processor ∧ s.ring.site.volume = s.site.volume := by
  unfold ring
  split
  · rename_i deadline steps ha
    have h := s.expire_scene deadline
    have hp : (s.expire deadline).2.processor = s.processor := by
      rw [h]
      rfl
    have hv : (s.expire deadline).2.site.volume = s.site.volume := by
      rw [h, emit_volume]
    exact ⟨hp, hv⟩
  · exact ⟨rfl, rfl⟩

theorem tick_same (s : Scene) :
    s.tick.processor = s.processor ∧ s.tick.site.volume = s.site.volume := by
  unfold tick
  split
  · exact s.ring_same
  · exact ⟨rfl, rfl⟩
  · exact ⟨rfl, rfl⟩

theorem servingState_same (hp : s'.processor = s.processor) (hv : s'.site.volume = s.site.volume) :
    s'.servingState = s.servingState := by
  rw [servingState, servingState, hp, hv]

end Scene

namespace Closing

def asked : Closing → List Deed
  | .request | .detaching => []
  | .cleaning .. | .shutting _ => [.closeCapture]
  | _ => [.closeCapture, .closeBackend]

theorem step_asked {k : Closing} (hk : k ≠ .request) {s : Scene} {before : List Deed}
    (h : s.processor.deeds = before ++ k.asked) :
    (k.step s).1 ≠ .request ∧ (k.step s).2.processor.deeds = before ++ (k.step s).1.asked := by
  have hdid : ∀ deed, (s.did deed).processor.deeds = before ++ (k.asked ++ [deed]) := by
    intro deed
    rw [← List.append_assoc, ← h]
    rfl
  cases k with
  | request => exact absurd rfl hk
  | detaching =>
    simp only [step]
    split <;> exact ⟨by simp, hdid _⟩
  | cleaning scratch c => cases c <;> exact ⟨by simp [step], h⟩
  | shutting removed => exact ⟨by simp [step], hdid _⟩
  | dropping removed => cases removed <;> exact ⟨by simp [step], h⟩
  | reporting removed => exact ⟨by simp [step], h⟩
  | finished result => exact ⟨by simp [step], h⟩

end Closing

/-- A closing asks for both ends, or for nothing. -/
theorem Scene.close_works {s : Scene} (h : s.Able settings backend m) :
    ∃ deeds, Works settings backend m [.close] s deeds s.close.2 := by
  cases hc : s.processor.closed with
  | true =>
    rw [close_shut hc]
    exact ⟨[], h, (List.append_nil _).symm, .idle hc (.rest _)⟩
  | false =>
    -- From the second step on the flag is set, and nothing else that requests depend on changes.
    have hrun := Closing.run_keeps (k := .request) (s := s)
      (Q := fun k s' => Continued s s' ∧ (k = .request → s' = s) ∧ (k ≠ .request →
        s'.servingState = ⟨s.processor.accepted, s.processor.capture, true, s'.site.volume⟩ ∧
          s'.processor.deeds = s.processor.deeds ++ k.asked)) ?_
      ⟨.refl s, fun _ => rfl, fun hk => absurd rfl hk⟩
    · obtain ⟨answer, s', hr, hk, -, hq⟩ := hrun
      obtain ⟨hserving, hdeeds⟩ := hq (by simp)
      have hend : s.close.2 = s' := by rw [close, hr]
      have hclosed : s'.processor.closed = true := congrArg ServingState.closed hserving
      rw [hend]
      refine ⟨_, h.keep hk fun ho => ?_, hdeeds, ?_⟩
      · rw [hclosed] at ho
        cases ho
      · rw [hserving, servingState, hc]
        exact .closed (.rest _)
    · rintro k s' ⟨hk, hfirst, hlater⟩
      have hcont := hk.trans (k.step_continued s')
      by_cases hreq : k = .request
      · have hs := hfirst hreq
        subst hreq hs
        rw [Closing.request_first hc] at hcont ⊢
        exact ⟨hcont, by simp, fun _ => ⟨rfl, (List.append_nil _).symm⟩⟩
      · obtain ⟨hserving, hdeeds⟩ := hlater hreq
        obtain ⟨hnext, hdeeds'⟩ := Closing.step_asked hreq hdeeds
        obtain ⟨hcap, hacc, -⟩ := k.step_frame s'
        have hclosed := k.step_closed (congrArg ServingState.closed hserving)
        refine ⟨hcont, fun h => absurd h hnext, fun _ => ⟨?_, hdeeds'⟩⟩
        have haccepted : s'.processor.accepted = s.processor.accepted :=
          congrArg ServingState.accepted hserving
        have hcapture : s'.processor.capture = s.processor.capture :=
          congrArg ServingState.capture hserving
        rw [servingState, hcap, hacc, hclosed, haccepted, hcapture]

namespace Call

def Past : Call → Prop
  | .releasing .. | .settling .. | .finished _ => True
  | _ => False

def Over : Call → Prop
  | .settling .. | .finished _ => True
  | _ => False

theorem Past.stage {c : Call} (h : c.Past) : c.stage = stepsBeforeRun := by
  cases c <;> first | rfl | exact h.elim

theorem Over.past {c : Call} (h : c.Over) : c.Past := by
  cases c <;> first | exact h.elim | trivial

inductive Begun (settings : Settings) (backend : Backend) (m : CompiledModule) (payload : Value) :
    ServingState → Nat → Sink → List Act → ServingState → List Deed → Prop
  | mk {n : Nat} {c c' : Capture} {v v' : Files.Volume} {content : Bytes} {sink sink' : Sink}
    {context : Context} {acts : List Act} {inside : List Request} {within : List Deed}
    {a : ServingState}
    (hb : Payload.Denotes payload content) (hs : c.Opens (n + 1) sink c')
    (hv : sink.prepare v = (.ok (), v')) (hx : context.Fits settings (n + 1) content sink)
    (ha : ∃ closed, (∀ r ∈ inside,
      ∃ act ∈ (backend.run closed (some m) context v').acts, act.Causes r) ∧
      ∀ act ∈ acts, act ∈ (backend.run closed (some m) context v').acts)
    (hi : DeedsOf settings backend m inside ⟨n + 1, c', false, v'⟩ within a)
    (hp : sink'.filePaths = sink.filePaths) :
    Begun settings backend m payload ⟨n, c, false, v⟩ (n + 1) sink' acts a
      (.openSink sink :: .run (some m) context :: within)

inductive Doing (settings : Settings) (backend : Backend) (m : CompiledModule) (payload : Value) :
    ServingState → Call → ServingState → List Deed → Prop
  | waiting (a : ServingState) : Doing settings backend m payload a (.admission payload) a []
  | fetching (n : Nat) (c : Capture) (v : Files.Volume) :
    Doing settings backend m payload ⟨n, c, false, v⟩ (.fetching (n + 1) payload)
      ⟨n + 1, c, false, v⟩ []
  | intake (n : Nat) (c : Capture) (v : Files.Volume) :
    Doing settings backend m payload ⟨n, c, false, v⟩ (.intake (n + 1) (some m) payload)
      ⟨n + 1, c, false, v⟩ []
  | opening (n : Nat) (c : Capture) (v : Files.Volume) (content : Bytes)
    (hb : Payload.Denotes payload content) :
    Doing settings backend m payload ⟨n, c, false, v⟩ (.opening ⟨n + 1, some m, content⟩)
      ⟨n + 1, c, false, v⟩ []
  | clearing (n : Nat) (c c' : Capture) (v : Files.Volume) (content : Bytes) (sink : Sink)
    (hb : Payload.Denotes payload content) (hs : c.Opens (n + 1) sink c') :
    Doing settings backend m payload ⟨n, c, false, v⟩
      (.clearing ⟨n + 1, some m, content⟩ sink .stdout) ⟨n + 1, c', false, v⟩ []
  | clearingError (n : Nat) (c c' : Capture) (v v' : Files.Volume) (content : Bytes) (sink : Sink)
    (hb : Payload.Denotes payload content) (hs : c.Opens (n + 1) sink c')
    (hv : sink.clear .stdout v = (.ok (), v')) :
    Doing settings backend m payload ⟨n, c, false, v⟩
      (.clearing ⟨n + 1, some m, content⟩ sink .stderr) ⟨n + 1, c', false, v'⟩ []
  | starting (n : Nat) (c c' : Capture) (v v' : Files.Volume) (content : Bytes) (sink : Sink)
    (hb : Payload.Denotes payload content) (hs : c.Opens (n + 1) sink c')
    (hv : sink.prepare v = (.ok (), v')) :
    Doing settings backend m payload ⟨n, c, false, v⟩ (.starting ⟨n + 1, some m, content⟩ sink)
      ⟨n + 1, c', false, v'⟩ [.openSink sink]
  | running {a b : ServingState} {id : Nat} {sink : Sink} {acts : List Act} {deeds : List Deed}
    (ending : Except Problem Outcome)
    (h : Begun settings backend m payload a id sink acts b deeds) :
    Doing settings backend m payload a (.running id sink acts ending) b deeds
  | draining {a b : ServingState} {id : Nat} {sink : Sink} {deeds : List Deed} (outcome : Outcome)
    (h : Begun settings backend m payload a id sink [] b deeds) :
    Doing settings backend m payload a (.draining id sink outcome) b deeds
  | drainingError {a b : ServingState} {id : Nat} {sink : Sink} {deeds : List Deed}
    (outcome : Outcome) (output : Bytes) (w : Files.Volume)
    (h : Begun settings backend m payload a id sink [] b deeds) :
    Doing settings backend m payload a (.drainingError id sink outcome output) (b.on w)
      (deeds ++ [.drain sink .stdout])
  | past {a b : ServingState} {c : Call} {deeds : List Deed} (hc : c.Past)
    (h : ∀ w, DeedsOf settings backend m [.invoke payload] a deeds (b.on w)) :
    Doing settings backend m payload a c b deeds
  | gone {a b : ServingState} {c : Call} {deeds : List Deed} (hc : c.Over)
    (h : DeedsOf settings backend m [.invoke payload] a deeds b) :
    Doing settings backend m payload a c b deeds

variable {payload : Value} {a b b' : ServingState} {id : Nat} {sink sink' : Sink} {acts : List Act}
  {deeds more drains : List Deed} {requests : List Request}

theorem Begun.acted {act : Act}
    (h : Begun settings backend m payload a id sink (act :: acts) b deeds)
    (hr : ∀ r ∈ requests, act.Causes r)
    (hl : DeedsOf settings backend m requests b more b') (hp : sink'.filePaths = sink.filePaths) :
    Begun settings backend m payload a id sink' acts b' (deeds ++ more) := by
  cases h with
  | mk hb hs hv hx ha hi hp' =>
    obtain ⟨closed, hin, hacts⟩ := ha
    refine .mk hb hs hv hx ⟨closed, fun r hmem => ?_, fun act hmem =>
      hacts act (List.mem_cons_of_mem _ hmem)⟩ (hi.append hl) (hp.trans hp')
    rcases List.mem_append.mp hmem with hmem | hmem
    · exact hin r hmem
    · exact ⟨act, hacts act List.mem_cons_self, hr r hmem⟩

theorem Begun.ran (h : Begun settings backend m payload a id sink acts b deeds)
    (hd : Drains sink drains) (w : Files.Volume) :
    DeedsOf settings backend m [.invoke payload] a (deeds ++ (drains ++ [.release sink]))
      (b.on w) := by
  cases h with
  | mk hb hs hv hx ha hi hp =>
    obtain ⟨closed, hin, -⟩ := ha
    exact .ran payload hb hs hv hx ⟨closed, hin⟩ hi hp hd (.rest _)

def Again.Works (settings : Settings) (backend : Backend) (m : CompiledModule) (again : Again) :
    Prop :=
  ∀ payload s, s.Able settings backend m → ∃ requests deeds,
    (∀ r ∈ requests, r = .invoke payload) ∧
      Scene.Works settings backend m requests s deeds (again payload s).2

def Proceeds (settings : Settings) (backend : Backend) (m : CompiledModule) (payload : Value)
    (a : ServingState) (deeds : List Deed) (s : Scene) (c : Call) (s' : Scene) : Prop :=
  ∃ more, s'.Able settings backend m ∧ s'.processor.deeds = s.processor.deeds ++ more ∧
    Doing settings backend m payload a c s'.servingState (deeds ++ more)

variable {again : Again} {c c' : Call} {s s' s'' : Scene}

theorem Proceeds.silent (hs : s.Able settings backend m) (hp : s'.processor = s.processor)
    (hd : Doing settings backend m payload a c s'.servingState deeds) :
    Proceeds settings backend m payload a deeds s c s' := by
  refine ⟨[], hs.same hp, ?_, ?_⟩
  · rw [hp, List.append_nil]
  · rw [List.append_nil]
    exact hd

theorem Proceeds.asking (hs : s.Able settings backend m)
    (hp : s'.processor = { s.processor with deeds := s.processor.deeds ++ more })
    (hd : Doing settings backend m payload a c s'.servingState (deeds ++ more)) :
    Proceeds settings backend m payload a deeds s c s' := by
  refine ⟨more, ?_, ?_, hd⟩
  · constructor <;> rw [hp]
    · exact hs.settings
    · exact hs.backend
    · exact hs.usable
    · exact hs.module
  · rw [hp]

theorem perform_works (sink : Sink) (act : Act) (ha : again.Works settings backend m)
    (hs : s.Able settings backend m) : ∃ requests deeds,
      (∀ r ∈ requests, act.Causes r) ∧
        Scene.Works settings backend m requests s deeds (perform again sink act s).2 := by
  have hfiles : ∀ s' : Scene, s'.processor = s.processor → ∃ requests deeds,
      (∀ r ∈ requests, act.Causes r) ∧
        Scene.Works settings backend m requests s deeds s' := fun s' hp =>
    ⟨_, [], fun r hmem => List.mem_singleton.mp hmem ▸ .files act _ _, .elsewhere hs hp⟩
  cases act with
  | process stream payload =>
    obtain ⟨requests, deeds, hr, hw⟩ := ha payload s hs
    have hcauses : ∀ r ∈ requests, (Act.process stream payload).Causes r := fun r hmem =>
      hr r hmem ▸ .process stream payload
    simp only [perform]
    split <;> rename_i he <;> rw [he] at hw
    · -- The answer is written to the stream of the guest that has asked.
      refine ⟨_, _, fun r hmem => ?_, hw.trans (.elsewhere hw.able rfl)⟩
      rcases List.mem_append.mp hmem with hmem | hmem
      · exact hcauses r hmem
      · exact List.mem_singleton.mp hmem ▸ .files _ _ _
    · exact ⟨requests, deeds, hcauses, hw⟩
  | closeProcessor =>
    obtain ⟨deeds, hw⟩ := close_works hs
    exact ⟨[.close], deeds, fun r hmem => List.mem_singleton.mp hmem ▸ .close, hw⟩
  | wait => exact hfiles _ s.ring_same.1
  | _ => exact hfiles _ rfl

theorem settle_same (id : Nat) (pending : Except Problem Drained) (s : Scene) :
    (settle id pending s).2.processor = s.processor ∧
      (settle id pending s).2.site.volume = s.site.volume := by
  unfold settle
  dsimp only
  split
  · exact ⟨rfl, s.emit_volume _⟩
  · exact ⟨rfl, s.emit_volume _⟩
  · exact ⟨rfl, rfl⟩

theorem Move.past (h : Move again c s c' s') (hc : c.Past) :
    c'.Past ∧ s'.processor = s.processor := by
  cases h with
  | settled id pending s s' result h =>
    have hp := (settle_same id pending s).1
    rw [h] at hp
    exact ⟨trivial, hp⟩
  | stuck | releasedOut | releasedErr | rested => exact ⟨trivial, rfl⟩
  | _ => exact hc.elim

theorem Move.gone (h : Move again c s c' s') (hc : c.Over) :
    c'.Over ∧ s'.processor = s.processor ∧ s'.site.volume = s.site.volume := by
  cases h with
  | settled id pending s s' result h =>
    have hsame := settle_same id pending s
    rw [h] at hsame
    exact ⟨trivial, hsame⟩
  | rested => exact ⟨trivial, rfl, rfl⟩
  | _ => exact hc.elim

theorem Move.proceeds_past (h : Move again c s c' s') (hs : s.Able settings backend m)
    (hb : s.servingState = b) (hc : c.Past)
    (hl : ∀ w, DeedsOf settings backend m [.invoke payload] a deeds (b.on w)) :
    Proceeds settings backend m payload a deeds s c' s' := by
  obtain ⟨hc', hp⟩ := h.past hc
  refine .silent hs hp (.past hc' fun w => ?_)
  have hst : s'.servingState.on w = b.on w := by
    rw [← hb, Scene.servingState, hp]
    rfl
  rw [hst]
  exact hl w

theorem Move.proceeds_over (h : Move again c s c' s') (hs : s.Able settings backend m)
    (hb : s.servingState = b) (hc : c.Over)
    (hl : DeedsOf settings backend m [.invoke payload] a deeds b) :
    Proceeds settings backend m payload a deeds s c' s' := by
  obtain ⟨hc', hp, hv⟩ := h.gone hc
  exact .silent hs hp (servingState_same hp hv ▸ hb ▸ .gone hc' hl)

theorem did_did (s : Scene) (d d' : Deed) : ((s.did d).did d').processor =
    { s.processor with deeds := s.processor.deeds ++ [d, d'] } := by
  simp [Scene.did, Processor.did]

/-- Before its sink an invocation asks for nothing. -/
theorem Move.proceeds_entering (h : Move again c s c' s') (hs : s.Able settings backend m)
    (hb : s.servingState = b) (hd : Doing settings backend m payload a c b deeds)
    (hst : c.stage ≤ 3) : Proceeds settings backend m payload a deeds s c' s' := by
  cases hd with
  | waiting =>
    cases h with
    | refused payload s hc =>
      rw [← hb]
      exact .silent hs rfl (.gone trivial (.refused payload hc (.rest _)))
    | admitted payload s hc =>
      have ha : a = ⟨s.processor.accepted, s.processor.capture, false, s.site.volume⟩ := by
        rw [← hb, Scene.servingState, hc]
      subst ha
      refine ⟨[], ⟨hs.settings, hs.backend, hs.usable, hs.module⟩, (List.append_nil _).symm, ?_⟩
      have hst : s.admitting.servingState =
          ⟨s.processor.accepted + 1, s.processor.capture, false, s.site.volume⟩ := by
        rw [Scene.servingState, Scene.admitting, hc]
      rw [hst]
      exact .fetching _ _ _
  | fetching n cap v =>
    cases h with
    | fetched id payload s =>
      have hm : s.processor.module = some m := hs.module (congrArg ServingState.closed hb)
      rw [hm]
      exact .silent hs rfl (hb ▸ .intake n cap v)
  | intake n cap v =>
    cases h with
    | unreadable id module payload s refusal h =>
      exact .silent hs rfl
        (hb ▸ .gone trivial (.unread payload (Payload.bytes_error.mp ⟨_, h⟩) (.rest _)))
    | announced id module payload s s' content h hemit =>
      have hp : s'.processor = s.processor := (congrArg (fun r => r.2.processor) hemit).symm
      have hv : s'.site.volume = s.site.volume :=
        (congrArg (fun r => r.2.site.volume) hemit).symm.trans (s.emit_volume _)
      exact .silent hs hp
        (servingState_same hp hv ▸ hb ▸ .opening n cap v content (Payload.bytes_ok.mp h))
    | unannounced id module payload s s' content problem h hemit =>
      rw [Scene.emit_plain hs.usable (startEvent_plain _ _ _)] at hemit
      cases hemit
  | opening n cap v content hc =>
    cases h with
    | opened job s =>
      have hcap : s.processor.capture = cap := congrArg ServingState.capture hb
      refine ⟨[], ⟨hs.settings, hs.backend, hs.usable, hs.module⟩, (List.append_nil _).symm, ?_⟩
      have hst : (s.withCapture (s.processor.capture.nextSink
        (Value.ofNat (n + 1))).2).servingState =
          { s.servingState with capture :=
            (s.processor.capture.nextSink (Value.ofNat (n + 1))).2 } := rfl
      rw [hst, hb, hcap]
      exact .clearing n cap _ v content _ hc (cap.opens_next (n + 1))
  | clearing | clearingError => exact absurd hst (by simp [Call.stage])
  | past hc hl => exact absurd hst (by simp [hc.stage, stepsBeforeRun])
  | gone hc hl => exact absurd hst (by simp [hc.past.stage, stepsBeforeRun])
  | _ => exact absurd hst (by simp [Call.stage, stepsBeforeRun])

/-- A stream that cannot be cleared ends the invocation before its run. -/
theorem Move.proceeds_clearing {job : Job} {stream : Stream}
    (h : Move again (.clearing job sink stream) s c' s') (hs : s.Able settings backend m)
    (hb : s.servingState = b)
    (hd : Doing settings backend m payload a (.clearing job sink stream) b deeds) :
    Proceeds settings backend m payload a deeds s c' s' := by
  cases hd with
  | clearing n cap cap' v content sink hc hn =>
    have hv : s.site.volume = v := congrArg ServingState.volume hb
    cases h with
    | blocked job sink stream s v' problem h =>
      have hprepare : sink.prepare v = (.error problem, v') := by
        rw [Sink.prepare, ← hv, h]
      have hst : (s.withVolume v').servingState = ⟨n + 1, cap', false, v'⟩ :=
        congrArg (ServingState.on · v') hb
      exact .silent hs rfl (hst ▸ .gone trivial (.unopened payload hc hn hprepare (.rest _)))
    | clearedOut job sink s v' h =>
      have hst : (s.withVolume v').servingState = ⟨n + 1, cap', false, v'⟩ :=
        congrArg (ServingState.on · v') hb
      exact .silent hs rfl (hst ▸ .clearingError n cap cap' v v' content sink hc hn (hv ▸ h))
  | clearingError n cap cap' v v' content sink hc hn hout =>
    have hv : s.site.volume = v' := congrArg ServingState.volume hb
    cases h with
    | blocked job sink stream s w problem h =>
      have hprepare : sink.prepare v = (.error problem, w) := by
        rw [Sink.prepare, hout]
        exact hv ▸ h
      have hst : (s.withVolume w).servingState = ⟨n + 1, cap', false, w⟩ :=
        congrArg (ServingState.on · w) hb
      exact .silent hs rfl (hst ▸ .gone trivial (.unopened payload hc hn hprepare (.rest _)))
    | clearedErr job sink s w h =>
      have hprepare : sink.prepare v = (.ok (), w) := by
        rw [Sink.prepare, hout]
        exact hv ▸ h
      have hst : (s.withVolume w).servingState = ⟨n + 1, cap', false, w⟩ :=
        congrArg (ServingState.on · w) hb
      have hdoing : Doing settings backend m payload ⟨n, cap, false, v⟩
          (.starting ⟨n + 1, some m, content⟩ sink) (s.withVolume w).servingState
          ([] ++ [.openSink sink]) := by
        rw [hst]
        exact .starting n cap cap' v w content sink hc hn hprepare
      exact .asking hs rfl hdoing
  | past hc => exact hc.elim
  | gone hc => exact hc.elim

/-- The sink is opened when both of its streams are clear, and then the guest is run. -/
theorem Move.proceeds_starting {job : Job} (h : Move again (.starting job sink) s c' s')
    (hs : s.Able settings backend m) (hb : s.servingState = b)
    (hd : Doing settings backend m payload a (.starting job sink) b deeds) :
    Proceeds settings backend m payload a deeds s c' s' := by
  cases hd with
  | starting n cap cap' v v' content sink hc hn hprepare =>
    cases h with
    | started job sink s =>
      have hv : s.site.volume = v' := congrArg ServingState.volume hb
      have hx : (contextOf s.processor ⟨n + 1, some m, content⟩ sink).Fits settings (n + 1) content
          sink := by
        rw [contextOf, hs.settings]
        exact ⟨rfl, rfl, Context.texts_isText _, rfl⟩
      have hruns : ∀ act ∈ (runOf s ⟨n + 1, some m, content⟩ sink).acts,
          act ∈ (backend.run s.processor.backendClosed (some m)
            (contextOf s.processor ⟨n + 1, some m, content⟩ sink) v').acts :=
        fun act hact => by rwa [runOf, hs.backend, hv] at hact
      have hbegun := Begun.mk hc hn hprepare hx
        ⟨s.processor.backendClosed, fun r hr => absurd hr List.not_mem_nil, hruns⟩
        (.rest _) rfl
      exact .asking hs rfl (hb ▸ Doing.running _ hbegun)
  | past hc => exact hc.elim
  | gone hc => exact hc.elim

/-- What the guest asks for while it runs is within its run. -/
theorem Move.proceeds_running {ending : Except Problem Outcome}
    (h : Move again (.running id sink acts ending) s c' s') (hs : s.Able settings backend m)
    (hb : s.servingState = b)
    (hd : Begun settings backend m payload a id sink acts b deeds)
    (ha : again.Works settings backend m) :
    Proceeds settings backend m payload a deeds s c' s' := by
  cases h with
  | completed id sink outcome s => exact .silent hs rfl (hb ▸ .draining outcome hd)
  | broken id sink problem s => exact .asking hs rfl (hb ▸ .past trivial (hd.ran .none))
  | acted id sink sink' act rest ending s s' h =>
    obtain ⟨requests, more, hr, hw⟩ := perform_works sink act ha hs
    rw [h] at hw
    exact ⟨more, hw.able, hw.asked,
      .running ending (hd.acted hr (hb ▸ hw.deedsOf) (perform_filePaths h))⟩
  | stumbled id sink act rest ending s s' problem h =>
    obtain ⟨requests, more, hr, hw⟩ := perform_works sink act ha hs
    rw [h] at hw
    have hran := (hd.acted hr (hb ▸ hw.deedsOf) (rfl : sink.filePaths = sink.filePaths)).ran .none
    refine ⟨more ++ [.release sink], hw.able.did _, ?_, .past trivial fun w => ?_⟩
    · show s'.processor.deeds ++ [_] = _
      rw [hw.asked, List.append_assoc]
    · rw [← List.append_assoc]
      exact hran w

theorem Move.proceeds_draining {outcome : Outcome}
    (h : Move again (.draining id sink outcome) s c' s') (hs : s.Able settings backend m)
    (hb : s.servingState = b) (hd : Begun settings backend m payload a id sink [] b deeds) :
    Proceeds settings backend m payload a deeds s c' s' := by
  cases h with
  | drained id sink outcome s v output h =>
    have hst : (s.withVolume v).servingState = b.on v := congrArg (ServingState.on · v) hb
    exact .asking hs rfl (hst ▸ .drainingError outcome output v hd)
  | unread id sink outcome s v problem h =>
    have hst : (s.withVolume v).servingState = b.on v := congrArg (ServingState.on · v) hb
    exact .asking hs (did_did _ _ _) (hst ▸ .past trivial (hd.ran .output))

theorem Move.proceeds (h : Move again c s c' s') (hs : s.Able settings backend m)
    (hb : s.servingState = b) (hd : Doing settings backend m payload a c b deeds)
    (ha : again.Works settings backend m) :
    Proceeds settings backend m payload a deeds s c' s' := by
  have hdoing := hd
  cases hd with
  | waiting => exact h.proceeds_entering hs hb hdoing (Nat.zero_le 3)
  | fetching => exact h.proceeds_entering hs hb hdoing (show 1 ≤ 3 by decide)
  | intake => exact h.proceeds_entering hs hb hdoing (show 2 ≤ 3 by decide)
  | opening => exact h.proceeds_entering hs hb hdoing (Nat.le_refl 3)
  | clearing | clearingError => exact h.proceeds_clearing hs hb hdoing
  | starting => exact h.proceeds_starting hs hb hdoing
  | running ending hbegun => exact h.proceeds_running hs hb hbegun ha
  | draining outcome hbegun => exact h.proceeds_draining hs hb hbegun
  | drainingError outcome output w hbegun =>
    cases h with
    | drainedError id sink outcome output s v content h =>
      have hran := hbegun.ran .both
      refine .asking hs (did_did _ _ _) (.past trivial fun w' => ?_)
      show DeedsOf settings backend m _ a _ (s.servingState.on w')
      rw [hb, List.append_assoc]
      exact hran w'
  | past hc hl => exact h.proceeds_past hs hb hc hl
  | gone hc hl => exact h.proceeds_over hs hb hc hl

theorem Doing.ended {result : Except Problem Result}
    (h : Doing settings backend m payload a (.finished result) b deeds) :
    DeedsOf settings backend m [.invoke payload] a deeds b := by
  cases h with
  | past _ hl => exact hl b.volume
  | gone _ hl => exact hl

theorem run_works (payload : Value) (ha : again.Works settings backend m)
    (hs : s.Able settings backend m) :
    ∃ deeds, Scene.Works settings backend m [.invoke payload] s deeds
      (run again (.admission payload) s).2 := by
  -- Since it asked for a number, the deeds of the processor are those of the invocation so far.
  have hrun := run_keeps again (c := .admission payload) (s := s)
    (Q := fun c s' => s'.Able settings backend m ∧ ∃ deeds,
      s'.processor.deeds = s.processor.deeds ++ deeds ∧
        Doing settings backend m payload s.servingState c s'.servingState deeds) ?_
    ⟨hs, [], (List.append_nil _).symm, .waiting _⟩
  · obtain ⟨result, s', hr, hable, deeds, hasked, hdoing⟩ := hrun
    rw [hr]
    exact ⟨deeds, hable, hasked, hdoing.ended⟩
  · intro c s' ⟨hable, deeds, hasked, hdoing⟩
    have hstep : ∀ t : Scene, t.processor = s'.processor → t.site.volume = s'.site.volume →
        ∀ c' t', Move again c t c' t' → t'.Able settings backend m ∧ ∃ deeds,
          t'.processor.deeds = s.processor.deeds ++ deeds ∧
            Doing settings backend m payload s.servingState c' t'.servingState deeds := by
      intro t ht hv c' t' hmove
      obtain ⟨more, hable', hasked', hdoing'⟩ := hmove.proceeds (hable.same ht)
        (servingState_same ht hv) hdoing ha
      exact ⟨hable', deeds ++ more, by rw [hasked', ht, hasked, List.append_assoc], hdoing'⟩
    rcases step_move again c s' with h | h
    · exact hstep s' rfl rfl _ _ h
    · exact hstep s'.tick s'.tick_same.1 s'.tick_same.2 _ _ h

end Call

namespace Scene

variable {s : Scene}

theorem invokeWithin_works (depth : Nat) :
    Call.Again.Works settings backend m fun payload s =>
      outputOnly (invokeWithin depth payload s) := by
  induction depth with
  | zero =>
    intro payload s hs
    exact ⟨[], [], nofun, .refl hs⟩
  | succ depth ih =>
    intro payload s hs
    obtain ⟨deeds, hw⟩ := Call.run_works payload ih hs
    exact ⟨[.invoke payload], deeds, fun r hr => List.mem_singleton.mp hr, hw⟩

theorem serve_works (hs : s.Able settings backend m) (request : Request) :
    ∃ deeds, Works settings backend m [request] s deeds (s.serve request) := by
  cases request with
  | invoke payload => exact Call.run_works payload (invokeWithin_works nestingLimit) hs
  | close => exact close_works hs
  | elsewhere volume elapsed =>
    exact ⟨[], hs.same rfl, (List.append_nil _).symm, .elsewhere volume elapsed (.rest _)⟩

theorem serveAll_works (hs : s.Able settings backend m) (requests : List Request) :
    ∃ deeds, Works settings backend m requests s deeds (s.serveAll requests) := by
  induction requests generalizing s with
  | nil => exact ⟨[], .refl hs⟩
  | cons request requests ih =>
    obtain ⟨deeds, hw⟩ := serve_works hs request
    obtain ⟨more, hmore⟩ := ih hw.able
    exact ⟨deeds ++ more, hw.trans hmore⟩

end Scene

/-- What a processor asks of its backend and its sinks, for all the requests that it is given one
after another, is one compilation and then the deeds of the requests. In particular there is one run
for each sink that is opened, under the number of its invocation, each of these sinks is released,
and after the processor is closed there is no run. -/
theorem deeds_protocol {wasm : Value} {directory : Option String} {settings : Settings}
    {logger : Logger} {backend : Settings → Backend} {site : Site} {p : Processor} {start s : Scene}
    (hp : (Processor.construct wasm directory settings logger backend site).outcome = .ok p)
    (requests more : List Request)
    (hstart : start =
      Scene.calm p (Processor.construct wasm directory settings logger backend site).site)
    (hs : s = start.serveAll requests) :
    ∃ content m deeds after, Processor.moduleBytes wasm = .ok content ∧
      p.backend.compile false content = .ok m ∧
      s.processor.deeds = .compile content :: deeds ∧
      (s.serveAll more).processor.deeds = s.processor.deeds ++ after ∧
      DeedsOf p.settings p.backend m requests ⟨0, p.capture, false, start.site.volume⟩ deeds
        s.servingState ∧
      DeedsOf p.settings p.backend m more s.servingState after (s.serveAll more).servingState ∧
      (∀ d ∈ deeds, d.isCompile = false) ∧
      (deeds.countP Deed.isRun = deeds.countP Deed.isOpenSink ∧
        deeds.countP Deed.isRelease = deeds.countP Deed.isOpenSink) ∧
      (∃ ids : List Nat, deeds.filterMap Deed.runId? = ids.map Value.ofNat ∧
        ids.Pairwise (· < ·) ∧ ∀ n ∈ ids, 0 < n ∧ n ≤ s.processor.accepted) ∧
      deeds.Pairwise fun d d' =>
        d.isCloseCapture = true → d'.isRun = false ∧ d'.isOpenSink = false := by
  obtain ⟨content, m, capture, hwasm, origin⟩ := Processor.construct_origin hp
  have hable : start.Able p.settings p.backend m := by
    rw [hstart]
    refine ⟨rfl, rfl, ?_, fun _ => ?_⟩ <;> rw [origin.made]
    · exact origin.usable
    · rfl
  obtain ⟨deeds, hw⟩ := Scene.serveAll_works hable requests
  rw [← hs] at hw
  obtain ⟨after, hmore⟩ := Scene.serveAll_works hw.able more
  have hfirst : start.processor.deeds = [.compile content] ∧
      start.servingState = ⟨0, p.capture, false, start.site.volume⟩ := by
    rw [hstart, origin.made]
    exact ⟨rfl, rfl⟩
  have hdeeds : DeedsOf p.settings p.backend m requests ⟨0, p.capture, false, start.site.volume⟩
      deeds s.servingState := hfirst.2 ▸ hw.deedsOf
  refine ⟨content, m, deeds, after, hwasm, by rw [origin.made]; exact origin.compiled, ?_,
    hmore.asked, hdeeds, hmore.deedsOf, hdeeds.compiles, hdeeds.balanced, hdeeds.numbers.2,
    hdeeds.last⟩
  rw [hw.asked, hfirst.1]
  rfl

namespace Sample

def requests : List Request := [.invoke (.text "hi"), .close, .invoke (.text "ho")]

end Sample

/-- The module is compiled, and the only run has a sink that is opened, drained twice and released.
-/
theorem deeds_protocol_sample :
    ∃ content m deeds, Processor.moduleBytes (.bytes .fixed [0]) = .ok content ∧
      DeedsOf Sample.lightSettings Sample.backend m Sample.requests
        ⟨0, .buffered, false, Sample.lightAttempt.site.volume⟩ deeds
        ⟨1, .buffered, true, Sample.lightAttempt.site.volume⟩ ∧
      deeds.countP Deed.isRun = 1 ∧ deeds.length = 7 := by
  obtain ⟨content, m, deeds, after, hwasm, -, hasked, -, hdeeds, -⟩ :=
    deeds_protocol Sample.light_made Sample.requests [] rfl rfl
  obtain ⟨-, rfl⟩ := List.cons.inj hasked.symm
  exact ⟨content, m, _, hwasm, hdeeds, rfl, rfl⟩

end GuestRunner
