import GuestRunner.Proofs.Call.Terms

/-!
# The course of an invocation

An invocation whose sink meets the sink invariant takes its course: nothing but the guest decides
what it has in hand. The course says for each place where an invocation can stand what its sink
holds of what the guest has written. Every step keeps to it, whatever was lost in between.
-/

set_option autoImplicit false

namespace GuestRunner.Call

open Files Files.Volume Run

/-- Where an invocation stands, and what it has in hand there. -/
inductive Course (t : Terms) (trail : Trail) (lost : Stream → Bytes) : Call → Volume → Prop
  | admission (v : Volume) (hi : trail.id = none) (hl : ∀ stream, lost stream = []) :
    Course t trail lost (.admission t.payload) v
  | fetching (id : Nat) (v : Volume) (hi : trail.id = some id) (hl : ∀ stream, lost stream = []) :
    Course t trail lost (.fetching id t.payload) v
  | intake (id : Nat) (module : Option CompiledModule) (v : Volume) (hi : trail.id = some id)
    (hl : ∀ stream, lost stream = []) : Course t trail lost (.intake id module t.payload) v
  | opening (job : Job) (v : Volume) (hi : trail.id = some job.id)
    (hl : ∀ stream, lost stream = []) : Course t trail lost (.opening job) v
  | clearingOut (job : Job) (sink : Sink) (v : Volume) (hi : trail.id = some job.id)
    (hl : ∀ stream, lost stream = []) (hm : t.holds sink v) (hf : sink.Fresh) :
    Course t trail lost (.clearing job sink .stdout) v
  | clearingErr (job : Job) (sink : Sink) (v : Volume) (hi : trail.id = some job.id)
    (hl : ∀ stream, lost stream = []) (hm : t.holds sink v) (hf : sink.Fresh)
    (ho : sink.held .stdout v = []) : Course t trail lost (.clearing job sink .stderr) v
  | starting (job : Job) (sink : Sink) (v : Volume) (hi : trail.id = some job.id)
    (hl : ∀ stream, lost stream = []) (hm : t.holds sink v)
    (hk : ∀ stream, sink.held stream v = []) : Course t trail lost (.starting job sink) v
  | running (id : Nat) (sink : Sink) (done acts : List Act) (ending : Except Problem Outcome)
    (v : Volume) (hi : trail.id = some id) (hr : trail.run = some ⟨done ++ acts, ending⟩)
    (hm : t.holds sink v) (ha : Appends done acts)
    (hk : ∀ stream, Accounts (done ++ acts) (lost stream) stream done (sink.held stream v)) :
    Course t trail lost (.running id sink acts ending) v
  | draining (id : Nat) (sink : Sink) (acts : List Act) (outcome : Outcome) (v : Volume)
    (hi : trail.id = some id) (hr : trail.run = some ⟨acts, .ok outcome⟩) (hm : t.holds sink v)
    (hk : ∀ stream, Accounts acts (lost stream) stream acts (sink.held stream v)) :
    Course t trail lost (.draining id sink outcome) v
  | drainingError (id : Nat) (sink : Sink) (acts : List Act) (outcome : Outcome) (output : Bytes)
    (v : Volume) (hi : trail.id = some id) (hr : trail.run = some ⟨acts, .ok outcome⟩)
    (hm : t.holds sink v) (ho : Accounts acts (lost .stdout) .stdout acts output)
    (hk : Accounts acts (lost .stderr) .stderr acts (sink.held .stderr v)) :
    Course t trail lost (.drainingError id sink outcome output) v
  | releasing (id : Nat) (sink : Sink) (stream : Stream) (run : Run)
    (pending : Except Problem Drained) (v : Volume) (hi : trail.id = some id)
    (hr : trail.run = some run) (hm : t.holds sink v) (hp : AfterGuest t run lost pending) :
    Course t trail lost (.releasing id sink stream pending) v
  | barred (id : Nat) (problem : Problem) (v : Volume) (hi : trail.id = some id)
    (h : t.FileFault problem) : Course t trail lost (.settling id (.error problem)) v
  | settling (id : Nat) (run : Run) (pending : Except Problem Drained) (v : Volume)
    (hi : trail.id = some id) (hr : trail.run = some run) (hp : AfterGuest t run lost pending) :
    Course t trail lost (.settling id pending) v
  | finished (result : Except Problem Result) (v : Volume) (h : Answer t trail lost result) :
    Course t trail lost (.finished result) v

structure StepEffect (here : Place → Prop) (c : Call) (s : Scene) (c' : Call) (s' : Scene) :
    Prop where
  touches : TouchesOnly here c.asks s.site.volume s'.site.volume
  settings : s'.processor.settings = s.processor.settings
  backend : s'.processor.backend = s.processor.backend
  logger : s'.processor.logger = s.processor.logger
  module : s'.processor.module = s.processor.module
  closed : s'.processor.closed = s.processor.closed
  elapsed : s'.site.elapsed = s.site.elapsed
  alarm : s'.alarm = s.alarm
  accepted : s'.processor.accepted =
    match c with
    | .admission _ =>
      if s.processor.closed then s.processor.accepted else s.processor.accepted + 1
    | _ => s.processor.accepted
  capture : s'.processor.capture =
    match c with
    | .opening job => (s.processor.capture.nextSink (Value.ofNat job.id)).2
    | _ => s.processor.capture

variable {here : Place → Prop} {t : Terms} {trail : Trail} {lost : Stream → Bytes}
  {again : Again} {c c' : Call} {s s' : Scene}

theorem judge_satisfied (h : t.Satisfied s) (id : Nat) (pending : Except Problem Drained) :
    judge s.processor s.site.elapsed id pending = judge t.processor t.elapsed id pending := by
  simp only [judge, resultOf, h.settings, h.backend, h.elapsed]

theorem Course.retarget {t' : Terms} {job : Job} {v : Volume}
    (h : Course t trail lost (.opening job) v) : Course t' trail lost (.opening job) v := by
  cases h with
  | opening job v hi hl => exact .opening job v hi hl

/-- A step that works on the files and writes down what it did changes nothing else. -/
theorem StepEffect.work (hv : TouchesOnly here c.asks s.site.volume s'.site.volume)
    (hp : s'.processor = { s.processor with deeds := s'.processor.deeds })
    (he : s'.site.elapsed = s.site.elapsed) (ha : s'.alarm = s.alarm)
    (hfirst : ∀ payload, c ≠ .admission payload) (hopen : ∀ job, c ≠ .opening job) :
    StepEffect here c s c' s' := by
  have hs : s'.processor.settings = s.processor.settings := by rw [hp]
  have hb : s'.processor.backend = s.processor.backend := by rw [hp]
  have hl : s'.processor.logger = s.processor.logger := by rw [hp]
  have hm : s'.processor.module = s.processor.module := by rw [hp]
  have hc : s'.processor.closed = s.processor.closed := by rw [hp]
  have hn : s'.processor.accepted = s.processor.accepted := by rw [hp]
  have hk : s'.processor.capture = s.processor.capture := by rw [hp]
  cases c with
  | admission payload => exact absurd rfl (hfirst payload)
  | opening job => exact absurd rfl (hopen job)
  | _ => exact ⟨hv, hs, hb, hl, hm, hc, he, ha, hn, hk⟩

theorem Terms.Meets.callFaultless_or_fileFaults {sink : Sink} {v : Volume} {call : Files.Call}
    (hs : t.Meets c v) (hv : Sink.Invariant t.files here t.excused t.holds) (hm : t.holds sink v)
    (hc : call ∈ c.asks) :
    sink.CallFaultless v call ∨
      sink.filePaths ≠ none ∧ ∃ e, v.Fails call e ∧ t.fileFaults e ∧ e.isMissing = false := by
  rcases sink.callFaultless_or_fails v call with h | ⟨hp, e, he⟩
  · exact Or.inl h
  · exact Or.inr ⟨hp, e, he, hs (hv.usesFiles hm hp) call hc e he⟩

/-- From its admission until it opens its sink, an invocation has nothing in hand. -/
theorem Move.course_entering (h : Move again c s c' s') (hc : c.stage ≤ 2)
    (ht : Course t trail lost c s.site.volume) (hu : t.Satisfied s) :
    Course t (trail.next c s) lost c' s'.site.volume ∧ StepEffect here c s c' s' := by
  have still := TouchesOnly.refl here s.site.volume
  cases ht with
  | admission v hi hl =>
    cases h with
    | refused payload s h =>
      have hn : trail.next (.admission t.payload) s = trail := by simp [Trail.next, h]
      rw [hn]
      exact ⟨.finished _ _ (.refused (hu.closed h) hi),
        still, rfl, rfl, rfl, rfl, rfl, rfl, rfl, by simp [h], rfl⟩
    | admitted payload s h =>
      exact ⟨.fetching _ _ (by simp [Trail.next, h]) hl,
        still, rfl, rfl, rfl, rfl, rfl, rfl, rfl, by simp [h, Scene.admitting], rfl⟩
  | fetching id v hi hl =>
    cases h with
    | fetched id payload s =>
      exact ⟨.intake id _ _ hi hl, .work still rfl rfl rfl (by simp) (by simp)⟩
  | intake id module v hi hl =>
    cases h with
    | unreadable id module payload s refusal h =>
      exact ⟨.finished _ _ (.unreadable id refusal hi h),
        .work still rfl rfl rfl (by simp) (by simp)⟩
    | announced id module payload s s' content h he =>
      rw [Scene.emit_plain hu.logger (startEvent_plain _ _ _)] at he
      cases he
      exact ⟨.opening ⟨id, module, content⟩ _ hi hl, .work still rfl rfl rfl (by simp) (by simp)⟩
    | unannounced id module payload s s' content problem h he =>
      rw [Scene.emit_plain hu.logger (startEvent_plain _ _ _)] at he
      cases he
  | _ => exact absurd hc (by simp [Call.stage, stepsBeforeRun])

/-- The sink that an invocation opens is fresh. -/
theorem Move.course_opening {job : Job} (h : Move again (.opening job) s c' s')
    (ht : Course t trail lost (.opening job) s.site.volume)
    (ho : t.holds (s.processor.capture.nextSink (Value.ofNat job.id)).1 s.site.volume) :
    Course t (trail.next (.opening job) s) lost c' s'.site.volume ∧
      StepEffect here (.opening job) s c' s' := by
  cases ht with
  | opening job v hi hl =>
    have hf : (s.processor.capture.nextSink (Value.ofNat job.id)).1.Fresh := by
      cases s.processor.capture with
      | buffered => exact ⟨rfl, rfl⟩
      | files scratch opened => trivial
    have hi' : (trail.next (.opening job) s).id = some job.id := by
      simp only [Trail.next]
      split <;> exact hi
    cases h with
    | opened job s =>
      exact ⟨.clearingOut job _ _ hi' hl ho hf,
        TouchesOnly.refl here s.site.volume, rfl, rfl, rfl, rfl, rfl, rfl, rfl, rfl, rfl⟩

theorem Terms.Meets.clear {sink : Sink} {v : Volume} (hs : t.Meets c v)
    (hv : Sink.Invariant t.files here t.excused t.holds) (hm : t.holds sink v) (hf : sink.Fresh)
    (hc : .truncate ∈ c.asks) (stream : Stream) :
    (∃ v', sink.clear stream v = (.ok (), v') ∧ TouchesOnly here [.truncate] v v' ∧
      t.holds sink v' ∧
      sink.held stream v' = [] ∧
      ∀ other, other ≠ stream → sink.held other v' = sink.held other v) ∨
    ∃ problem v', sink.clear stream v = (.error problem, v') ∧ TouchesOnly here [.truncate] v v' ∧
      t.FileFault problem := by
  rcases hs.callFaultless_or_fileFaults hv hm hc with hsp | ⟨hp, e, hfail, hsl, hmi⟩
  · exact Or.inl (hv.clear stream hm hf hsp)
  · obtain ⟨name, he⟩ := Sink.clear_fails hp stream hfail hmi
    exact Or.inr ⟨_, _, he, after_touches here v .truncate, .uncleared name e hsl⟩

/-- Once both streams are cleared, the sink holds nothing. -/
theorem Move.course_clearing {job : Job} {sink : Sink} {stream : Stream}
    (h : Move again (.clearing job sink stream) s c' s')
    (hv : Sink.Invariant t.files here t.excused t.holds)
    (ht : Course t trail lost (.clearing job sink stream) s.site.volume)
    (hs : t.Meets (.clearing job sink stream) s.site.volume) :
    Course t trail lost c' s'.site.volume ∧
      StepEffect here (.clearing job sink stream) s c' s' := by
  obtain ⟨hi, hl, hm, hf, hout⟩ : trail.id = some job.id ∧ (∀ stream, lost stream = []) ∧
      t.holds sink s.site.volume ∧ sink.Fresh ∧
      (stream = .stderr → sink.held .stdout s.site.volume = []) := by
    cases ht with
    | clearingOut job sink v hi hl hm hf => exact ⟨hi, hl, hm, hf, fun h => by cases h⟩
    | clearingErr job sink v hi hl hm hf ho => exact ⟨hi, hl, hm, hf, fun _ => ho⟩
  rcases hs.clear hv hm hf (by simp [asks]) stream with
    ⟨v', hd, htu, hm', hh, hk⟩ | ⟨problem, v', hd, htu, hsl⟩
  · cases h with
    | blocked job sink stream s v problem h => cases hd.symm.trans h
    | clearedOut job sink s v h =>
      cases hd.symm.trans h
      exact ⟨.clearingErr job sink _ hi hl hm' hf hh, .work htu rfl rfl rfl (by simp) (by simp)⟩
    | clearedErr job sink s v h =>
      cases hd.symm.trans h
      refine ⟨.starting job sink _ hi hl hm' ?_, .work htu rfl rfl rfl (by simp) (by simp)⟩
      intro stream
      cases stream with
      | stdout => exact (hk .stdout (by decide)).trans (hout rfl)
      | stderr => exact hh
  · cases h with
    | blocked job sink stream s v problem h =>
      cases hd.symm.trans h
      exact ⟨.barred job.id _ _ hi hsl, .work htu rfl rfl rfl (by simp) (by simp)⟩
    | clearedOut job sink s v h => cases hd.symm.trans h
    | clearedErr job sink s v h => cases hd.symm.trans h

/-- The guest starts with nothing written yet. -/
theorem Move.course_starting {job : Job} {sink : Sink}
    (h : Move again (.starting job sink) s c' s')
    (ht : Course t trail lost (.starting job sink) s.site.volume)
    (hr : Appends [] (runOf s job sink).acts) :
    Course t (trail.next (.starting job sink) s) lost c' s'.site.volume ∧
      StepEffect here (.starting job sink) s c' s' := by
  cases ht with
  | starting job sink v hi hl hm hk =>
    cases h with
    | started job sink s =>
      refine ⟨.running job.id sink [] _ _ _ hi rfl hm hr ?_,
        .work (TouchesOnly.refl here s.site.volume) rfl rfl rfl (by simp) (by simp)⟩
      intro stream
      rw [hl stream, show sink.held stream (s.did _).site.volume = [] from hk stream]
      exact accounts_nil _ stream

/-- While the guest runs, the sink accounts for what it has done so far. -/
theorem Move.course_running {id : Nat} {sink : Sink} {acts : List Act}
    {ending : Except Problem Outcome} (h : Move again (.running id sink acts ending) s c' s')
    (hv : Sink.Invariant t.files here t.excused t.holds)
    (ht : Course t trail lost (.running id sink acts ending) s.site.volume) :
    Course t trail lost c' s'.site.volume ∧
      StepEffect here (.running id sink acts ending) s c' s' := by
  have still := TouchesOnly.refl here s.site.volume
  cases ht with
  | running id sink done acts ending v hi hr hm ha hk =>
    cases h with
    | completed id sink outcome s =>
      rw [List.append_nil] at hr hk
      exact ⟨.draining id sink done outcome _ hi hr hm hk,
        .work still rfl rfl rfl (by simp) (by simp)⟩
    | broken id sink problem s =>
      exact ⟨.releasing id sink .stdout _ _ _ hi hr hm (.broken problem rfl),
        .work still rfl rfl rfl (by simp) (by simp)⟩
    | acted id sink sink' act rest ending s s' h =>
      have hmem : act ∈ done ++ act :: rest := by simp
      rcases hv.guestWrite again hm ha.1 hmem hk with ⟨sink', v', hp, htu, hm', hk'⟩ | ⟨e, he, hp⟩
      · cases hp.symm.trans h
        have hj : done ++ act :: rest = (done ++ [act]) ++ rest := by simp
        rw [hj] at hr hk'
        exact ⟨.running id sink' (done ++ [act]) rest ending _ hi hr hm' ha.2 hk',
          .work htu rfl rfl rfl (by simp) (by simp)⟩
      · cases hp.symm.trans h
    | stumbled id sink act rest ending s s' problem h =>
      have hmem : act ∈ done ++ act :: rest := by simp
      rcases hv.guestWrite again hm ha.1 hmem hk with ⟨sink', v', hp, -⟩ | ⟨e, he, hp⟩
      · cases hp.symm.trans h
      · cases hp.symm.trans h
        exact ⟨.releasing id sink .stdout _ _ _ hi hr hm (.stumbled e he),
          .work still rfl rfl rfl (by simp) (by simp)⟩

theorem Terms.Meets.drain {sink : Sink} {v : Volume} (hs : t.Meets c v)
    (hv : Sink.Invariant t.files here t.excused t.holds) (hm : t.holds sink v) (hc : .open ∈ c.asks)
    (stream : Stream) :
    ∃ v', TouchesOnly here [.open] v v' ∧ t.holds sink v' ∧
      (sink.drain stream v = (.ok (sink.held stream v), v') ∧
          (∀ other, sink.held other v' = sink.held other v) ∨
        ∃ problem, sink.drain stream v = (.error problem, v') ∧ t.FileFault problem) := by
  rcases hs.callFaultless_or_fileFaults hv hm hc with hsp | ⟨hp, e, hfail, hsl, hmi⟩
  · obtain ⟨v', hd, htu, hm', hh⟩ := hv.drain stream hm hsp
    exact ⟨v', htu, hm', Or.inl ⟨hd, hh⟩⟩
  · obtain ⟨name, he⟩ := Sink.drain_fails hp stream hfail hmi
    exact ⟨_, after_touches here v .open, hv.after .open hm, Or.inr ⟨_, he, .unread name e hsl⟩⟩

theorem Move.course_draining {id : Nat} {sink : Sink} {outcome : Outcome}
    (h : Move again (.draining id sink outcome) s c' s')
    (hv : Sink.Invariant t.files here t.excused t.holds)
    (ht : Course t trail lost (.draining id sink outcome) s.site.volume)
    (hs : t.Meets (.draining id sink outcome) s.site.volume) :
    Course t trail lost c' s'.site.volume ∧
      StepEffect here (.draining id sink outcome) s c' s' := by
  cases ht with
  | draining id sink acts outcome v hi hr hm hk =>
    obtain ⟨v', htu, hm', ⟨hd, hh⟩ | ⟨problem, hd, hsl⟩⟩ :=
      hs.drain hv hm (by simp [asks]) .stdout
    · cases h with
      | drained id sink outcome s v output h =>
        cases hd.symm.trans h
        refine ⟨.drainingError id sink acts outcome _ _ hi hr hm' (hk .stdout) ?_,
          .work htu rfl rfl rfl (by simp) (by simp)⟩
        rw [show sink.held .stderr ((s.withVolume v').did _).site.volume = _ from hh .stderr]
        exact hk .stderr
      | unread id sink outcome s v problem h => cases hd.symm.trans h
    · cases h with
      | drained id sink outcome s v output h => cases hd.symm.trans h
      | unread id sink outcome s v problem h =>
        cases hd.symm.trans h
        exact ⟨.releasing id sink .stdout _ _ _ hi hr hm' (.slipped _ hsl),
          .work htu rfl rfl rfl (by simp) (by simp)⟩

theorem Move.course_drainingError {id : Nat} {sink : Sink} {outcome : Outcome} {output : Bytes}
    (h : Move again (.drainingError id sink outcome output) s c' s')
    (hv : Sink.Invariant t.files here t.excused t.holds)
    (ht : Course t trail lost (.drainingError id sink outcome output) s.site.volume)
    (hs : t.Meets (.drainingError id sink outcome output) s.site.volume) :
    Course t trail lost c' s'.site.volume ∧
      StepEffect here (.drainingError id sink outcome output) s c' s' := by
  cases ht with
  | drainingError id sink acts outcome output v hi hr hm ho hk =>
    cases h with
    | drainedError id sink outcome output s v content h =>
      obtain ⟨v', htu, hm', ⟨hd, -⟩ | ⟨problem, hd, hsl⟩⟩ :=
        hs.drain hv hm (by simp [asks]) .stderr
      · cases hd.symm.trans h
        exact ⟨.releasing id sink .stdout _ _ _ hi hr hm' (.drained outcome output _ rfl ho hk),
          .work htu rfl rfl rfl (by simp) (by simp)⟩
      · cases hd.symm.trans h
        exact ⟨.releasing id sink .stdout _ _ _ hi hr hm' (.slipped _ hsl),
          .work htu rfl rfl rfl (by simp) (by simp)⟩

theorem Terms.Meets.discard {sink : Sink} {v : Volume} (hs : t.Meets c v)
    (hv : Sink.Invariant t.files here t.excused t.holds) (hm : t.holds sink v)
    (hc : .unlink ∈ c.asks) (stream : Stream) :
    (∃ sink' v', sink.discard stream v = (.ok (), sink', v') ∧ TouchesOnly here [.unlink] v v' ∧
      t.holds sink' v') ∨
    ∃ e sink' v', sink.discard stream v = (.error e, sink', v') ∧ TouchesOnly here [.unlink] v v' ∧
      t.FileFault (.os e) := by
  rcases hs.callFaultless_or_fileFaults hv hm hc with hsp | ⟨hp, e, hfail, hsl, hmi⟩
  · exact Or.inl (hv.discard stream hm hsp)
  · exact Or.inr ⟨e, sink, _, Sink.discard_fails hp stream hfail hmi,
      after_touches here v .unlink, .unremoved e hsl⟩

/-- What is in hand stays there while the sink is released, unless that fails. -/
theorem Move.course_releasing {id : Nat} {sink : Sink} {stream : Stream}
    {pending : Except Problem Drained} (h : Move again (.releasing id sink stream pending) s c' s')
    (hv : Sink.Invariant t.files here t.excused t.holds)
    (ht : Course t trail lost (.releasing id sink stream pending) s.site.volume)
    (hs : t.Meets (.releasing id sink stream pending) s.site.volume) :
    Course t trail lost c' s'.site.volume ∧
      StepEffect here (.releasing id sink stream pending) s c' s' := by
  cases ht with
  | releasing id sink stream run pending v hi hr hm hp =>
    rcases hs.discard hv hm (by simp [asks]) stream with
      ⟨sink', v', hd, htu, hm'⟩ | ⟨e, sink', v', hd, htu, hsl⟩
    · cases h with
      | stuck id sink sink' stream pending s v e h => cases hd.symm.trans h
      | releasedOut id sink sink' pending s v h =>
        cases hd.symm.trans h
        exact ⟨.releasing id _ .stderr run pending _ hi hr hm' hp,
          .work htu rfl rfl rfl (by simp) (by simp)⟩
      | releasedErr id sink sink' pending s v h =>
        cases hd.symm.trans h
        exact ⟨.settling id run pending _ hi hr hp, .work htu rfl rfl rfl (by simp) (by simp)⟩
    · cases h with
      | stuck id sink sink' stream pending s v e h =>
        cases hd.symm.trans h
        exact ⟨.settling id run _ _ hi hr (.slipped _ hsl),
          .work htu rfl rfl rfl (by simp) (by simp)⟩
      | releasedOut id sink sink' pending s v h => cases hd.symm.trans h
      | releasedErr id sink sink' pending s v h => cases hd.symm.trans h

theorem Move.course_settling {id : Nat} {pending : Except Problem Drained}
    (h : Move again (.settling id pending) s c' s')
    (ht : Course t trail lost (.settling id pending) s.site.volume) (hu : t.Satisfied s) :
    Course t trail lost c' s'.site.volume ∧ StepEffect here (.settling id pending) s c' s' := by
  have still := TouchesOnly.refl here s.site.volume
  cases h with
  | settled id pending s s' result h =>
    rw [settle_usable hu.logger] at h
    cases h
    refine ⟨?_, .work still rfl rfl rfl (by simp) (by simp)⟩
    cases ht with
    | barred id problem v hi hp => exact .finished _ _ (.barred id problem hi hp)
    | settling id run pending v hi hr hp =>
      rw [judge_satisfied hu]
      exact .finished _ _ (.judged id run pending hi hr hp)

/-- A step keeps to the course of an invocation. -/
theorem Move.course (h : Move again c s c' s') (hv : Sink.Invariant t.files here t.excused t.holds)
    (ht : Course t trail lost c s.site.volume) (hu : t.Satisfied s)
    (hs : t.Meets c s.site.volume)
    (ho : ∀ job, c = .opening job →
      t.holds (s.processor.capture.nextSink (Value.ofNat job.id)).1 s.site.volume)
    (hr : ∀ job sink, c = .starting job sink → Appends [] (runOf s job sink).acts) :
    Course t (trail.next c s) lost c' s'.site.volume ∧ StepEffect here c s c' s' := by
  cases c with
  | admission payload => exact h.course_entering (Nat.zero_le 2) ht hu
  | fetching id payload => exact h.course_entering (Nat.le_succ 1) ht hu
  | intake id module payload => exact h.course_entering (Nat.le_refl 2) ht hu
  | opening job => exact h.course_opening ht (ho job rfl)
  | clearing job sink stream => exact h.course_clearing hv ht hs
  | starting job sink => exact h.course_starting ht (hr job sink rfl)
  | running id sink acts ending => exact h.course_running hv ht
  | draining id sink outcome => exact h.course_draining hv ht hs
  | drainingError id sink outcome output => exact h.course_drainingError hv ht hs
  | releasing id sink stream pending => exact h.course_releasing hv ht hs
  | settling id pending => exact h.course_settling ht hu
  | finished result =>
    cases h with
    | rested result s =>
      cases ht with
      | finished result v h =>
        exact ⟨.finished result _ h,
          .work (TouchesOnly.refl here s.site.volume) rfl rfl rfl (by simp) (by simp)⟩

/-- An invocation takes a number where it is admitted, and nowhere else. -/
theorem StepEffect.id (h : StepEffect here c s c' s') (trail : Trail) :
    ((trail.next c s).id = trail.id ∧ s'.processor.accepted = s.processor.accepted) ∨
      (∃ payload, c = .admission payload) ∧
        (trail.next c s).id = some (s.processor.accepted + 1) ∧
        s'.processor.accepted = s.processor.accepted + 1 := by
  have ha := h.accepted
  cases c with
  | admission payload =>
    cases hc : s.processor.closed with
    | true => exact Or.inl ⟨by simp [Trail.next, hc], by simpa [hc] using ha⟩
    | false =>
      exact Or.inr ⟨⟨payload, rfl⟩, by simp [Trail.next, hc], by simpa [hc] using ha⟩
  | opening job =>
    refine Or.inl ⟨?_, ha⟩
    simp only [Trail.next]
    split <;> rfl
  | _ => exact Or.inl ⟨rfl, ha⟩

theorem StepEffect.capture_same (h : StepEffect here c s c' s') (hc : c.stage ≠ 3) :
    s'.processor.capture = s.processor.capture := by
  have he := h.capture
  cases c with
  | opening job => exact absurd rfl hc
  | _ => exact he

/-- It takes a slot where it opens a sink of files, and nowhere else. -/
theorem StepEffect.slot (h : StepEffect here c s c' s') (trail : Trail) :
    ((trail.next c s).slot = trail.slot ∧
        s'.processor.capture.opened = s.processor.capture.opened) ∨
      (∃ job, c = .opening job) ∧
        (trail.next c s).slot = some s.processor.capture.opened ∧
        s'.processor.capture.opened = s.processor.capture.opened + 1 := by
  have hc := h.capture
  cases c with
  | opening job =>
    simp only [Trail.next]
    cases hk : s.processor.capture with
    | buffered => exact Or.inl ⟨rfl, by rw [hc, hk]; rfl⟩
    | files scratch opened => exact Or.inr ⟨⟨job, rfl⟩, rfl, by rw [hc, hk]; rfl⟩
  | admission payload =>
    refine Or.inl ⟨?_, by rw [hc]⟩
    simp only [Trail.next]
    split <;> rfl
  | _ => exact Or.inl ⟨rfl, by rw [hc]⟩

end GuestRunner.Call
