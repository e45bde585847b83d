import GuestRunner.Proofs.Call.Underway
import GuestRunner.Proofs.Capture.FileErrors
import GuestRunner.Proofs.Scratch.Slots

/-!
# What goes wrong in an invocation

The calls of an invocation to its stream files may fail in any way. What failed is written down step
by step, and with it what the guest itself reports. The last of these incidents decides what the
invocation has in hand in the end.
-/

set_option autoImplicit false

namespace GuestRunner

open Files Files.Volume

def Act.Alone : Act → Prop
  | .write .. | .writeAt .. | .removeStreams | .blockStream _ => True
  | _ => False

def Outcome.Typed (outcome : Outcome) : Prop :=
  ∃ fuel : Option Int, outcome.fuelConsumed = Value.ofOption .int fuel

structure Run.KeepsToItself (run : Run) : Prop where
  alone : ∀ act ∈ run.acts, act.Alone
  typed : ∀ outcome, run.ending = .ok outcome → outcome.Typed

theorem Capture.nextSink_clean {c : Capture}
    (hc : ∀ scratch, c.scratch? = some scratch → scratch.WellFormed ∧ scratch.path.Clean)
    (id : Nat) :
    (c.nextSink (Value.ofNat id)).1.Clean := by
  cases c with
  | buffered => trivial
  | files scratch slot =>
    obtain ⟨hm, hp⟩ := hc scratch rfl
    intro stream
    show (Sink.pathOf (scratch.streamPath (runLabel (.int id) slot) .stdout)
      (scratch.streamPath (runLabel (.int id) slot) .stderr) stream).Clean
    rw [Scratch.pathOf_slot hm.token]
    exact hp.child (Scratch.streamName_unreserved hm.token (Or.inr rfl)
      (runLabel_unreserved _ _ (Or.inr rfl)))

namespace Call

/-- Something that has gone wrong. -/
inductive Incident
  | files (call : Files.Call) (e : OsError)
  | guest (problem : Problem)

def incident (again : Again) : Call → Scene → Option Incident
  | .clearing _ sink stream, s =>
    (sink.fileError stream s.site.volume.truncate).map (.files .truncate)
  | .running _ _ [] (.error problem), _ => some (.guest problem)
  | .running _ sink (act :: _) _, s =>
    match (perform again sink act s).1 with
    | .error problem => some (.guest problem)
    | .ok _ => none
  | .draining _ sink _, s => (sink.fileError .stdout s.site.volume.readStream).map (.files .open)
  | .drainingError _ sink _ _, s =>
    (sink.fileError .stderr s.site.volume.readStream).map (.files .open)
  | .releasing _ sink stream _, s =>
    (sink.fileError stream s.site.volume.unlink).map (.files .unlink)
  | _, _ => none

def incidents (again : Again) : Nat → Call × Scene → List Incident
  | 0, _ => []
  | n + 1, state =>
    incidents again n state ++
      ((steps again n state).1.incident again (steps again n state).2).toList

inductive Incident.ReportedAs : Incident → Problem → Prop
  | uncleared (name : String) (e : OsError) :
    ReportedAs (.files .truncate e) (.failure (.scratch (.truncate name e)))
  | unread (name : String) (e : OsError) :
    ReportedAs (.files .open e) (.failure (.scratch (.read name e)))
  | unremoved (e : OsError) : ReportedAs (.files .unlink e) (.os e)
  | guest (problem : Problem) : ReportedAs (.guest problem) problem

/-- What an invocation has in hand after some incidents. A file that cannot be removed comes last,
and counts whatever was before. -/
inductive InHand : List Incident → Except Problem Drained → Prop
  | drained (d : Drained) (h : d.outcome.Typed) : InHand [] (.ok d)
  | once (x : Incident) (problem : Problem) (h : x.ReportedAs problem) : InHand [x] (.error problem)
  | late (before : List Incident) (e : OsError) (h : ∀ e, .files .unlink e ∉ before) :
    InHand (before ++ [.files .unlink e]) (.error (.os e))

inductive Standing (s : Scene) (payload : Value) (content : Bytes) :
    Call → Scene → List Incident → List Event → Prop
  | admission : Standing s payload content (.admission payload) s [] []
  | fetching (s' : Scene) (hc : s'.processor.capture = s.processor.capture) :
    Standing s payload content (.fetching s.nextId payload) s' [] []
  | intake (module : Option CompiledModule) (s' : Scene)
    (hc : s'.processor.capture = s.processor.capture) :
    Standing s payload content (.intake s.nextId module payload) s' [] []
  | opening (module : Option CompiledModule) (s' : Scene)
    (hc : s'.processor.capture = s.processor.capture) :
    Standing s payload content (.opening ⟨s.nextId, module, content⟩) s' []
      [startEvent s.processor s.nextId content]
  | clearing (job : Job) (sink : Sink) (stream : Stream) (s' : Scene) (hj : job.id = s.nextId)
    (hc : sink.Clean) :
    Standing s payload content (.clearing job sink stream) s' []
      [startEvent s.processor s.nextId content]
  | starting (job : Job) (sink : Sink) (s' : Scene) (hj : job.id = s.nextId) (hc : sink.Clean) :
    Standing s payload content (.starting job sink) s' []
      [startEvent s.processor s.nextId content]
  | running (sink : Sink) (acts : List Act) (ending : Except Problem Outcome) (s' : Scene)
    (hc : sink.Clean) (hr : Run.KeepsToItself ⟨acts, ending⟩) :
    Standing s payload content (.running s.nextId sink acts ending) s' []
      [startEvent s.processor s.nextId content]
  | draining (sink : Sink) (outcome : Outcome) (s' : Scene) (hc : sink.Clean)
    (ht : outcome.Typed) :
    Standing s payload content (.draining s.nextId sink outcome) s' []
      [startEvent s.processor s.nextId content]
  | drainingError (sink : Sink) (outcome : Outcome) (output : Bytes) (s' : Scene)
    (hc : sink.Clean) (ht : outcome.Typed) :
    Standing s payload content (.drainingError s.nextId sink outcome output) s' []
      [startEvent s.processor s.nextId content]
  | releasing (sink : Sink) (stream : Stream) (pending : Except Problem Drained) (s' : Scene)
    (hs : List Incident) (hc : sink.Clean) (hn : ∀ e, .files .unlink e ∉ hs)
    (hp : InHand hs pending) :
    Standing s payload content (.releasing s.nextId sink stream pending) s' hs
      [startEvent s.processor s.nextId content]
  | settling (pending : Except Problem Drained) (s' : Scene) (hs : List Incident)
    (hp : InHand hs pending) :
    Standing s payload content (.settling s.nextId pending) s' hs
      [startEvent s.processor s.nextId content]
  | finished (pending : Except Problem Drained) (s' : Scene) (hs : List Incident)
    (hp : InHand hs pending) :
    Standing s payload content
      (.finished (judge s.processor s.site.elapsed s.nextId pending)) s' hs
      (startEvent s.processor s.nextId content ::
        endReport s.site.elapsed s.nextId (judge s.processor s.site.elapsed s.nextId pending))

theorem afterWriting_clean {s s' : Scene} {r : Except OsError Unit × Sink × Volume}
    {done : Except Problem Sink} (hc : r.2.1.Clean) (h : afterWriting s r = (done, s')) :
    (∃ v, s' = s.withVolume v) ∧ ∀ sink, done = .ok sink → sink.Clean := by
  obtain ⟨result, sink', v⟩ := r
  cases h
  refine ⟨⟨v, rfl⟩, fun sink hs => ?_⟩
  cases result with
  | error e => cases hs
  | ok _ =>
    cases hs
    exact hc

/-- An act that keeps to itself works on files and leaves the paths of the sink as they are. -/
theorem perform_alone {again : Again} {sink : Sink} (act : Act) {s s' : Scene}
    {done : Except Problem Sink} (ha : act.Alone) (hc : sink.Clean)
    (h : perform again sink act s = (done, s')) :
    (∃ v, s' = s.withVolume v) ∧ ∀ sink, done = .ok sink → sink.Clean := by
  cases act with
  | write stream chunk => exact afterWriting_clean (Sink.write_clean hc rfl) h
  | writeAt stream position chunk => exact afterWriting_clean (Sink.writeAt_clean hc rfl) h
  | removeStreams =>
    refine afterWriting_clean (r := ((removeStreams sink s.site.volume).1, sink,
      (removeStreams sink s.site.volume).2)) hc h
  | blockStream stream =>
    refine afterWriting_clean (r := ((blockStream sink stream s.site.volume).1, sink,
      (blockStream sink stream s.site.volume).2)) hc h
  | _ => exact ha.elim

end Call

def Scene.Since (s : Scene) (events : List Event) (s' : Scene) : Prop :=
  s'.processor.settings = s.processor.settings ∧ s'.processor.backend = s.processor.backend ∧
    s'.processor.logger = s.processor.logger ∧ s'.site.elapsed = s.site.elapsed ∧
    s'.alarm = s.alarm ∧ s'.site.journal = (s.reported events).site.journal

namespace Scene.Since

variable {s s' : Scene} {events : List Event}

theorem settings (h : s.Since events s') : s'.processor.settings = s.processor.settings := h.1

theorem backend (h : s.Since events s') : s'.processor.backend = s.processor.backend := h.2.1

theorem logger (h : s.Since events s') : s'.processor.logger = s.processor.logger := h.2.2.1

theorem elapsed (h : s.Since events s') : s'.site.elapsed = s.site.elapsed := h.2.2.2.1

theorem alarm (h : s.Since events s') : s'.alarm = s.alarm := h.2.2.2.2.1

theorem journal (h : s.Since events s') :
    s'.site.journal = (s.reported events).site.journal := h.2.2.2.2.2

theorem report (h : s.Since events s') (more : List Event) :
    s.Since (events ++ more) (s'.reported more) := by
  refine ⟨h.settings, h.backend, h.logger, h.elapsed, h.alarm, ?_⟩
  show s'.site.journal ++ s'.processor.logger.heard more = _
  rw [h.journal, h.logger]
  simp only [Scene.reported, Logger.heard_append, List.append_assoc]

end Scene.Since

namespace Call

variable {again : Again} {c c' : Call} {s s₁ s₂ : Scene} {payload : Value} {content : Bytes}
  {hs : List Incident} {events : List Event}

/-- Nothing goes wrong before the sink is opened, and the start is reported. -/
theorem Move.standing_entering (h : Move again c s₁ c' s₂) (hst : c.stage ≤ 2)
    (hp : Standing s payload content c s₁ hs events) (hi : s.Since events s₁)
    (hu : s₁.processor.logger.Usable) (ho : s.processor.closed = false)
    (hb : Payload.bytes payload = .ok content) :
    ∃ events', Standing s payload content c' s₂ (hs ++ (c.incident again s₁).toList) events' ∧
      s.Since events' s₂ := by
  cases hp with
  | admission =>
    cases h with
    | refused payload s₁ h => exact absurd (h.symm.trans ho) (by decide)
    | admitted payload s₁ h => exact ⟨_, .fetching _ rfl, hi⟩
  | fetching s₁ hcap =>
    cases h with
    | fetched id payload s₁ => exact ⟨_, .intake _ _ hcap, hi⟩
  | intake module s₁ hcap =>
    cases h with
    | unreadable id module payload s₁ refusal h => exact absurd (h.symm.trans hb) (by simp)
    | announced id module payload s₁ s₂ content' h he =>
      cases h.symm.trans hb
      rw [Scene.emit_plain hu (startEvent_plain _ _ _)] at he
      cases he
      have hstart : startEvent s₁.processor s.nextId content =
          startEvent s.processor s.nextId content := by
        simp only [startEvent, hi.settings]
      rw [hstart]
      exact ⟨_, .opening module _ hcap, hi.report [startEvent s.processor s.nextId content]⟩
    | unannounced id module payload s₁ s₂ content' problem h he =>
      rw [Scene.emit_plain hu (startEvent_plain _ _ _)] at he
      cases he
  | clearing job sink stream => cases stream <;> exact absurd hst (by simp [Call.stage])
  | _ => exact absurd hst (by simp [Call.stage, stepsBeforeRun])

theorem Move.standing_opening {job : Job} (h : Move again (.opening job) s₁ c' s₂)
    (hp : Standing s payload content (.opening job) s₁ hs events) (hi : s.Since events s₁)
    (hc : s.nextSink.Clean) :
    ∃ events', Standing s payload content c' s₂
      (hs ++ ((Call.opening job).incident again s₁).toList) events' ∧ s.Since events' s₂ := by
  cases hp with
  | opening module s₁ hcap =>
    have hn : (s₁.processor.capture.nextSink (Value.ofNat s.nextId)).1.Clean := by
      rw [hcap]
      exact hc
    cases h with
    | opened job s₁ => exact ⟨_, .clearing _ _ .stdout _ rfl hn, hi⟩

/-- A stream that cannot be cleared ends the invocation with one incident. -/
theorem Move.standing_clearing {job : Job} {sink : Sink} {stream : Stream}
    (h : Move again (.clearing job sink stream) s₁ c' s₂)
    (hp : Standing s payload content (.clearing job sink stream) s₁ hs events)
    (hi : s.Since events s₁) :
    ∃ events', Standing s payload content c' s₂
      (hs ++ ((Call.clearing job sink stream).incident again s₁).toList) events' ∧
      s.Since events' s₂ := by
  cases hp with
  | clearing job sink stream s₁ hj hcl =>
    cases h with
    | blocked job sink stream s₁ v problem h =>
      rcases Sink.clear_fileError hcl h with ⟨-, hd⟩ | ⟨e, name, ht, hd⟩
      · cases hd
      · cases hd
        rw [hj]
        simp only [incident, ht]
        exact ⟨_, .settling _ _ _ (.once _ _ (.uncleared name e)), hi⟩
    | clearedOut job sink s₁ v h =>
      rcases Sink.clear_fileError hcl h with ⟨ht, -⟩ | ⟨e, name, -, hd⟩
      · simp only [incident, ht]
        exact ⟨_, .clearing job sink .stderr _ hj hcl, hi⟩
      · cases hd
    | clearedErr job sink s₁ v h =>
      rcases Sink.clear_fileError hcl h with ⟨ht, -⟩ | ⟨e, name, -, hd⟩
      · simp only [incident, ht]
        exact ⟨_, .starting job sink _ hj hcl, hi⟩
      · cases hd

theorem Move.standing_starting {job : Job} {sink : Sink}
    (h : Move again (.starting job sink) s₁ c' s₂)
    (hp : Standing s payload content (.starting job sink) s₁ hs events) (hi : s.Since events s₁)
    (hr : ∀ closed module context v,
      (s.processor.backend.run closed module context v).KeepsToItself) :
    ∃ events', Standing s payload content c' s₂
      (hs ++ ((Call.starting job sink).incident again s₁).toList) events' ∧ s.Since events' s₂ := by
  cases hp with
  | starting job sink s₁ hj hcl =>
    have hrun : Run.KeepsToItself (runOf s₁ job sink) := by
      unfold runOf
      rw [hi.backend]
      exact hr _ _ _ _
    cases h with
    | started job sink s₁ =>
      rw [hj]
      exact ⟨_, .running sink _ _ _ hcl hrun, hi⟩

/-- What the guest reports is an incident of its own, after the last act that is made. -/
theorem Move.standing_running {id : Nat} {sink : Sink} {acts : List Act}
    {ending : Except Problem Outcome} (h : Move again (.running id sink acts ending) s₁ c' s₂)
    (hp : Standing s payload content (.running id sink acts ending) s₁ hs events)
    (hi : s.Since events s₁) :
    ∃ events', Standing s payload content c' s₂
      (hs ++ ((Call.running id sink acts ending).incident again s₁).toList) events' ∧
      s.Since events' s₂ := by
  cases hp with
  | running sink acts ending s₁ hcl hrun =>
    cases h with
    | completed id sink outcome s₁ =>
      exact ⟨_, .draining sink outcome _ hcl (hrun.typed outcome rfl), hi⟩
    | broken id sink problem s₁ =>
      exact ⟨_, .releasing sink .stdout _ _ _ hcl (by simp [incident])
        (.once (.guest problem) _ (.guest problem)), hi⟩
    | acted id sink sink' act rest ending s₁ s₂ h =>
      obtain ⟨⟨v, rfl⟩, hcl'⟩ := perform_alone act (hrun.alone act List.mem_cons_self) hcl h
      have hrest : Run.KeepsToItself ⟨rest, ending⟩ :=
        ⟨fun a ha => hrun.alone a (List.mem_cons_of_mem _ ha), hrun.typed⟩
      simp only [incident, h]
      exact ⟨_, .running sink' rest ending _ (hcl' sink' rfl) hrest, hi⟩
    | stumbled id sink act rest ending s₁ s₂ problem h =>
      obtain ⟨⟨v, rfl⟩, -⟩ := perform_alone act (hrun.alone act List.mem_cons_self) hcl h
      simp only [incident, h]
      exact ⟨_, .releasing sink .stdout _ _ _ hcl (by simp)
        (.once (.guest problem) _ (.guest problem)), hi⟩

/-- A stream that cannot be read is the first incident, because the guest has ended without one. -/
theorem Move.standing_draining {id : Nat} {sink : Sink} {outcome : Outcome}
    (h : Move again (.draining id sink outcome) s₁ c' s₂)
    (hp : Standing s payload content (.draining id sink outcome) s₁ hs events)
    (hi : s.Since events s₁) :
    ∃ events', Standing s payload content c' s₂
      (hs ++ ((Call.draining id sink outcome).incident again s₁).toList) events' ∧
      s.Since events' s₂ := by
  cases hp with
  | draining sink outcome s₁ hcl ht =>
    cases h with
    | drained id sink outcome s₁ v output h =>
      rcases Sink.drain_fileError hcl h with ⟨hn, -⟩ | ⟨e, name, -, hd⟩
      · simp only [incident, hn]
        exact ⟨_, .drainingError sink outcome output _ hcl ht, hi⟩
      · cases hd
    | unread id sink outcome s₁ v problem h =>
      rcases Sink.drain_fileError hcl h with ⟨-, bytes, hd⟩ | ⟨e, name, hn, hd⟩
      · cases hd
      · cases hd
        simp only [incident, hn]
        exact ⟨_, .releasing sink .stdout _ _ _ hcl (by simp) (.once _ _ (.unread name e)), hi⟩

theorem Move.standing_drainingError {id : Nat} {sink : Sink} {outcome : Outcome} {output : Bytes}
    (h : Move again (.drainingError id sink outcome output) s₁ c' s₂)
    (hp : Standing s payload content (.drainingError id sink outcome output) s₁ hs events)
    (hi : s.Since events s₁) :
    ∃ events', Standing s payload content c' s₂
      (hs ++ ((Call.drainingError id sink outcome output).incident again s₁).toList) events' ∧
      s.Since events' s₂ := by
  cases hp with
  | drainingError sink outcome output s₁ hcl ht =>
    cases h with
    | drainedError id sink outcome output s₁ v content' h =>
      rcases Sink.drain_fileError hcl h with ⟨hn, bytes, rfl⟩ | ⟨e, name, hn, rfl⟩
      · simp only [incident, hn]
        exact ⟨_, .releasing sink .stdout _ _ _ hcl (by simp) (.drained _ ht), hi⟩
      · simp only [incident, hn]
        exact ⟨_, .releasing sink .stdout _ _ _ hcl (by simp) (.once _ _ (.unread name e)), hi⟩

/-- A file that cannot be removed comes after all other incidents, and is the last one. -/
theorem Move.standing_releasing {id : Nat} {sink : Sink} {stream : Stream}
    {pending : Except Problem Drained}
    (h : Move again (.releasing id sink stream pending) s₁ c' s₂)
    (hp : Standing s payload content (.releasing id sink stream pending) s₁ hs events)
    (hi : s.Since events s₁) :
    ∃ events', Standing s payload content c' s₂
      (hs ++ ((Call.releasing id sink stream pending).incident again s₁).toList) events' ∧
      s.Since events' s₂ := by
  cases hp with
  | releasing sink stream pending s₁ hs hcl hn hp =>
    cases h with
    | stuck id sink sink' stream pending s₁ v e h =>
      obtain ⟨-, ⟨-, hd⟩ | ⟨e', ht, hd⟩⟩ := Sink.discard_fileError hcl h
      · cases hd
      · cases hd
        simp only [incident, ht]
        exact ⟨_, .settling _ _ _ (.late hs e hn), hi⟩
    | releasedOut id sink sink' pending s₁ v h =>
      obtain ⟨hcl', ⟨ht, -⟩ | ⟨e, -, hd⟩⟩ := Sink.discard_fileError hcl h
      · simp only [incident, ht, Option.map_none, Option.toList_none, List.append_nil]
        exact ⟨_, .releasing sink' .stderr pending _ hs hcl' hn hp, hi⟩
      · cases hd
    | releasedErr id sink sink' pending s₁ v h =>
      obtain ⟨-, ⟨ht, -⟩ | ⟨e, -, hd⟩⟩ := Sink.discard_fileError hcl h
      · simp only [incident, ht, Option.map_none, Option.toList_none, List.append_nil]
        exact ⟨_, .settling pending _ hs hp, hi⟩
      · cases hd

/-- The end is reported once. -/
theorem Move.standing_settling {id : Nat} {pending : Except Problem Drained}
    (h : Move again (.settling id pending) s₁ c' s₂)
    (hp : Standing s payload content (.settling id pending) s₁ hs events) (hi : s.Since events s₁)
    (hu : s₁.processor.logger.Usable) :
    ∃ events', Standing s payload content c' s₂
      (hs ++ ((Call.settling id pending).incident again s₁).toList) events' ∧
        s.Since events' s₂ := by
  cases hp with
  | settling pending s₁ hs hp =>
    cases h with
    | settled id pending s₁ s₂ result h =>
      rw [settle_usable hu] at h
      cases h
      have hj : judge s₁.processor s₁.site.elapsed s.nextId pending =
          judge s.processor s.site.elapsed s.nextId pending := by
        simp only [judge, resultOf, hi.settings, hi.backend, hi.elapsed]
      rw [hj, hi.elapsed]
      simp only [incident, Option.toList_none, List.append_nil]
      exact ⟨_, .finished pending _ hs hp, hi.report _⟩

/-- Every step keeps account of what has gone wrong and what has been reported. -/
theorem Move.standing (h : Move again c s₁ c' s₂) (hp : Standing s payload content c s₁ hs events)
    (hi : s.Since events s₁) (hu : s.processor.logger.Usable)
    (ho : s.processor.closed = false) (hb : Payload.bytes payload = .ok content)
    (hc : s.nextSink.Clean)
    (hr : ∀ closed module context v,
      (s.processor.backend.run closed module context v).KeepsToItself) :
    ∃ events', Standing s payload content c' s₂ (hs ++ (c.incident again s₁).toList) events' ∧
      s.Since events' s₂ := by
  have hu₁ : s₁.processor.logger.Usable := hi.logger ▸ hu
  cases c with
  | admission payload => exact h.standing_entering (Nat.zero_le 2) hp hi hu₁ ho hb
  | fetching id payload => exact h.standing_entering (Nat.le_succ 1) hp hi hu₁ ho hb
  | intake id module payload => exact h.standing_entering (Nat.le_refl 2) hp hi hu₁ ho hb
  | opening job => exact h.standing_opening hp hi hc
  | clearing job sink stream => exact h.standing_clearing hp hi
  | starting job sink => exact h.standing_starting hp hi hr
  | running id sink acts ending => exact h.standing_running hp hi
  | draining id sink outcome => exact h.standing_draining hp hi
  | drainingError id sink outcome output => exact h.standing_drainingError hp hi
  | releasing id sink stream pending => exact h.standing_releasing hp hi
  | settling id pending => exact h.standing_settling hp hi hu₁
  | finished result =>
    cases h with
    | rested result s₁ =>
      cases hp with
      | finished pending s₁ hs hp =>
        simp only [incident, Option.toList_none, List.append_nil]
        exact ⟨_, .finished pending _ hs hp, hi⟩

end Call

end GuestRunner
