import GuestRunner.Processor.Invoke

/-!
# Moves of an invocation

All that one step of an invocation can do, one constructor for each way. What is said about a step
later is said by going through the moves.
-/

set_option autoImplicit false

namespace GuestRunner

namespace Scene

def admitting (s : Scene) : Scene :=
  { s with processor := { s.processor with accepted := s.processor.accepted + 1 } }

def withCapture (s : Scene) (capture : Capture) : Scene :=
  { s with processor := { s.processor with capture } }

end Scene

namespace Call

def contextOf (p : Processor) (job : Job) (sink : Sink) : Context :=
  Context.build (Value.ofNat job.id) job.content sink (.text p.settings.programName)
    (Context.texts p.settings.environment)

def runOf (s : Scene) (job : Job) (sink : Sink) : Run :=
  s.processor.backend.run s.processor.backendClosed job.module (contextOf s.processor job sink)
    s.site.volume

inductive Move (again : Again) : Call → Scene → Call → Scene → Prop
  | refused (payload : Value) (s : Scene) (h : s.processor.closed = true) :
    Move again (.admission payload) s (.finished (.error (.failure .processorClosed))) s
  | admitted (payload : Value) (s : Scene) (h : s.processor.closed = false) :
    Move again (.admission payload) s (.fetching (s.processor.accepted + 1) payload) s.admitting
  | fetched (id : Nat) (payload : Value) (s : Scene) :
    Move again (.fetching id payload) s (.intake id s.processor.module payload) s
  | unreadable (id : Nat) (module : Option CompiledModule) (payload : Value) (s : Scene)
    (refusal : Refusal) (h : Payload.bytes payload = .error refusal) :
    Move again (.intake id module payload) s (.finished (.error (.refusal refusal))) s
  | announced (id : Nat) (module : Option CompiledModule) (payload : Value) (s s' : Scene)
    (content : Bytes) (h : Payload.bytes payload = .ok content)
    (hs : s.emit (startEvent s.processor id content) = (.ok (), s')) :
    Move again (.intake id module payload) s (.opening ⟨id, module, content⟩) s'
  | unannounced (id : Nat) (module : Option CompiledModule) (payload : Value) (s s' : Scene)
    (content : Bytes) (problem : Problem) (h : Payload.bytes payload = .ok content)
    (hs : s.emit (startEvent s.processor id content) = (.error problem, s')) :
    Move again (.intake id module payload) s (.finished (.error problem)) s'
  | opened (job : Job) (s : Scene) :
    Move again (.opening job) s
      (.clearing job (s.processor.capture.nextSink (Value.ofNat job.id)).1 .stdout)
      (s.withCapture (s.processor.capture.nextSink (Value.ofNat job.id)).2)
  | blocked (job : Job) (sink : Sink) (stream : Stream) (s : Scene) (v : Files.Volume)
    (problem : Problem) (h : sink.clear stream s.site.volume = (.error problem, v)) :
    Move again (.clearing job sink stream) s (.settling job.id (.error problem)) (s.withVolume v)
  | clearedOut (job : Job) (sink : Sink) (s : Scene) (v : Files.Volume)
    (h : sink.clear .stdout s.site.volume = (.ok (), v)) :
    Move again (.clearing job sink .stdout) s (.clearing job sink .stderr) (s.withVolume v)
  | clearedErr (job : Job) (sink : Sink) (s : Scene) (v : Files.Volume)
    (h : sink.clear .stderr s.site.volume = (.ok (), v)) :
    Move again (.clearing job sink .stderr) s (.starting job sink)
      ((s.withVolume v).did (.openSink sink))
  | started (job : Job) (sink : Sink) (s : Scene) :
    Move again (.starting job sink) s
      (.running job.id sink (runOf s job sink).acts (runOf s job sink).ending)
      (s.did (.run job.module (contextOf s.processor job sink)))
  | completed (id : Nat) (sink : Sink) (outcome : Outcome) (s : Scene) :
    Move again (.running id sink [] (.ok outcome)) s (.draining id sink outcome) s
  | broken (id : Nat) (sink : Sink) (problem : Problem) (s : Scene) :
    Move again (.running id sink [] (.error problem)) s
      (.releasing id sink .stdout (.error problem)) (s.did (.release sink))
  | acted (id : Nat) (sink sink' : Sink) (act : Act) (rest : List Act)
    (ending : Except Problem Outcome) (s s' : Scene)
    (h : perform again sink act s = (.ok sink', s')) :
    Move again (.running id sink (act :: rest) ending) s (.running id sink' rest ending) s'
  | stumbled (id : Nat) (sink : Sink) (act : Act) (rest : List Act)
    (ending : Except Problem Outcome) (s s' : Scene) (problem : Problem)
    (h : perform again sink act s = (.error problem, s')) :
    Move again (.running id sink (act :: rest) ending) s
      (.releasing id sink .stdout (.error problem)) (s'.did (.release sink))
  | drained (id : Nat) (sink : Sink) (outcome : Outcome) (s : Scene) (v : Files.Volume)
    (output : Bytes) (h : sink.drain .stdout s.site.volume = (.ok output, v)) :
    Move again (.draining id sink outcome) s (.drainingError id sink outcome output)
      ((s.withVolume v).did (.drain sink .stdout))
  | unread (id : Nat) (sink : Sink) (outcome : Outcome) (s : Scene) (v : Files.Volume)
    (problem : Problem) (h : sink.drain .stdout s.site.volume = (.error problem, v)) :
    Move again (.draining id sink outcome) s (.releasing id sink .stdout (.error problem))
      (((s.withVolume v).did (.drain sink .stdout)).did (.release sink))
  | drainedError (id : Nat) (sink : Sink) (outcome : Outcome) (output : Bytes) (s : Scene)
    (v : Files.Volume) (content : Except Problem Bytes)
    (h : sink.drain .stderr s.site.volume = (content, v)) :
    Move again (.drainingError id sink outcome output) s
      (.releasing id sink .stdout (content.map fun stderr => ⟨outcome, output, stderr⟩))
      (((s.withVolume v).did (.drain sink .stderr)).did (.release sink))
  | stuck (id : Nat) (sink sink' : Sink) (stream : Stream) (pending : Except Problem Drained)
    (s : Scene) (v : Files.Volume) (e : OsError)
    (h : sink.discard stream s.site.volume = (.error e, sink', v)) :
    Move again (.releasing id sink stream pending) s (.settling id (.error (.os e)))
      (s.withVolume v)
  | releasedOut (id : Nat) (sink sink' : Sink) (pending : Except Problem Drained) (s : Scene)
    (v : Files.Volume) (h : sink.discard .stdout s.site.volume = (.ok (), sink', v)) :
    Move again (.releasing id sink .stdout pending) s (.releasing id sink' .stderr pending)
      (s.withVolume v)
  | releasedErr (id : Nat) (sink sink' : Sink) (pending : Except Problem Drained) (s : Scene)
    (v : Files.Volume) (h : sink.discard .stderr s.site.volume = (.ok (), sink', v)) :
    Move again (.releasing id sink .stderr pending) s (.settling id pending) (s.withVolume v)
  | settled (id : Nat) (pending : Except Problem Drained) (s s' : Scene)
    (result : Except Problem Result) (h : settle id pending s = (result, s')) :
    Move again (.settling id pending) s (.finished result) s'
  | rested (result : Except Problem Result) (s : Scene) :
    Move again (.finished result) s (.finished result) s

theorem advance_move (again : Again) (c : Call) (s : Scene) :
    Move again c s (advance again c s).1 (advance again c s).2 := by
  cases c with
  | admission payload =>
    simp only [advance]
    split <;> rename_i h
    · exact .refused payload s h
    · exact .admitted payload s (by simpa using h)
  | fetching id payload => exact .fetched id payload s
  | intake id module payload =>
    simp only [advance]
    split <;> rename_i h
    · exact .unreadable id module payload s _ h
    · split <;> rename_i hs
      · exact .announced id module payload s _ _ h hs
      · exact .unannounced id module payload s _ _ _ h hs
  | opening job => exact .opened job s
  | clearing job sink stream =>
    obtain ⟨⟨done, v⟩, h⟩ : ∃ r, sink.clear stream s.site.volume = r := ⟨_, rfl⟩
    cases done with
    | error problem =>
      simp only [advance, h]
      exact .blocked job sink stream s v problem h
    | ok _ =>
      cases stream <;> simp only [advance, h]
      · exact .clearedOut job sink s v h
      · exact .clearedErr job sink s v h
  | starting job sink => exact .started job sink s
  | running id sink acts ending =>
    cases acts with
    | nil =>
      cases ending with
      | ok outcome => exact .completed id sink outcome s
      | error problem => exact .broken id sink problem s
    | cons act rest =>
      simp only [advance]
      split <;> rename_i h
      · exact .acted id sink _ act rest ending s _ h
      · exact .stumbled id sink act rest ending s _ _ h
  | draining id sink outcome =>
    obtain ⟨⟨content, v⟩, h⟩ : ∃ r, sink.drain .stdout s.site.volume = r := ⟨_, rfl⟩
    cases content <;> simp only [advance, h]
    · exact .unread id sink outcome s v _ h
    · exact .drained id sink outcome s v _ h
  | drainingError id sink outcome output => exact .drainedError id sink outcome output s _ _ rfl
  | releasing id sink stream pending =>
    obtain ⟨⟨done, sink', v⟩, h⟩ : ∃ r, sink.discard stream s.site.volume = r := ⟨_, rfl⟩
    cases done with
    | error e =>
      simp only [advance, h]
      exact .stuck id sink sink' stream pending s v e h
    | ok _ =>
      cases stream <;> simp only [advance, h]
      · exact .releasedOut id sink sink' pending s v h
      · exact .releasedErr id sink sink' pending s v h
  | settling id pending => exact .settled id pending s _ _ rfl
  | finished result => exact .rested result s

theorem step_advance (again : Again) {c : Call} (s : Scene) (h : ∀ result, c ≠ .finished result) :
    step again c s = advance again c s.tick := by
  cases c with
  | finished result => exact absurd rfl (h result)
  | _ => rfl

theorem step_alone (again : Again) (c : Call) (s : Scene) :
    step again c s = (c, s) ∨ step again c s = advance again c s.tick := by
  cases c with
  | finished result => exact Or.inl rfl
  | _ => exact Or.inr rfl

theorem step_move (again : Again) (c : Call) (s : Scene) :
    Move again c s (step again c s).1 (step again c s).2 ∨
      Move again c s.tick (step again c s).1 (step again c s).2 := by
  cases c with
  | finished result => exact Or.inl (.rested result s)
  | _ => exact Or.inr (advance_move again _ _)

end Call

end GuestRunner
