import GuestRunner.Proofs.Call.Payload
import GuestRunner.Proofs.Call.Underway
import GuestRunner.Proofs.Processor.Reachable
import GuestRunner.Proofs.Scratch.Slots

/-!
# What invocations answer

An invocation with a healthy scratch directory answers nothing but what its guest has done: whatever
happened to the processor before, and however its output is captured.
-/

set_option autoImplicit false

namespace GuestRunner

open Files Files.Volume Run

namespace Call

variable {s : Scene} {payload : Value} {content : Bytes}

def undisturbed (s : Scene) (payload : Value) (place : Stream → Place) : Terms where
  processor := s.processor
  elapsed := s.site.elapsed
  payload := payload
  closable := False
  files := s.nextSink.filePaths ≠ none
  excused := fun _ => False
  fileFaults := fun _ => False
  holds := fun sink v => sink.Resolved place v ∧
    (sink.filePaths ≠ none → s.nextSink.filePaths ≠ none)

theorem nextSink_fresh (s : Scene) : s.nextSink.Fresh := by
  unfold Scene.nextSink
  cases s.processor.capture with
  | buffered => exact ⟨rfl, rfl⟩
  | files scratch opened => trivial

/-- Preparing a sink with resolved files works and leaves nothing in it. -/
theorem prepare_resolved {sink : Sink} {place : Stream → Place} {v : Volume}
    (hm : sink.Resolved place v) (hf : sink.Fresh)
    (hs : sink.filePaths ≠ none → v.Faultless .truncate 2) :
    ∃ v' v'', sink.clear .stdout v = (.ok (), v') ∧ sink.clear .stderr v' = (.ok (), v'') ∧
      sink.Resolved place v'' ∧ (∀ stream, sink.held stream v'' = []) ∧
      TouchesOnly (Sink.AtPlaces place) [.truncate, .truncate] v v'' := by
  obtain ⟨v', h', hc'⟩ := Sink.clear_resolved hm hf .stdout fun hp => (hs hp).mono (by decide)
  obtain ⟨v'', h'', hc''⟩ := Sink.clear_resolved hc'.resolved hf .stderr fun hp =>
    hc'.touches.faultless .truncate 1 (hs hp)
  refine ⟨v', v'', h', h'', hc''.resolved, ?_, hc'.atPlaces.trans hc''.atPlaces⟩
  intro stream
  cases stream with
  | stdout => rw [hc''.others .stdout (by decide), hc'.held]
  | stderr => exact hc''.held

/-- The first steps of an open processor give a number to the invocation and report its start. -/
theorem steps_entering (again : Again) (ha : s.alarm = .off) (hu : s.processor.logger.Usable)
    (ho : s.processor.closed = false) (hp : Payload.bytes payload = .ok content) :
    steps again 3 (.admission payload, s) =
      (.opening (s.nextJob content),
        s.admitting.reported [startEvent s.processor s.nextId content]) := by
  have h1 : step again (.admission payload) s = (.fetching s.nextId payload, s.admitting) := by
    rw [step_calm again _ ha, advance, if_neg (by simp [ho])]
    rfl
  have h2 : step again (.fetching s.nextId payload) s.admitting =
      (.intake s.nextId s.processor.module payload, s.admitting) := step_calm again _ ha
  have h3 : step again (.intake s.nextId s.processor.module payload) s.admitting =
      (.opening (s.nextJob content),
        s.admitting.reported [startEvent s.processor s.nextId content]) := by
    have he := Scene.emit_plain (s := s.admitting) hu
      (startEvent_plain s.admitting.processor s.nextId content)
    rw [step_calm again _ (s := s.admitting) ha]
    simp only [advance, hp, he]
    rfl
  rw [show 3 = 2 + 1 from rfl, steps_step h1, steps_step h2, steps_step h3]
  rfl

/-- The next ones open a sink and clear both streams. -/
theorem steps_clearing (again : Again) (ha : s.alarm = .off) {job : Job} {sink : Sink}
    {capture : Capture} {v v' : Volume}
    (hn : s.processor.capture.nextSink (Value.ofNat job.id) = (sink, capture))
    (hout : sink.clear .stdout s.site.volume = (.ok (), v))
    (herr : sink.clear .stderr v = (.ok (), v')) :
    steps again 3 (.opening job, s) =
      (.starting job sink, ((s.withCapture capture).withVolume v').did (.openSink sink)) := by
  have h1 : step again (.opening job) s =
      (.clearing job sink .stdout, s.withCapture capture) := by
    rw [step_calm again _ ha]
    simp only [advance, hn]
    rfl
  have h2 : step again (.clearing job sink .stdout) (s.withCapture capture) =
      (.clearing job sink .stderr, (s.withCapture capture).withVolume v) := by
    rw [step_calm again _ (s := s.withCapture capture) ha]
    simp only [advance, show (s.withCapture capture).site.volume = s.site.volume from rfl, hout]
  have h3 : step again (.clearing job sink .stderr) ((s.withCapture capture).withVolume v) =
      (.starting job sink, ((s.withCapture capture).withVolume v').did (.openSink sink)) := by
    rw [step_calm again _ (s := (s.withCapture capture).withVolume v) ha]
    simp only [advance, show ((s.withCapture capture).withVolume v).site.volume = v from rfl, herr]
    rfl
  rw [show 3 = 2 + 1 from rfl, steps_step h1, steps_step h2, steps_step h3]
  rfl

/-- An open processor comes to the run that its backend reports. -/
theorem steps_to_run (again : Again) {place : Stream → Place} (ha : s.alarm = .off)
    (hu : s.processor.logger.Usable) (ho : s.processor.closed = false)
    (hp : Payload.bytes payload = .ok content) (hm : s.nextSink.Resolved place s.site.volume)
    (hs : s.nextSink.filePaths ≠ none → ∀ call, s.site.volume.Faultless call 2)
    (hr : Appends [] (s.nextRun content).acts) :
    ∃ c s', steps again stepsBeforeRun (.admission payload, s) = (c, s') ∧
      Underway (undisturbed s payload place) ⟨some s.nextId, none, some (s.nextRun content)⟩
        (fun _ => []) s.nextId c s' := by
  obtain ⟨v', v'', h', h'', hm', hh, ht⟩ :=
    prepare_resolved hm (nextSink_fresh s) fun hf => hs hf .truncate
  have hv : (s.nextSink.prepare s.site.volume).2 = v'' := by simp only [Sink.prepare, h', h'']
  let s₃ := s.admitting.reported [startEvent s.processor s.nextId content]
  let capture := (s.processor.capture.nextSink (Value.ofNat s.nextId)).2
  let s₆ := ((s₃.withCapture capture).withVolume v'').did (.openSink s.nextSink)
  let s₇ := s₆.did (.run s.processor.module (contextOf s.processor (s.nextJob content) s.nextSink))
  let run := s.nextRun content
  have h3 : steps again 3 (.admission payload, s) = (.opening (s.nextJob content), s₃) :=
    steps_entering again ha hu ho hp
  have h6 : steps again 3 (.opening (s.nextJob content), s₃) =
      (.starting (s.nextJob content) s.nextSink, s₆) :=
    steps_clearing again (s := s₃) ha rfl h' h''
  have hb : s₆.processor.backendClosed = s.processor.backendClosed := by
    show (s.processor.deeds ++ [_]).any _ = s.processor.deeds.any _
    rw [List.any_append]
    exact Bool.or_false _
  have hrun : runOf s₆ (s.nextJob content) s.nextSink = s.nextRun content := by
    unfold runOf Scene.nextRun
    rw [hb, hv]
    rfl
  have h7 : step again (.starting (s.nextJob content) s.nextSink) s₆ =
      (.running s.nextId s.nextSink run.acts run.ending, s₇) := by
    rw [step_calm again _ (s := s₆) ha]
    simp only [run, ← hrun]
    rfl
  refine ⟨.running s.nextId s.nextSink run.acts run.ending, s₇, ?_, ?_⟩
  · rw [show stepsBeforeRun = 3 + 3 + 1 from rfl, steps_succ, steps_add, h3, h6]
    exact h7
  · refine ⟨.running s.nextId s.nextSink [] _ _ _ rfl rfl ⟨hm', id⟩ hr ?_,
      ⟨rfl, rfl, hu, rfl, fun hc => ?_⟩, ha, fun hf call => ?_, rfl, rfl⟩
    · intro stream
      rw [show s.nextSink.held stream s₇.site.volume = [] from hh stream]
      exact accounts_nil _ stream
    · exact absurd (hc.symm.trans ho) (by decide)
    · have hd : ∀ call, (Call.running s.nextId s.nextSink run.acts run.ending).callsLeft call +
          [Files.Call.truncate, .truncate].count call ≤ 2 := by
        intro call
        cases call <;> simp [callsLeft, stage, togo, stepsBeforeRun]
      exact ht.faultless call _ ((hs hf call).mono (hd call))

theorem codeOf_declared (code : Option Int) :
    (if (Value.ofOption .int code).isTrue then Value.ofOption .int code else .int 0) =
      .int (code.getD 0) := by
  cases code with
  | none => rfl
  | some n =>
    by_cases hn : n = 0
    · subst hn
      rfl
    · have ht : (Value.int n).isTrue = true := by simpa [Value.isTrue] using hn
      simp [Value.ofOption, ht]

/-- How an outcome of declared types and what was drained are judged. -/
theorem judge_declared (p : Processor) (elapsed : Binary64) (id : Nat) (code fuel : Option Int)
    (trapped : Bool) (reason message : Option String) (output stderr : Bytes) :
    judge p elapsed id (.ok ⟨⟨Value.ofOption .int code, trapped, reason, message,
        Value.ofOption .int fuel⟩, output, stderr⟩) =
      if trapped then
        .error (.failure (.trapped (trapText message) (Value.ofOption .text reason)
          (Value.bytesOf stderr) (Value.ofNat id)))
      else if stderr ≠ [] ∧ p.settings.failOnStderr = true then
        .error (.failure (.guestReported stderr (.int (code.getD 0)) (Value.ofNat id)))
      else if code.getD 0 ≠ 0 then
        .error (.failure (.nonZeroExit (.int (code.getD 0)) (Value.ofNat id)))
      else .ok (resultOf p elapsed id ⟨⟨Value.ofOption .int code, trapped, reason, message,
        Value.ofOption .int fuel⟩, output, stderr⟩ fuel) := by
  have hc := codeOf_declared code
  have hi : ∀ n : Int, (Value.int n).isTrue = (n != 0) := fun _ => rfl
  have hf : fuelOf ⟨Value.ofOption .int code, trapped, reason, message,
      Value.ofOption .int fuel⟩ = .ok fuel := fuelOf_typed rfl
  simp only [judge, verdict, bind, Except.bind, hc, hf]
  by_cases ht : trapped = true
  · simp [ht]
  · by_cases hs : stderr = []
    · by_cases hn : code.getD 0 = 0
      · simp [ht, hs, hn, hi]
        rfl
      · simp [ht, hs, hn, hi]
    · cases p.settings.failOnStderr with
      | false =>
        by_cases hn : code.getD 0 = 0
        · simp [ht, hs, hn, hi]
          rfl
        · simp [ht, hs, hn, hi]
      | true => simp [ht, hs]

/-- A whole invocation judges what the run wrote, and has taken a number. -/
theorem run_judged (again : Again) {place : Stream → Place} (ha : s.alarm = .off)
    (hu : s.processor.logger.Usable) (ho : s.processor.closed = false)
    (hp : Payload.bytes payload = .ok content) (hm : s.nextSink.Resolved place s.site.volume)
    (hs : s.nextSink.filePaths ≠ none → ∀ call, s.site.volume.Faultless call 2)
    (hr : Appends [] (s.nextRun content).acts) :
    ∃ s', run again (.admission payload) s =
        (.finished (judge s.processor s.site.elapsed s.nextId (allDrained (s.nextRun content))),
          s') ∧
      s'.processor.accepted = s.nextId := by
  obtain ⟨c, s1, h1, hw⟩ := steps_to_run again ha hu ho hp hm hs hr
  have hend := hw.ends again (Sink.resolved_invariant place fun _ h => h) c.left
  obtain ⟨n, result, s', -, he⟩ := run_ends again (.admission payload) s
  have hrun : run again (.admission payload) s = steps again c.left (c, s1) := by
    unfold run
    rw [h1]
  rw [← hrun, he] at hend
  refine ⟨s', ?_, hend.accepted⟩
  rw [he]
  cases hend.course with
  | finished result v h =>
    cases h with
    | refused hc hi => exact hc.elim
    | unreadable id refusal hi hb => exact absurd (hb.symm.trans hp) (by simp)
    | barred id problem hi hb =>
      obtain ⟨e, he⟩ := hb.fileFaults
      exact he.elim
    | judged id run pending hi hrun hc =>
      cases hi
      cases hrun
      rw [hc.exact (fun _ hx => hx) fun _ hx => hx]
      rfl

end Call

namespace Scene

theorem healthy_of_sound {s : Scene} {scratch : Scratch} {slot : Nat}
    (hc : s.processor.capture = .files scratch slot) (hs : scratch.Sound s.site.volume)
    (hf : scratch.SlotFits s.nextId slot) (hq : ∀ call, s.site.volume.Faultless call 2) :
    s.Healthy := by
  refine ⟨scratch.slotPlace s.nextId slot, ?_, fun _ => hq⟩
  unfold nextSink
  rw [hc]
  exact hs.resolved hf

end Scene

/-- An open processor whose scratch directory is healthy takes the next number and answers exactly
what the run of its backend amounts to, whatever has happened before. -/
theorem invoke_healthy {s : Scene} {payload : Value} {content : Bytes} {acts : List Act}
    {code fuel : Option Int} {trapped : Bool} {reason message : Option String} (hl : Reachable s)
    (ho : s.processor.closed = false) (hp : Payload.Denotes payload content)
    (hh : s.Healthy)
    (hr : s.nextRun content = ⟨acts, .ok ⟨Value.ofOption .int code, trapped, reason, message,
      Value.ofOption .int fuel⟩⟩)
    (ha : Appends [] acts) :
    (s.invoke payload).2.processor.accepted = s.processor.accepted + 1 ∧
    (s.invoke payload).1 =
      if trapped then
        .error (.failure (.trapped ("failed to call _start: " ++ message.getD "None")
          (Value.ofOption .text reason) (Value.bytesOf (streamed .stderr acts))
          (Value.ofNat (s.processor.accepted + 1))))
      else if streamed .stderr acts ≠ [] ∧ s.processor.settings.failOnStderr = true then
        .error (.failure (.guestReported (streamed .stderr acts) (.int (code.getD 0))
          (Value.ofNat (s.processor.accepted + 1))))
      else if code.getD 0 ≠ 0 then
        .error (.failure (.nonZeroExit (.int (code.getD 0))
          (Value.ofNat (s.processor.accepted + 1))))
      else .ok {
        output := streamed .stdout acts
        stderr := streamed .stderr acts
        exitCode := 0
        fuelConsumed := fuel
        duration := s.site.elapsed
        id := (s.processor.accepted + 1 : Nat)
        metadata := [("backend", .text s.processor.backend.name),
          ("capture", .text s.processor.settings.capture.label)] } := by
  obtain ⟨place, hm, hs⟩ := hh
  have hacts : (s.nextRun content).acts = acts := by rw [hr]
  obtain ⟨s', hrun, hn⟩ :=
    Call.run_judged Scene.again hl.calm hl.usable ho (Payload.bytes_ok.mpr hp) hm hs (hacts ▸ ha)
  unfold Scene.invoke
  rw [hrun, hr]
  refine ⟨hn, ?_⟩
  exact Call.judge_declared s.processor s.site.elapsed s.nextId code fuel trapped reason message _ _

namespace Sample

def backend : Backend where
  name := "sample"
  compile _ _ := .ok ⟨.null, .int 0, ""⟩
  run _ _ _ _ :=
    ⟨[.write .stdout [104], .write .stderr [33], .write .stdout [105]],
      .ok (.exited (.int 0) .null)⟩

def settings : Settings :=
  { Settings.default with
    capture := .file, scratchDirectory := some "/box", failOnStderr := false }

def volume : Volume where
  tree := ⟨[(["box"], .directory)]⟩
  home := []
  temporary := []
  schedule := .quiet
  namesTried := 0
  tokensDrawn := 0

def attempt : Attempt :=
  Processor.construct (.bytes .fixed [0]) none settings (.leveled 50) (fun _ => backend)
    ⟨volume, [], .zero⟩

def scratch : Scratch := ⟨⟨.single, ["box"]⟩, false, "000000000001"⟩

def processor : Processor :=
  .fresh settings (.leveled 50) backend ⟨.null, .int 0, ""⟩ (.files scratch 0) [.compile [0]]

def scene : Scene := .calm processor attempt.site

theorem scene_reachable : Reachable scene :=
  .made (.bytes .fixed [0]) none settings (.leveled 50) (fun _ => backend) ⟨volume, [], .zero⟩
    processor rfl

theorem box_sound {s : Scratch} {v : Volume} (ht : Scratch.IsToken s.token)
    (hp : s.path = ⟨.single, ["box"]⟩) (hv : v.tree = volume.tree) : s.Sound v where
  token := ht
  rooted := by rw [hp]; rfl
  solid := by
    rw [hp, hv]
    refine ⟨by decide, ?_⟩
    intro p hp
    rcases List.prefix_cons_iff.mp hp with rfl | ⟨q, rfl, hq⟩
    · rfl
    · rw [List.prefix_nil.mp hq]
      rfl
  free name _ := by
    rw [hp, hv]
    exact Or.inl rfl

theorem scene_healthy : scene.Healthy := by
  have hq : ∀ call, scene.site.volume.Faultless call 2 := fun _ _ h => nomatch h
  refine @Scene.healthy_of_sound scene scratch 0 rfl (box_sound (by decide) rfl rfl) ?_ hq
  intro stream
  cases stream <;> decide +kernel

end Sample

/-- Both chunks for the first stream come back as one, and the other stream is not mixed in. -/
theorem invoke_healthy_sample :
    (Sample.scene.invoke (.engine .wasmtime)).1 = .ok {
      output := [104, 105]
      stderr := [33]
      exitCode := 0
      fuelConsumed := none
      duration := .zero
      id := 1
      metadata := [("backend", .text "sample"), ("capture", .text "file")] } := by
  have h := @invoke_healthy Sample.scene (.engine .wasmtime) _ _ (some 0) none _ _ _
    Sample.scene_reachable rfl (.engine .wasmtime) Sample.scene_healthy rfl
      ⟨trivial, trivial, trivial, trivial⟩
  exact h.2

end GuestRunner
