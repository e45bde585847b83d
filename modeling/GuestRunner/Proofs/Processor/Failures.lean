import GuestRunner.Proofs.Call.Incidents
import GuestRunner.Proofs.Call.Trace
import GuestRunner.Proofs.Processor.Answers

/-!
# How invocations report failing files

Whatever fails at the stream files of an invocation, and whatever there is in its directory, the
answer is a failure of the scratch directory that names the error behind it, and it is reported
once. The removal of the files at the end is the exception: an error there is handed on as it is,
replaces whatever was in hand, and is not reported.
-/

set_option autoImplicit false

namespace GuestRunner

open Files Files.Volume

namespace Scene

def incidents (payload : Value) (s : Scene) : List Call.Incident :=
  let begun := Call.steps again Call.stepsBeforeRun (.admission payload, s)
  Call.incidents again (Call.stepsBeforeRun + begun.1.left) (.admission payload, s)

end Scene

namespace Call

variable {s : Scene} {payload : Value} {content : Bytes}

theorem steps_standing (again : Again) (ha : s.alarm = .off) (hu : s.processor.logger.Usable)
    (ho : s.processor.closed = false) (hb : Payload.bytes payload = .ok content)
    (hc : s.nextSink.Clean)
    (hr : ∀ closed module context v,
      (s.processor.backend.run closed module context v).KeepsToItself)
    (n : Nat) :
    ∃ events, Standing s payload content (steps again n (.admission payload, s)).1
        (steps again n (.admission payload, s)).2
          (incidents again n (.admission payload, s)) events ∧
      s.Since events (steps again n (.admission payload, s)).2 := by
  induction n with
  | zero =>
    refine ⟨[], .admission, rfl, rfl, rfl, rfl, rfl, ?_⟩
    rw [Scene.reported_nil]
    rfl
  | succ n ih =>
    obtain ⟨events, hp, hi⟩ := ih
    have hm := calm_move again (steps again n (.admission payload, s)).1
      (hi.alarm.trans ha)
    exact hm.standing hp hi hu ho hb hc hr

/-- Unless a file could not be removed, every error is a failure, and a failing file its cause. It
concerns the invocation if what guests fail with does. -/
theorem InHand.failure {hs : List Incident} {pending : Except Problem Drained}
    (h : InHand hs pending)
    (hn : ∀ e, .files .unlink e ∉ hs)
    (hg : ∀ problem, .guest problem ∈ hs → ∃ f, problem = .failure f)
    {p : Processor} {elapsed : Binary64} {id : Nat} {problem : Problem}
    (hj : judge p elapsed id pending = .error problem) :
    ∃ f, problem = .failure f ∧
      ((∀ g, .guest (.failure g) ∈ hs → g.Concerns id) → f.Concerns id) ∧
      ∀ call e, .files call e ∈ hs → (∃ cause, f = .scratch cause) ∧ f.cause? = some (.os e) := by
  cases h with
  | drained d ht =>
    have hsound : Sound id (.ok d) := ht
    rcases judge_sound p elapsed hsound with ⟨r, hr, -⟩ | ⟨f, hf, hid⟩
    · rw [hr] at hj
      cases hj
    · rw [hf] at hj
      cases hj
      exact ⟨f, rfl, fun _ => hid, fun call e he => by cases he⟩
  | once x problem hx =>
    cases hj
    cases hx with
    | uncleared name e =>
      refine ⟨_, rfl, fun _ => Or.inl rfl, fun call e' he => ?_⟩
      cases List.mem_singleton.mp he
      exact ⟨⟨_, rfl⟩, rfl⟩
    | unread name e =>
      refine ⟨_, rfl, fun _ => Or.inl rfl, fun call e' he => ?_⟩
      cases List.mem_singleton.mp he
      exact ⟨⟨_, rfl⟩, rfl⟩
    | unremoved e => exact absurd List.mem_cons_self (hn e)
    | guest problem =>
      obtain ⟨f, rfl⟩ := hg problem List.mem_cons_self
      refine ⟨f, rfl, fun hf => hf f List.mem_cons_self, fun call e he => ?_⟩
      cases List.mem_singleton.mp he
  | late before e hb => exact absurd (by simp) (hn e)

/-- A file that could not be removed is all that counts. -/
theorem InHand.unremoved {hs : List Incident} {pending : Except Problem Drained}
    (h : InHand hs pending) {e : OsError} (he : .files .unlink e ∈ hs) :
    pending = .error (.os e) := by
  cases h with
  | drained d ht => cases he
  | once x problem hx =>
    cases List.mem_singleton.mp he
    cases hx
    rfl
  | late before e' hb =>
    rcases List.mem_append.mp he with h | h
    · exact absurd h (hb e)
    · cases List.mem_singleton.mp h
      rfl

theorem InHand.noticed {hs : List Incident} {pending : Except Problem Drained}
    (h : InHand hs pending)
    (hne : hs ≠ []) : ∃ problem, pending = .error problem := by
  cases h with
  | drained d ht => exact absurd rfl hne
  | once x problem hx => exact ⟨problem, rfl⟩
  | late before e hb => exact ⟨_, rfl⟩

end Call

/-- A whole invocation judges what it has in hand after its incidents, and reports that. -/
theorem Scene.invoke_inHand {s : Scene} {payload : Value} {content : Bytes} (hl : Reachable s)
    (ho : s.processor.closed = false) (hb : Payload.bytes payload = .ok content)
    (hc : ∀ scratch, s.processor.capture.scratch? = some scratch → scratch.path.Clean)
    (hr : ∀ closed module context v,
      (s.processor.backend.run closed module context v).KeepsToItself) :
    ∃ pending, Call.InHand (s.incidents payload) pending ∧
      (s.invoke payload).1 = Call.judge s.processor s.site.elapsed s.nextId pending ∧
      (s.invoke payload).2.site.journal =
        (s.reported (Call.startEvent s.processor s.nextId content ::
          Call.endReport s.site.elapsed s.nextId
            (Call.judge s.processor s.site.elapsed s.nextId pending))).site.journal := by
  have hclean : s.nextSink.Clean :=
    Capture.nextSink_clean (fun scratch h => ⟨hl.wellFormed h, hc scratch h⟩) s.nextId
  obtain ⟨n, result, s', -, he⟩ := Call.run_ends Scene.again (.admission payload) s
  let k := Call.stepsBeforeRun +
    (Call.steps Scene.again Call.stepsBeforeRun (.admission payload, s)).1.left
  have hk : Call.run Scene.again (.admission payload) s =
      Call.steps Scene.again k (.admission payload, s) :=
    (Call.steps_add Scene.again _ _ _).symm
  obtain ⟨events, hp, hi⟩ :=
    Call.steps_standing Scene.again hl.calm hl.usable ho hb hclean hr k
  have hinv : s.invoke payload = (result, s') := by
    unfold Scene.invoke
    rw [he]
    rfl
  rw [← hk, he] at hp hi
  have hs : Call.incidents Scene.again k (.admission payload, s) = s.incidents payload := rfl
  rw [hs] at hp
  rw [hinv]
  cases hp with
  | finished pending s' hs hp => exact ⟨pending, hp, rfl, hi.journal⟩

/-- Whatever fails at the files of an invocation, unless it is the removal of one, the answer is a
failure of the scratch directory with that error as its cause, and it is reported once, with the
number of the invocation. A file that cannot be removed is answered by the bare error, and nothing
is reported. -/
theorem invoke_reports {s : Scene} {payload : Value} {content : Bytes} (hl : Reachable s)
    (ho : s.processor.closed = false) (hb : Payload.bytes payload = .ok content)
    (hc : ∀ scratch, s.processor.capture.scratch? = some scratch → scratch.path.Clean)
    (hr : ∀ closed module context v,
      (s.processor.backend.run closed module context v).KeepsToItself) :
    ((∀ e, .files .unlink e ∉ s.incidents payload) →
      (∀ problem, .guest problem ∈ s.incidents payload → ∃ f, problem = .failure f) →
      ∀ problem, (s.invoke payload).1 = .error problem →
        ∃ f failed, problem = .failure f ∧ failed = Call.failedEvent s.site.elapsed s.nextId f ∧
          failed.name = "invocation.failed" ∧
          failed.field "invocation_id" = (if f.id.isTrue then f.id else Value.ofNat s.nextId) ∧
          ((∀ g, .guest (.failure g) ∈ s.incidents payload → g.Concerns s.nextId) →
            failed.field "invocation_id" = Value.ofNat s.nextId) ∧
          (s.invoke payload).2.site.journal = s.site.journal ++ s.processor.logger.heard
            [Call.startEvent s.processor s.nextId content, failed] ∧
          ∀ call e, .files call e ∈ s.incidents payload →
            (∃ cause, f = .scratch cause) ∧ f.cause? = some (.os e) ∧
              failed.field "invocation_id" = Value.ofNat s.nextId) ∧
    (∀ e, .files .unlink e ∈ s.incidents payload →
      (s.invoke payload).1 = .error (.os e) ∧
        (s.invoke payload).2.site.journal = s.site.journal ++ s.processor.logger.heard
          [Call.startEvent s.processor s.nextId content]) ∧
    (s.incidents payload ≠ [] → ∃ problem, (s.invoke payload).1 = .error problem) := by
  obtain ⟨pending, hp, hanswer, hjournal⟩ := Scene.invoke_inHand hl ho hb hc hr
  refine ⟨fun hn hg problem hj => ?_, fun e hx => ?_, fun hne => ?_⟩
  · rw [hanswer] at hj
    obtain ⟨f, rfl, hid, hf⟩ := hp.failure hn hg hj
    rw [hj] at hjournal
    refine ⟨f, _, rfl, rfl, rfl, rfl, fun hguest => (hid hguest).failedId, hjournal,
      fun call e he => ?_⟩
    obtain ⟨⟨cause, rfl⟩, hcause⟩ := hf call e he
    exact ⟨⟨cause, rfl⟩, hcause, rfl⟩
  · have hpend := hp.unremoved hx
    subst hpend
    exact ⟨hanswer, hjournal⟩
  · obtain ⟨problem, rfl⟩ := hp.noticed hne
    exact ⟨problem, hanswer⟩

namespace Sample

def loudAttempt : Attempt :=
  Processor.construct (.bytes .fixed [0]) none settings (.leveled 10) (fun _ => backend)
    ⟨volume, [], .zero⟩

def loudProcessor : Processor :=
  .fresh settings (.leveled 10) backend ⟨.null, .int 0, ""⟩ (.files scratch 0) [.compile [0]]

def jammed (call : Files.Call) : Scene :=
  .calm loudProcessor { loudAttempt.site with
    volume := { loudAttempt.site.volume with schedule := Schedule.quiet.failing call 13 1 } }

theorem jammed_reachable (call : Files.Call) : Reachable (jammed call) :=
  .elsewhere _ _ (.made (.bytes .fixed [0]) none settings (.leveled 10) (fun _ => backend)
    ⟨volume, [], .zero⟩ loudProcessor rfl)

theorem jammed_clean (call : Files.Call) (s : Scratch)
    (h : (jammed call).processor.capture.scratch? = some s) : s.path.Clean := by
  cases h
  show Char.ofNat 0 ∉ scratch.path.text.toList
  decide +kernel

theorem backend_keepsToItself (closed : Bool) (module : Option CompiledModule) (context : Context)
    (v : Volume) : (backend.run closed module context v).KeepsToItself where
  alone act ha := by
    simp only [backend, List.mem_cons, List.not_mem_nil, or_false] at ha
    rcases ha with rfl | rfl | rfl <;> trivial
  typed outcome ho := by
    cases ho
    exact ⟨none, rfl⟩

end Sample

namespace Call.Incident

def error? : Incident → Option (Files.Call × OsError)
  | .files call e => some (call, e)
  | .guest _ => none

theorem eq_of_errors {hs : List Incident} {call : Files.Call} {e : OsError}
    (h : hs.map error? = [some (call, e)]) : hs = [.files call e] := by
  obtain ⟨x, rfl, hx⟩ := List.map_eq_singleton_iff.mp h
  cases x with
  | files call e =>
    cases hx
    rfl
  | guest problem => cases hx

end Call.Incident

namespace Sample

theorem jammed_truncate : (jammed .truncate).incidents (.text "hi") =
    [.files .truncate (.coded 13 none)] :=
  Call.Incident.eq_of_errors (by decide +kernel)

theorem jammed_unlink : (jammed .unlink).incidents (.text "hi") =
    [.files .unlink (.coded 13 none)] :=
  Call.Incident.eq_of_errors (by decide +kernel)

end Sample

/-- The same error is wrapped and reported, or not, depending on the call. -/
theorem invoke_reports_sample :
    (∃ problem f, ((Sample.jammed .truncate).invoke (.text "hi")).1 = .error problem ∧
      problem = .failure f ∧ f.cause? = some (.os (.coded 13 none))) ∧
    ((Sample.jammed .unlink).invoke (.text "hi")).1 = .error (.os (.coded 13 none)) := by
  have h : ∀ call, _ := fun call => @invoke_reports (Sample.jammed call) (.text "hi") _
    (Sample.jammed_reachable call) rfl rfl (Sample.jammed_clean call) Sample.backend_keepsToItself
  obtain ⟨ht, -, hsome⟩ := h .truncate
  obtain ⟨-, hu, -⟩ := h .unlink
  rw [Sample.jammed_truncate] at ht hsome
  rw [Sample.jammed_unlink] at hu
  obtain ⟨problem, hp⟩ := hsome (by simp)
  obtain ⟨f, failed, hf, -, -, -, -, -, hcause⟩ := ht (by simp) (by simp) problem hp
  exact ⟨⟨problem, f, hp, hf, (hcause .truncate _ List.mem_cons_self).2.1⟩,
    (hu _ List.mem_cons_self).1⟩

def Call.bare? : Except Problem Result → Option OsError
  | .error (.os e) => some e
  | _ => none

/-- An open processor with files, of which the next removal is not permitted: the invocation raises
the bare error, and nothing but its start is reported. -/
theorem removal_unreported :
    Reachable (Sample.jammed .unlink) ∧ (Sample.jammed .unlink).processor.closed = false ∧
      (Sample.jammed .unlink).processor.capture = .files Sample.scratch 0 ∧
      Call.bare? ((Sample.jammed .unlink).invoke (.text "hi")).1 = some (.coded 13 none) ∧
      (OsError.coded 13 none).isMissing = false ∧
      ((Sample.jammed .unlink).invoke (.text "hi")).2.site.journal.length =
        (Sample.jammed .unlink).site.journal.length + 1 :=
  ⟨Sample.jammed_reachable _, rfl, rfl, by decide +kernel, by decide, by decide +kernel⟩

end GuestRunner
