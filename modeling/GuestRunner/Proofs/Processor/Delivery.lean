import GuestRunner.Proofs.Processor.Protocol
import GuestRunner.Proofs.Text.Utf8

/-!
# The payload on its way to the guest

The bytes of a payload are a text again when they reach the guest. A text that is well-formed comes
through as it is, also between bytes that are no text, so the guest finds what was asked for. To see
that its run is never taken back, deeds are followed through all steps: they are only added to.
-/

set_option autoImplicit false

namespace GuestRunner

open Scene

/-! ### Deeds are only added to -/

theorem Closing.step_deeds (k : Closing) (s : Scene) :
    s.processor.deeds <+: (k.step s).2.processor.deeds := by
  cases k with
  | request =>
    simp only [step]
    split <;> exact List.prefix_refl _
  | detaching =>
    simp only [step]
    split <;> exact List.prefix_append _ _
  | cleaning scratch c => cases c <;> exact List.prefix_refl _
  | shutting removed => exact List.prefix_append _ _
  | dropping removed => cases removed <;> exact List.prefix_refl _
  | _ => exact List.prefix_refl _

theorem Scene.close_deeds (s : Scene) : s.processor.deeds <+: s.close.2.processor.deeds := by
  obtain ⟨result, s', hr, hd⟩ := Closing.run_keeps
    (Q := fun _ s' => s.processor.deeds <+: s'.processor.deeds)
    (fun k s' h => h.trans (k.step_deeds s')) (k := .request) (s := s) (List.prefix_refl _)
  unfold Scene.close
  rw [hr]
  exact hd

namespace Call

variable {again : Again} {c c' : Call} {s s' : Scene} {payload : Value} {content : Bytes}

def Again.Adds (again : Again) : Prop :=
  ∀ payload s, s.processor.deeds <+: (again payload s).2.processor.deeds

theorem perform_deeds (ha : again.Adds) (sink : Sink) (act : Act) (s : Scene) :
    s.processor.deeds <+: (perform again sink act s).2.processor.deeds := by
  cases act with
  | process stream payload =>
    have h := ha payload s
    simp only [perform]
    split <;> rename_i he <;> rw [he] at h <;> exact h
  | closeProcessor => exact s.close_deeds
  | wait =>
    have hp : (perform again sink .wait s).2.processor = s.processor := s.ring_same.1
    exact hp ▸ List.prefix_refl _
  | _ => exact List.prefix_refl _

theorem Move.deeds (h : Move again c s c' s') (ha : again.Adds) :
    s.processor.deeds <+: s'.processor.deeds := by
  have hsame : ∀ {s' : Scene}, s.processor = s'.processor →
      s.processor.deeds <+: s'.processor.deeds := fun hp => hp ▸ List.prefix_refl _
  cases h with
  | announced id module payload s s' content h he =>
    exact hsame (congrArg (fun r => r.2.processor) he)
  | unannounced id module payload s s' content problem h he =>
    exact hsame (congrArg (fun r => r.2.processor) he)
  | acted id sink sink' act rest ending s s' h =>
    have hd := perform_deeds ha sink act s
    rwa [h] at hd
  | stumbled id sink act rest ending s s' problem h =>
    have hd := perform_deeds ha sink act s
    rw [h] at hd
    exact hd.trans (List.prefix_append _ _)
  | settled id pending s s' result h =>
    have hp := (@Move.settled again id pending s s' result h).past trivial
    exact hsame hp.2.symm
  | clearedErr | started | broken | drained => exact List.prefix_append _ _
  | unread | drainedError => exact (List.prefix_append _ _).trans (List.prefix_append _ _)
  | _ => exact List.prefix_refl _

theorem step_deeds (ha : again.Adds) (c : Call) (s : Scene) :
    s.processor.deeds <+: (step again c s).2.processor.deeds := by
  rcases step_move again c s with h | h
  · exact h.deeds ha
  · have hd := h.deeds ha
    rwa [s.tick_same.1] at hd

theorem steps_deeds (ha : again.Adds) (n : Nat) (c : Call) (s : Scene) :
    s.processor.deeds <+: (steps again n (c, s)).2.processor.deeds :=
  steps_keep (Q := fun _ s' => s.processor.deeds <+: s'.processor.deeds)
    (fun c s' h => h.trans (step_deeds ha c s')) n c s (List.prefix_refl _)

end Call

theorem Scene.invokeWithin_adds (depth : Nat) :
    Call.Again.Adds fun payload s => outputOnly (invokeWithin depth payload s) := by
  induction depth with
  | zero => exact fun _ _ => List.prefix_refl _
  | succ depth ih =>
    intro payload s
    obtain ⟨n, result, s', hn, -⟩ := Call.run_ends
      (fun payload s => outputOnly (invokeWithin depth payload s)) (.admission payload) s
    have hd := Call.steps_deeds ih n (.admission payload) s
    rw [← hn] at hd
    exact hd

/-! ### Up to the run -/

namespace Call

variable {again : Again} {s : Scene} {payload : Value} {content : Bytes}

theorem steps_finished (again : Again) (n : Nat) (result : Except Problem Result) (s : Scene) :
    steps again n (.finished result, s) = (.finished result, s) := by
  induction n with
  | zero => rfl
  | succ n ih => rw [steps_succ, ih, step]

theorem run_continues {n : Nat} {c c' : Call} {s' : Scene}
    (h : steps again n (c, s) = (c', s')) (hn : n ≤ stepsBeforeRun) :
    ∃ k, run again c s = steps again k (c', s') := by
  obtain ⟨d, hd⟩ := Nat.exists_eq_add_of_le hn
  let k := (steps again stepsBeforeRun (c, s)).1.left
  refine ⟨d + k, ?_⟩
  calc run again c s = steps again (stepsBeforeRun + k) (c, s) := (steps_add again _ _ _).symm
    _ = steps again (n + (d + k)) (c, s) := by rw [hd, Nat.add_assoc]
    _ = steps again (d + k) (c', s') := by rw [steps_add, h]

theorem step_settling (ha : s.alarm = .off) (hu : s.processor.logger.Usable) (id : Nat)
    (problem : Problem) : ∃ s', step again (.settling id (.error problem)) s =
      (.finished (.error problem), s') ∧ s'.processor = s.processor := by
  rw [step_calm again _ ha, advance, settle_usable hu]
  exact ⟨_, rfl, rfl⟩

/-- An invocation that cannot open its sink answers with the problem and has asked for nothing. -/
theorem run_barred {problem : Problem} (ha : s.alarm = .off)
    (hu : s.processor.logger.Usable) (ho : s.processor.closed = false)
    (hp : Payload.bytes payload = .ok content)
    (hs : (s.nextSink.prepare s.site.volume).1 = .error problem) :
    ∃ s', run again (.admission payload) s = (.finished (.error problem), s') ∧
      s'.processor.deeds = s.processor.deeds := by
  let s₃ := s.admitting.reported [startEvent s.processor s.nextId content]
  let s₄ := s₃.withCapture (s.processor.capture.nextSink (Value.ofNat s.nextId)).2
  have h3 : steps again 3 (.admission payload, s) = (.opening (s.nextJob content), s₃) :=
    steps_entering again ha hu ho hp
  have h4 : steps again 4 (.admission payload, s) =
      (.clearing (s.nextJob content) s.nextSink .stdout, s₄) := by
    rw [steps_succ, h3, step_calm again _ (s := s₃) ha]
    rfl
  -- The sink is given up at its first stream or at its second.
  have hstuck : ∃ n v, n + 1 ≤ stepsBeforeRun ∧ steps again n (.admission payload, s) =
      (.settling s.nextId (.error problem), s₄.withVolume v) := by
    unfold Sink.prepare at hs
    split at hs <;> rename_i v hout
    · obtain ⟨v', herr⟩ : ∃ v', s.nextSink.clear .stderr v = (.error problem, v') :=
        ⟨_, Prod.ext hs rfl⟩
      refine ⟨6, v', by decide, ?_⟩
      have h5 : steps again 5 (.admission payload, s) =
          (.clearing (s.nextJob content) s.nextSink .stderr, s₄.withVolume v) := by
        rw [steps_succ, h4, step_calm again _ (s := s₄) ha]
        simp only [advance, show s₄.site.volume = s.site.volume from rfl, hout]
      rw [steps_succ, h5, step_calm again _ (s := s₄.withVolume v) ha]
      simp only [advance, show (s₄.withVolume v).site.volume = v from rfl, herr]
      rfl
    · cases hs
      refine ⟨5, v, by decide, ?_⟩
      rw [steps_succ, h4, step_calm again _ (s := s₄) ha]
      simp only [advance, show s₄.site.volume = s.site.volume from rfl, hout]
      rfl
  obtain ⟨n, v, hn, hsteps⟩ := hstuck
  obtain ⟨s', hstep, hp'⟩ := @step_settling again (s₄.withVolume v) ha hu s.nextId problem
  have hlast : steps again (n + 1) (.admission payload, s) = (.finished (.error problem), s') := by
    rw [steps_succ, hsteps, hstep]
  obtain ⟨k, hk⟩ := run_continues hlast hn
  rw [steps_finished] at hk
  exact ⟨s', hk, by rw [hp']; rfl⟩

/-- An invocation that can open its sink makes its run, with its own number and payload. -/
theorem run_delivers (hadds : again.Adds) (ha : s.alarm = .off)
    (hu : s.processor.logger.Usable) (ho : s.processor.closed = false)
    (hp : Payload.bytes payload = .ok content)
    (hs : (s.nextSink.prepare s.site.volume).1 = .ok ()) :
    s.processor.deeds ++ [.openSink s.nextSink,
        .run s.processor.module (contextOf s.processor (s.nextJob content) s.nextSink)] <+:
      (run again (.admission payload) s).2.processor.deeds := by
  unfold Sink.prepare at hs
  split at hs <;> rename_i v hout
  · obtain ⟨v', herr⟩ : ∃ v', s.nextSink.clear .stderr v = (.ok (), v') := ⟨_, Prod.ext hs rfl⟩
    let s₃ := s.admitting.reported [startEvent s.processor s.nextId content]
    let s₆ := ((s₃.withCapture (s.processor.capture.nextSink (Value.ofNat s.nextId)).2).withVolume
      v').did (.openSink s.nextSink)
    have h6 : steps again 6 (.admission payload, s) =
        (.starting (s.nextJob content) s.nextSink, s₆) := by
      rw [show 6 = 3 + 3 from rfl, steps_add, steps_entering again ha hu ho hp]
      exact steps_clearing again (s := s₃) ha rfl hout herr
    let s₇ := s₆.did
      (.run s.processor.module (contextOf s.processor (s.nextJob content) s.nextSink))
    obtain ⟨c, h7⟩ : ∃ c, steps again 7 (.admission payload, s) = (c, s₇) := by
      rw [steps_succ, h6, step_calm again _ (s := s₆) ha]
      exact ⟨_, rfl⟩
    have hd : s₇.processor.deeds = s.processor.deeds ++ [_, _] := List.append_assoc _ [_] [_]
    obtain ⟨k, hk⟩ := run_continues h7 (Nat.le_refl 7)
    rw [hk, ← hd]
    exact steps_deeds hadds k c s₇
  · cases hs

end Call

/-- Any text between any bytes is decoded as it is, and what stands before and after it as if it
were alone. So the guest that an open processor runs for a text, whatever has happened to the
processor, finds exactly this text after the name of the program; and if the sink cannot be opened,
there is no run, and the answer says so. -/
theorem text_delivered :
    (∀ (before after : Bytes) (text : String), text ≠ "" →
      Payload.text (before ++ Text.Utf8.encode text ++ after) =
        Payload.text before ++ text ++ Payload.text after) ∧
    (∀ text, Payload.text (Text.Utf8.encode text) = text) ∧
    ∀ {s : Scene}, Reachable s → s.processor.closed = false → ∀ text,
      ((s.nextSink.prepare s.site.volume).1 = .ok () → ∃ context rest,
        (s.invoke (.text text)).2.processor.deeds =
          s.processor.deeds ++
            (.openSink s.nextSink :: .run s.processor.module context :: rest) ∧
        context.id = Value.ofNat s.nextId ∧ context.sink = s.nextSink ∧
        context.arguments = [.text s.processor.settings.programName, .text text]) ∧
      ∀ problem, (s.nextSink.prepare s.site.volume).1 = .error problem →
        (s.invoke (.text text)).1 = .error problem ∧
        (s.invoke (.text text)).2.processor.deeds = s.processor.deeds := by
  refine ⟨fun before after text h => Text.Utf8.decode_between h before after,
    Text.Utf8.decode_encode, ?_⟩
  intro s hl ho text
  have hbytes : Payload.bytes (.text text) = .ok (Text.Utf8.encode text) := rfl
  constructor
  · intro hs
    obtain ⟨rest, hrest⟩ := Call.run_delivers (Scene.invokeWithin_adds nestingLimit) hl.calm
      hl.usable ho hbytes hs
    refine ⟨Call.contextOf s.processor (s.nextJob (Text.Utf8.encode text)) s.nextSink, rest,
      ?_, rfl,
      rfl, ?_⟩
    · rw [List.append_assoc] at hrest
      exact hrest.symm
    · exact congrArg (fun t => [_, Value.text t]) (Text.Utf8.decode_encode text)
  · intro problem hs
    obtain ⟨s', hr, hd⟩ : ∃ s', Call.run Scene.again (.admission (.text text)) s =
        (.finished (.error problem), s') ∧ s'.processor.deeds = s.processor.deeds :=
      Call.run_barred hl.calm hl.usable ho hbytes hs
    unfold Scene.invoke
    rw [hr]
    exact ⟨rfl, hd⟩

/-- The euro sign stands between a character that breaks off and one that has no beginning, and a
guest is given it as it is. -/
theorem text_delivered_sample :
    Payload.text ([0xE2, 0x82] ++ Text.Utf8.encode "€" ++ [0x82, 0xAC]) = "\uFFFD€\uFFFD\uFFFD" ∧
    ∃ context rest, (Sample.scene.invoke (.text "€")).2.processor.deeds =
        Sample.scene.processor.deeds ++ (.openSink Sample.scene.nextSink ::
          .run Sample.scene.processor.module context :: rest) ∧
      context.id = .int 1 ∧ context.arguments = [.text "wasi_processor", .text "€"] := by
  obtain ⟨hbetween, -, hgiven⟩ := text_delivered
  constructor
  · rw [hbetween _ _ _ (by decide)]
    decide +kernel
  · obtain ⟨context, rest, hdeeds, hid, -, hargs⟩ :=
      (hgiven Sample.scene_reachable rfl "€").1 rfl
    exact ⟨context, rest, hdeeds, hid, hargs⟩

end GuestRunner
