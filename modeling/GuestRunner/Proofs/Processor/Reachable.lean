import GuestRunner.Processor.Construction
import GuestRunner.Processor.Deadline
import GuestRunner.Proofs.Call.Ending
import GuestRunner.Proofs.Journal.Acceptance
import GuestRunner.Proofs.Scratch.Names

/-!
# The life of a processor

A processor lives from its construction on, through the steps of any invocations and closings in any
order, while anything may happen to the files around it. Its settings, its logger, its backend and
its scratch directory stay what they were, and nobody is in a hurry between the steps.
-/

set_option autoImplicit false

namespace GuestRunner

namespace Scene

structure Continued (s s' : Scene) : Prop where
  settings : s'.processor.settings = s.processor.settings
  logger : s'.processor.logger = s.processor.logger
  backend : s'.processor.backend = s.processor.backend
  scratch : s'.processor.capture.scratch? = s.processor.capture.scratch?
  calm : s.alarm = .off → s'.alarm = .off

theorem Continued.refl (s : Scene) : Continued s s := ⟨rfl, rfl, rfl, rfl, id⟩

theorem Continued.trans {s s' s'' : Scene} (h : Continued s s') (h' : Continued s' s'') :
    Continued s s'' where
  settings := h'.settings.trans h.settings
  logger := h'.logger.trans h.logger
  backend := h'.backend.trans h.backend
  scratch := h'.scratch.trans h.scratch
  calm ha := h'.calm (h.calm ha)

theorem emit_continued (s : Scene) (event : Event) : Continued s (s.emit event).2 := by
  refine ⟨rfl, rfl, rfl, rfl, ?_⟩
  intro h
  exact h

theorem expire_continued (s : Scene) (deadline : Value) : Continued s (s.expire deadline).2 := by
  rw [expire_scene]
  exact s.emit_continued _

theorem ring_continued (s : Scene) : Continued s s.ring := by
  unfold ring
  split
  · rename_i deadline steps ha
    obtain ⟨hs, hl, hb, hc, -⟩ := s.expire_continued deadline
    exact ⟨hs, hl, hb, hc, fun h => by rw [ha] at h; cases h⟩
  · exact .refl s

theorem tick_continued (s : Scene) : Continued s s.tick := by
  unfold tick
  split
  · exact s.ring_continued
  · rename_i ha
    exact ⟨rfl, rfl, rfl, rfl, fun h => by rw [ha] at h; cases h⟩
  · exact .refl s

end Scene

open Scene

theorem Capture.nextSink_scratch (c : Capture) (id : Value) :
    (c.nextSink id).2.scratch? = c.scratch? := by
  cases c <;> rfl

theorem Closing.step_continued (k : Closing) (s : Scene) : Continued s (k.step s).2 := by
  cases k with
  | request =>
    simp only [step]
    split <;> exact ⟨rfl, rfl, rfl, rfl, id⟩
  | detaching =>
    simp only [step]
    split <;> exact ⟨rfl, rfl, rfl, rfl, id⟩
  | cleaning scratch c => cases c <;> exact ⟨rfl, rfl, rfl, rfl, id⟩
  | shutting removed => exact ⟨rfl, rfl, rfl, rfl, id⟩
  | dropping removed => cases removed <;> exact ⟨rfl, rfl, rfl, rfl, id⟩
  | reporting removed => exact s.emit_continued _
  | finished result => exact .refl s

theorem Closing.steps_continued (n : Nat) (k : Closing) (s : Scene) :
    Continued s (steps n (k, s)).2 := by
  induction n with
  | zero => exact .refl s
  | succ n ih => exact ih.trans (step_continued _ _)

theorem Scene.close_continued (s : Scene) : Continued s s.close.2 :=
  (Closing.steps_continued 3 .request s).trans (Closing.steps_continued _ _ _)

namespace Call

theorem perform_continued {again : Again} (ha : ∀ payload s, Continued s (again payload s).2)
    (sink : Sink)
    (act : Act) (s : Scene) : Continued s (perform again sink act s).2 := by
  cases act with
  | process stream payload =>
    have h := ha payload s
    simp only [perform]
    split <;> rename_i he <;> rw [he] at h
    · exact ⟨h.settings, h.logger, h.backend, h.scratch, h.calm⟩
    · exact h
  | closeProcessor => exact s.close_continued
  | wait => exact s.ring_continued
  | _ => exact ⟨rfl, rfl, rfl, rfl, id⟩

theorem Move.continued {again : Again} {c c' : Call} {s s' : Scene} (h : Move again c s c' s')
    (ha : ∀ payload s, Continued s (again payload s).2) : Continued s s' := by
  cases h with
  | announced id module payload s s' content h hs =>
    have hk := s.emit_continued (startEvent s.processor id content)
    rwa [hs] at hk
  | unannounced id module payload s s' content problem h hs =>
    have hk := s.emit_continued (startEvent s.processor id content)
    rwa [hs] at hk
  | opened job s => exact ⟨rfl, rfl, rfl, s.processor.capture.nextSink_scratch _, id⟩
  | acted id sink sink' act rest ending s s' h =>
    have hk := perform_continued ha sink act s
    rwa [h] at hk
  | stumbled id sink act rest ending s s' problem h =>
    have hk := perform_continued ha sink act s
    rw [h] at hk
    exact ⟨hk.settings, hk.logger, hk.backend, hk.scratch, hk.calm⟩
  | settled id pending s s' result h =>
    have hs : s' = (settle id pending s).2 := by rw [h]
    subst hs
    unfold settle
    dsimp only
    split
    · exact s.emit_continued _
    · exact s.emit_continued _
    · exact .refl s
  | _ => exact ⟨rfl, rfl, rfl, rfl, id⟩

theorem step_continued {again : Again} (ha : ∀ payload s, Continued s (again payload s).2)
    (c : Call)
    (s : Scene) : Continued s (step again c s).2 := by
  rcases step_move again c s with h | h
  · exact h.continued ha
  · exact s.tick_continued.trans (h.continued ha)

theorem run_continued {again : Again} (ha : ∀ payload s, Continued s (again payload s).2) (c : Call)
    (s : Scene) : Continued s (run again c s).2 := by
  obtain ⟨result, s', hr, hk⟩ := run_keeps again (Q := fun _ s' => Continued s s')
    (fun c s' h => h.trans (step_continued ha c s')) (c := c) (s := s) (.refl s)
  rw [hr]
  exact hk

end Call

namespace Scene

theorem invokeWithin_continued (depth : Nat) (payload : Value) (s : Scene) :
    Continued s (invokeWithin depth payload s).2 := by
  induction depth generalizing payload s with
  | zero => exact .refl s
  | succ depth ih => exact Call.run_continued (fun payload s => ih payload s) _ s

theorem again_continued (payload : Value) (s : Scene) : Continued s (again payload s).2 :=
  invokeWithin_continued nestingLimit payload s

theorem invoke_continued (payload : Value) (s : Scene) : Continued s (s.invoke payload).2 :=
  Call.run_continued again_continued _ s

theorem passed_continued (deadline : Value) (s : Scene) : Continued s (s.passed deadline).2 :=
  s.expire_continued deadline

theorem awaited_continued (deadline : Value) (result : Except Problem Result) (s : Scene) :
    (s.awaited deadline result).2.alarm = .off ∧
      Continued { s with alarm := .off } (s.awaited deadline result).2 := by
  unfold awaited
  dsimp only
  split
  · exact ⟨rfl, .refl _⟩
  · split
    · have h := passed_continued deadline { s with alarm := .off }
      exact ⟨h.calm rfl, h⟩
    · exact ⟨rfl, .refl _⟩

theorem invokeUnder_continued (deadline : Value) (steps : Option Nat) (payload : Value)
    (s : Scene) :
    Continued s (s.invokeUnder deadline steps payload).2 := by
  unfold invokeUnder
  split
  · exact .refl s
  · exact s.passed_continued deadline
  · have h := invoke_continued payload { s with alarm := .set deadline steps }
    obtain ⟨ho, hk⟩ := awaited_continued deadline
      (invoke payload { s with alarm := .set deadline steps }).1
      (invoke payload { s with alarm := .set deadline steps }).2
    exact ⟨hk.settings.trans h.settings, hk.logger.trans h.logger, hk.backend.trans h.backend,
      hk.scratch.trans h.scratch, fun _ => ho⟩

theorem invokeAsync_continued (payload given : Value) (steps : Option Nat) (s : Scene) :
    Continued s (s.invokeAsync payload given steps).2 := by
  unfold invokeAsync
  split
  · exact s.invoke_continued payload
  · exact s.invokeUnder_continued _ steps payload

end Scene

theorem Capture.create_wellFormed {kind : CaptureKind} {directory : Option String}
    {v v' : Files.Volume} {c : Capture} (h : create kind directory v = (.ok c, v')) :
    ∀ scratch, c.scratch? = some scratch → scratch.WellFormed := by
  intro scratch hs
  cases kind with
  | buffered =>
    cases h
    cases hs
  | file =>
    simp only [create] at h
    split at h <;> rename_i he
    · cases h
      cases hs
      exact Scratch.create_wellFormed he
    · cases h

namespace Processor

theorem attachCapture_made {settings : Settings} {logger : Logger} {backend : Backend}
    {m : CompiledModule} {deeds : List Deed} {site : Site} {p : Processor}
    (h : (attachCapture settings logger backend m deeds site).outcome = .ok p) :
    p.logger = logger ∧ ∀ scratch, p.capture.scratch? = some scratch → scratch.WellFormed := by
  unfold attachCapture at h
  split at h <;> rename_i hc
  · cases h
  · rename_i capture volume
    obtain ⟨done, site', he⟩ : ∃ done site', (fresh settings logger backend m capture
        deeds).reportScratch { site with volume } = (done, site') := ⟨_, _, rfl⟩
    simp only [he] at h
    cases done with
    | error problem => cases h
    | ok _ =>
      cases h
      exact ⟨rfl, Capture.create_wellFormed hc⟩

/-- A processor that was made has a usable logger and, with files, a directory for them. -/
theorem construct_made {wasm : Value} {directory : Option String} {settings : Settings}
    {logger : Logger} {backend : Settings → Backend} {site : Site} {p : Processor}
    (h : (construct wasm directory settings logger backend site).outcome = .ok p) :
    p.logger.Usable ∧ ∀ scratch, p.capture.scratch? = some scratch → scratch.WellFormed := by
  unfold construct at h
  dsimp only at h
  split at h
  · cases h
  · unfold compileAndAttach at h
    dsimp only at h
    split at h
    · cases h
    · split at h <;> rename_i he
      · cases h
      · obtain ⟨hl, ht⟩ := attachCapture_made h
        refine ⟨?_, ht⟩
        rw [hl]
        unfold Site.record at he
        split at he <;> rename_i hr
        · exact Logger.usable_of_record rfl hr
        · cases he

end Processor

/-- The states that a processor can be in. Any number of invocations and closings may be under way,
wherever they stand, and the site may become another one in between. -/
inductive Reachable : Scene → Prop
  | made (wasm : Value) (directory : Option String) (settings : Settings) (logger : Logger)
    (backend : Settings → Backend) (site : Site) (p : Processor)
    (h : (Processor.construct wasm directory settings logger backend site).outcome = .ok p) :
    Reachable (.calm p (Processor.construct wasm directory settings logger backend site).site)
  | worked (c : Call) (s : Scene) (h : Reachable s) : Reachable (c.step Scene.again s).2
  | closing (k : Closing) (s : Scene) (h : Reachable s) : Reachable (k.step s).2
  | awaited (payload given : Value) (steps : Option Nat) (s : Scene) (h : Reachable s) :
    Reachable (s.invokeAsync payload given steps).2
  | elsewhere (s : Scene) (site : Site) (h : Reachable s) : Reachable { s with site }

namespace Reachable

/-- What holds of a processor from its construction on. -/
theorem made_of {s : Scene} (h : Reachable s) : s.alarm = .off ∧ s.processor.logger.Usable ∧
    ∀ scratch, s.processor.capture.scratch? = some scratch → scratch.WellFormed := by
  have hcont : ∀ {s s' : Scene}, Continued s s' → (s.alarm = .off ∧ s.processor.logger.Usable ∧
      ∀ scratch, s.processor.capture.scratch? = some scratch → scratch.WellFormed) →
      s'.alarm = .off ∧ s'.processor.logger.Usable ∧
      ∀ scratch, s'.processor.capture.scratch? = some scratch → scratch.WellFormed := by
    intro s s' hk ⟨ha, hu, ht⟩
    exact ⟨hk.calm ha, hk.logger ▸ hu, hk.scratch ▸ ht⟩
  induction h with
  | made wasm directory settings logger backend site p h =>
    exact ⟨rfl, Processor.construct_made h⟩
  | worked c s h ih => exact hcont (Call.step_continued again_continued c s) ih
  | closing k s h ih => exact hcont (k.step_continued s) ih
  | awaited payload given steps s h ih =>
    exact hcont (s.invokeAsync_continued payload given steps) ih
  | elsewhere s site h ih => exact ih

theorem calm {s : Scene} (h : Reachable s) : s.alarm = .off := h.made_of.1

theorem usable {s : Scene} (h : Reachable s) : s.processor.logger.Usable := h.made_of.2.1

theorem wellFormed {s : Scene} (h : Reachable s) {scratch : Scratch}
    (hs : s.processor.capture.scratch? = some scratch) : scratch.WellFormed :=
  h.made_of.2.2 scratch hs

theorem invoke {s : Scene} (h : Reachable s) (payload : Value) :
    Reachable (s.invoke payload).2 := by
  obtain ⟨result, s', hr, hl⟩ := Call.run_keeps Scene.again (Q := fun _ s => Reachable s)
    (fun c s h => worked c s h) (c := .admission payload) (s := s) h
  unfold Scene.invoke
  rw [hr]
  exact hl

theorem close {s : Scene} (h : Reachable s) : Reachable s.close.2 := by
  have hs : ∀ n k s, Reachable s → Reachable (Closing.steps n (k, s)).2 := by
    intro n k s h
    induction n with
    | zero => exact h
    | succ n ih => exact closing _ _ ih
  exact hs _ _ _ (hs 3 .request s h)

end Reachable

end GuestRunner
