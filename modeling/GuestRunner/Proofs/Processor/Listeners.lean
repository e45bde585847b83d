import GuestRunner.Proofs.Journal.Hearing
import GuestRunner.Proofs.Processor.Relogging
import GuestRunner.Proofs.Processor.Traffic

/-!
# Traffic does not depend on its listeners

However the steps of invocations and closings fall in, and whatever others do to the files
meanwhile, the traffic goes the same way whoever listens, and every listener hears the same events.
-/

set_option autoImplicit false

namespace GuestRunner

theorem Scene.Reports.own {α : Type} {f : Scene → α × Scene} {s after : Scene} {answer : α}
    {events : List Event} (h : Reports f s answer after events)
    (hu : s.processor.logger.Usable) :
    f s = (answer, after.relogged s.processor.logger
      (s.site.journal ++ s.processor.logger.heard events)) :=
  h.told s.processor.logger s.site.journal hu

namespace Traffic

open Scene

variable {κ ω : Type}

def relogged (t : Traffic κ ω) (logger : Logger) (journal : List Record) : Traffic κ ω :=
  { t with processor := t.processor.under logger, site := { t.site with journal } }

variable {t t' : Traffic κ ω}

structure Reports (moves : Traffic κ ω → Traffic κ ω → Prop) (t t' : Traffic κ ω)
    (events : List Event) : Prop where
  logger : t'.processor.logger = t.processor.logger
  journal : t'.site.journal = t.site.journal ++ t.processor.logger.heard events
  heardByAll : HeardByAll (fun logger journal journal' =>
    moves (t.relogged logger journal) (t'.relogged logger journal')) events

theorem reports_of_scene {α : Type} {f : Scene → α × Scene} {s after : Scene} {answer : α}
    {events : List Event} (h : Scene.Reports f s answer after events)
    (hu : s.processor.logger.Usable)
    {moves : Traffic κ ω → Traffic κ ω → Prop}
    (hp : t.processor = s.processor) (hs : t.site = s.site)
    (hp' : t'.processor = (f s).2.processor) (hs' : t'.site = (f s).2.site)
    (hm : ∀ (logger : Logger) (journal journal' : List Record),
      f (s.relogged logger journal) = ((f s).1, (f s).2.relogged logger journal') →
      moves (t.relogged logger journal) (t'.relogged logger journal')) :
    Reports moves t t' events := by
  have hown := h.own hu
  refine ⟨?_, ?_, h.imp fun logger journal journal' _ he => hm logger journal journal' ?_⟩
  · rw [hp', hp, hown]
    rfl
  · rw [hs', hs, hp, hown]
    rfl
  · rw [he, hown]
    rfl

variable [DecidableEq κ] [DecidableEq ω]

theorem step_reports (hu : t.processor.logger.Usable) (hs : Step Anyhow t t') :
    ∃ events, Reports (Step Anyhow) t t' events := by
  cases hs with
  | call k _ =>
    obtain ⟨answer, after, events, h⟩ :=
      Call.advance_loggerFree again_loggerFree (t.calls k) (t.view k)
    refine ⟨events, reports_of_scene h hu rfl rfl rfl rfl fun logger journal journal' hf => ?_⟩
    have hstep : (t.relogged logger journal).callStep k =
      (t.callStep k).relogged logger journal' := by
      have hf' : ((t.relogged logger journal).calls k).advance again
          ((t.relogged logger journal).view k) = _ := hf
      unfold callStep
      rw [hf']
      rfl
    exact hstep ▸ .call k trivial
  | closing w =>
    obtain ⟨answer, after, events, h⟩ := Closing.step_loggerFree (t.closings w) t.scene
    refine ⟨events, reports_of_scene h hu rfl rfl rfl rfl fun logger journal journal' hf => ?_⟩
    have hstep : (t.relogged logger journal).closingStep w =
        (t.closingStep w).relogged logger journal' := by
      have hf' : ((t.relogged logger journal).closings w).step
          (t.relogged logger journal).scene = _ := hf
      unfold closingStep
      rw [hf']
      rfl
    exact hstep ▸ .closing w
  | tick k =>
    obtain ⟨answer, after, events, h⟩ := tick_loggerFree (t.view k)
    refine ⟨events, reports_of_scene h hu rfl rfl rfl rfl fun logger journal journal' hf => ?_⟩
    have hstep : (t.relogged logger journal).tickStep k = (t.tickStep k).relogged logger journal' :=
      congrArg (fun r : Unit × Scene => (t.relogged logger journal).put k r.2) hf
    exact hstep ▸ .tick k
  | ring k =>
    obtain ⟨answer, after, events, h⟩ := ring_loggerFree (t.view k)
    refine ⟨events, reports_of_scene h hu rfl rfl rfl rfl fun logger journal journal' hf => ?_⟩
    have hstep : (t.relogged logger journal).ringStep k = (t.ringStep k).relogged logger journal' :=
      congrArg (fun r : Unit × Scene => (t.relogged logger journal).put k r.2) hf
    exact hstep ▸ .ring k
  | elsewhere volume elapsed =>
    refine ⟨[], rfl, ?_, .silent fun logger journal => .elsewhere volume elapsed⟩
    rw [Logger.heard_nil, List.append_nil]
    rfl

theorem Reports.trans {t'' : Traffic κ ω} {first rest : List Event}
    (h : Reports (Reaches Anyhow) t t' first) (h' : Reports (Step Anyhow) t' t'' rest) :
    Reports (Reaches Anyhow) t t'' (first ++ rest) where
  logger := h'.logger.trans h.logger
  journal := by rw [h'.journal, h.journal, h.logger, Logger.heard_append, List.append_assoc]
  heardByAll := h.heardByAll.andThen h'.heardByAll fun _ _ _ _ _ hr hs => hr.snoc hs

theorem reaches_reports (hu : t.processor.logger.Usable) (h : Reaches Anyhow t t') :
    ∃ events, Reports (Reaches Anyhow) t t' events := by
  induction h with
  | refl =>
    refine ⟨[], rfl, ?_, .silent fun logger journal => .refl _⟩
    rw [Logger.heard_nil, List.append_nil]
  | tail _ hs ih =>
    obtain ⟨first, hfirst⟩ := ih
    obtain ⟨rest, hrest⟩ := step_reports (hfirst.logger ▸ hu) hs
    exact ⟨first ++ rest, hfirst.trans hrest⟩

end Traffic

end GuestRunner
