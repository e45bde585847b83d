import Mathlib.Logic.Function.Basic
import Mathlib.Logic.Relation
import GuestRunner.Proofs.Call.Terms
import GuestRunner.Proofs.Processor.Ending
import GuestRunner.Proofs.Processor.Reachable

/-!
# Traffic on a processor

Any number of invocations and closings of one processor are under way, and make their steps in any
order. Each invocation is awaited under an alarm of its own, which may go off at any time, before
the invocation has started and after it has ended as well. Others may work on the files in between.
Whole invocations and closings, with a deadline or without, are runs of such steps.
-/

set_option autoImplicit false

namespace GuestRunner

open Files

structure Traffic (κ ω : Type) where
  processor : Processor
  site : Site
  calls : κ → Call
  alarms : κ → Alarm
  /-- What the steps of each invocation have shown. -/
  trails : κ → Call.Trail
  closings : ω → Closing

namespace Traffic

variable {κ ω : Type}

def start (p : Processor) (site : Site) (payloads : κ → Value) (alarms : κ → Alarm) :
    Traffic κ ω :=
  ⟨p, site, fun k => .admission (payloads k), alarms, fun _ => .start, fun _ => .request⟩

def scene (t : Traffic κ ω) : Scene := .calm t.processor t.site

def view (t : Traffic κ ω) (k : κ) : Scene := ⟨t.processor, t.site, t.alarms k⟩

structure Apart (k : κ) (t t' : Traffic κ ω) : Prop where
  calls : ∀ j, j ≠ k → t'.calls j = t.calls j
  alarms : ∀ j, j ≠ k → t'.alarms j = t.alarms j
  trails : ∀ j, j ≠ k → t'.trails j = t.trails j
  closings : t'.closings = t.closings

def elsewhere (t : Traffic κ ω) (volume : Volume) (elapsed : Binary64) : Traffic κ ω :=
  { t with site := { t.site with volume, elapsed } }

def Anyhow (_ : Traffic κ ω) (_ : κ) : Prop := True

section Call

variable [DecidableEq κ]

def put (t : Traffic κ ω) (k : κ) (s : Scene) : Traffic κ ω :=
  { t with processor := s.processor, site := s.site, alarms := Function.update t.alarms k s.alarm }

def callStep (t : Traffic κ ω) (k : κ) : Traffic κ ω :=
  let next := (t.calls k).advance Scene.again (t.view k)
  { t.put k next.2 with
    calls := Function.update t.calls k next.1
    trails := Function.update t.trails k ((t.trails k).next (t.calls k) (t.view k)) }

def tickStep (t : Traffic κ ω) (k : κ) : Traffic κ ω := t.put k (t.view k).tick

def ringStep (t : Traffic κ ω) (k : κ) : Traffic κ ω := t.put k (t.view k).ring

theorem callStep_apart (t : Traffic κ ω) (k : κ) : Apart k t (t.callStep k) where
  calls _ hj := Function.update_of_ne hj _ _
  alarms _ hj := Function.update_of_ne hj _ _
  trails _ hj := Function.update_of_ne hj _ _
  closings := rfl

@[simp] theorem callStep_call (t : Traffic κ ω) (k : κ) :
    (t.callStep k).calls k = ((t.calls k).advance Scene.again (t.view k)).1 := by
  simp [callStep]

theorem callStep_admission {t : Traffic κ ω} {k : κ} {payload : Value}
    (hc : t.processor.closed = true)
    (hk : t.calls k = .admission payload) :
    t.callStep k = { t with
      calls := Function.update t.calls k (.finished (.error (.failure .processorClosed))) } := by
  have ha : (t.calls k).advance Scene.again (t.view k) =
      (.finished (.error (.failure .processorClosed)), t.view k) := by
    rw [hk]
    simp [Call.advance, view, hc]
  have htrail : (t.trails k).next (t.calls k) (t.view k) = t.trails k := by
    rw [hk]
    simp [Call.Trail.next, view, hc]
  simp only [callStep, ha, htrail, put]
  simp [view]

/-- Who comes to an open one is given the next number. -/
theorem callStep_admitted {t : Traffic κ ω} {k : κ} {payload : Value}
    (hc : t.processor.closed = false) (hk : t.calls k = .admission payload) :
    t.callStep k = { t with
      processor := (t.view k).admitting.processor
      calls := Function.update t.calls k (.fetching (t.processor.accepted + 1) payload)
      trails := Function.update t.trails k
        { t.trails k with id := some (t.processor.accepted + 1) } } := by
  have ha : (t.calls k).advance Scene.again (t.view k) =
      (.fetching (t.processor.accepted + 1) payload, (t.view k).admitting) := by
    rw [hk]
    simp [Call.advance, view, hc, Scene.admitting]
  have htrail : (t.trails k).next (t.calls k) (t.view k) =
      { t.trails k with id := some (t.processor.accepted + 1) } := by
    rw [hk]
    simp [Call.Trail.next, view, hc]
  simp only [callStep, ha, htrail, put]
  simp [view, Scene.admitting]

theorem callStep_finished {t : Traffic κ ω} {k : κ} {result : Except Problem Result}
    (hk : t.calls k = .finished result) : t.callStep k = t := by
  have ha : (t.calls k).advance Scene.again (t.view k) = (t.calls k, t.view k) := by
    rw [hk]
    rfl
  have htrail : (t.trails k).next (t.calls k) (t.view k) = t.trails k := by
    rw [hk]
    rfl
  simp only [callStep, ha, htrail, put]
  simp [view]

end Call

def closingStep [DecidableEq ω] (t : Traffic κ ω) (w : ω) : Traffic κ ω :=
  let next := (t.closings w).step t.scene
  { t with
    processor := next.2.processor
    site := next.2.site
    closings := Function.update t.closings w next.1 }

variable [DecidableEq κ] [DecidableEq ω]

inductive Step (held : Traffic κ ω → κ → Prop) (t : Traffic κ ω) : Traffic κ ω → Prop
  | call (k : κ) (h : held t k) : Step held t (t.callStep k)
  | closing (w : ω) : Step held t (t.closingStep w)
  | tick (k : κ) : Step held t (t.tickStep k)
  | ring (k : κ) : Step held t (t.ringStep k)
  | elsewhere (volume : Volume) (elapsed : Binary64) : Step held t (t.elsewhere volume elapsed)

def Reaches (held : Traffic κ ω → κ → Prop) : Traffic κ ω → Traffic κ ω → Prop :=
  Relation.ReflTransGen (Step held)

variable {held : Traffic κ ω → κ → Prop} {t t' t'' : Traffic κ ω} {k : κ} {w : ω}

namespace Reaches

theorem refl (t : Traffic κ ω) : Reaches held t t := Relation.ReflTransGen.refl

theorem snoc (h : Reaches held t t') (hs : Step held t' t'') : Reaches held t t'' :=
  Relation.ReflTransGen.tail h hs

theorem keep {P : Traffic κ ω → Prop} (hstep : ∀ t t', P t → Step held t t' → P t')
    (h : Reaches held t t') (ht : P t) : P t' := by
  induction h with
  | refl => exact ht
  | tail _ hs ih => exact hstep _ _ ih hs

end Reaches

end Traffic

end GuestRunner
