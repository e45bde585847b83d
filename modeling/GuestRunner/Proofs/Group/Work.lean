import Mathlib.Data.Fintype.Card
import Mathlib.Logic.Function.Basic
import GuestRunner.Proofs.Call.LostOutput
import GuestRunner.Proofs.Processor.Reachable
import GuestRunner.Proofs.Scratch.Slots

/-!
# Processors at work side by side

Any number of processors work on one site, each with any number of invocations and closings under
way. One step of one of them at a time is made, in any order. What the steps of an invocation have
shown is kept beside it.
-/

set_option autoImplicit false

namespace GuestRunner

open Files Files.Volume

structure Membership (ι κ ω : Type) where
  caller : κ → ι
  closer : ω → ι

structure Group (ι κ ω : Type) where
  site : Site
  processors : ι → Processor
  calls : κ → Call
  trails : κ → Call.Trail
  closings : ω → Closing

namespace Group

variable {ι κ ω : Type} [DecidableEq ι] [DecidableEq κ] [DecidableEq ω]

def scene (f : Group ι κ ω) (i : ι) : Scene := .calm (f.processors i) f.site

def put (f : Group ι κ ω) (i : ι) (s : Scene) : Group ι κ ω :=
  { f with site := s.site, processors := Function.update f.processors i s.processor }

def callStep (r : Membership ι κ ω) (f : Group ι κ ω) (k : κ) : Group ι κ ω :=
  let s := f.scene (r.caller k)
  let next := (f.calls k).step Scene.again s
  { f.put (r.caller k) next.2 with
    calls := Function.update f.calls k next.1
    trails := Function.update f.trails k ((f.trails k).next (f.calls k) s) }

def closingStep (r : Membership ι κ ω) (f : Group ι κ ω) (w : ω) : Group ι κ ω :=
  let next := (f.closings w).step (f.scene (r.closer w))
  { f.put (r.closer w) next.2 with closings := Function.update f.closings w next.1 }

inductive Reached (r : Membership ι κ ω) (f₀ : Group ι κ ω) : Group ι κ ω → Prop
  | start : Reached r f₀ f₀
  | call (f : Group ι κ ω) (k : κ) (h : Reached r f₀ f) : Reached r f₀ (f.callStep r k)
  | closing (f : Group ι κ ω) (w : ω) (h : Reached r f₀ f) : Reached r f₀ (f.closingStep r w)

def play (r : Membership ι κ ω) (steps : List (κ ⊕ ω)) (f : Group ι κ ω) : Group ι κ ω :=
  steps.foldl (fun f step => step.elim (f.callStep r) (f.closingStep r)) f

theorem play_reached {r : Membership ι κ ω} {f₀ f : Group ι κ ω} (h : Reached r f₀ f)
    (steps : List (κ ⊕ ω)) : Reached r f₀ (f.play r steps) := by
  induction steps generalizing f with
  | nil => exact h
  | cons step rest ih =>
    cases step with
    | inl k => exact ih (.call f k h)
    | inr w => exact ih (.closing f w h)

end Group

end GuestRunner
