import GuestRunner.Proofs.Call.Logging

/-!
# Alarms that keep silent

Two things look at the alarm: the step of a worker, before it does anything else, and a guest that
waits. So an alarm goes off at most once, by its own deadline; and one that has not gone off in the
end was not heard at all: everything went as it does when nobody is in a hurry. That holds of the
invocations as well that guests start.
-/

set_option autoImplicit false

namespace GuestRunner

def Alarm.Silent : Alarm → Prop
  | .rung _ => False
  | _ => True

theorem Alarm.Passing.silent {a b : Alarm} {deadlines : List Value} (h : a.Passing b deadlines)
    (hb : b.Silent) : a.Silent := by
  cases h with
  | still a => exact hb
  | nearer deadline steps steps' => trivial
  | rung deadline steps => exact hb.elim

theorem Alarm.Passing.loud {deadline : Value} {steps : Option Nat} {b : Alarm}
    {deadlines : List Value} (h : Alarm.Passing (.set deadline steps) b deadlines)
    (hb : ¬ b.Silent) : b = .rung (.failure (.timedOut deadline .null)) := by
  cases h with
  | still a => exact absurd trivial hb
  | nearer deadline steps steps' => exact absurd trivial hb
  | rung deadline steps => rfl

namespace Scene

variable {α : Type}

def under (s : Scene) (alarm : Alarm) : Scene := { s with alarm }

def withoutAlarm (s : Scene) : Scene := s.under .off

def IgnoresAlarm (f : Scene → α × Scene) : Prop :=
  ∀ s alarm, f (s.under alarm) = ((f s).1, (f s).2.under alarm)

structure RingOnly (f : Scene → α × Scene) (s : Scene) : Prop where
  continued : Continued s (f s).2
  alarm : ∃ deadlines, s.alarm.Passing (f s).2.alarm deadlines
  withoutAlarm : (f s).2.alarm.Silent → f s.withoutAlarm = ((f s).1, (f s).2.withoutAlarm)

variable {s : Scene}

theorem IgnoresAlarm.ringOnly {f : Scene → α × Scene} (h : IgnoresAlarm f)
    (hk : Continued s (f s).2) : RingOnly f s := by
  have ha : (f s).2.alarm = s.alarm := congrArg (fun r => r.2.alarm) (h s s.alarm)
  refine ⟨hk, ⟨[], ?_⟩, fun _ => h s .off⟩
  rw [ha]
  exact .still _

theorem ring_ringOnly (hu : s.processor.logger.Usable) : RingOnly (fun s => ((), s.ring)) s := by
  obtain ⟨p, site, alarm⟩ := s
  cases alarm with
  | set deadline steps =>
    refine ⟨ring_continued _, ⟨[deadline], ?_⟩, fun h => False.elim h⟩
    simp only [ring, expire_usable (s := ⟨p, site, .set deadline steps⟩) hu]
    exact .rung deadline steps
  | _ => exact ⟨ring_continued _, ⟨[], .still _⟩, fun _ => rfl⟩

theorem tick_ringOnly (hu : s.processor.logger.Usable) : RingOnly (fun s => ((), s.tick)) s := by
  obtain ⟨p, site, alarm⟩ := s
  cases alarm with
  | set deadline steps =>
    rcases steps with _ | _ | steps
    · exact ⟨tick_continued _, ⟨[], .still _⟩, fun _ => rfl⟩
    · obtain ⟨hk, ha, hh⟩ := ring_ringOnly (s := ⟨p, site, .set deadline (some 0)⟩) hu
      exact ⟨hk, ha, hh⟩
    · exact ⟨tick_continued _, ⟨[], .nearer deadline _ _⟩, fun _ => rfl⟩
  | _ => exact ⟨tick_continued _, ⟨[], .still _⟩, fun _ => rfl⟩

end Scene

open Scene

theorem Closing.step_ignoresAlarm (c : Closing) : IgnoresAlarm c.step := by
  rintro ⟨p, site, old⟩ alarm
  cases c with
  | request => by_cases hc : p.closed = true <;> simp [step, under, hc]
  | detaching =>
    simp only [step, under, Scene.did]
    split <;> rfl
  | cleaning scratch c => cases c <;> rfl
  | dropping removed => cases removed <;> rfl
  | _ => rfl

theorem Closing.steps_ignoresAlarm (n : Nat) (c : Closing) (s : Scene) (alarm : Alarm) :
    steps n (c, s.under alarm) = ((steps n (c, s)).1, (steps n (c, s)).2.under alarm) := by
  induction n with
  | zero => rfl
  | succ n ih =>
    show step _ _ = _
    rw [show Nat.repeat _ n (c, s.under alarm) = _ from ih]
    exact step_ignoresAlarm _ _ alarm

theorem Scene.close_ignoresAlarm : IgnoresAlarm Scene.close := by
  intro s alarm
  unfold close Closing.run
  simp only [Closing.steps_ignoresAlarm]

namespace Call

variable {again : Again} {s : Scene}

theorem settle_ignoresAlarm (id : Nat) (pending : Except Problem Drained) :
    IgnoresAlarm (settle id pending) := by
  rintro ⟨p, site, old⟩ alarm
  unfold settle
  dsimp only [under]
  split <;> rfl

theorem advance_ignoresAlarm (again : Again) {c : Call} (hc : ∀ id sink act rest ending,
    c ≠ .running id sink (act :: rest) ending) : IgnoresAlarm (advance again c) := by
  rintro ⟨p, site, old⟩ alarm
  cases c with
  | admission payload => by_cases ho : p.closed = true <;> simp [advance, under, ho]
  | intake id module payload =>
    simp only [advance, under, Scene.emit]
    split
    · rfl
    · cases (site.record p.logger (startEvent p id ‹_›)).1 <;> rfl
  | clearing job sink stream =>
    simp only [advance, under, Scene.withVolume]
    obtain ⟨⟨done, v⟩, h⟩ : ∃ r, sink.clear stream site.volume = r := ⟨_, rfl⟩
    rw [h]
    cases done <;> cases stream <;> rfl
  | running id sink acts ending =>
    cases acts with
    | nil => cases ending <;> rfl
    | cons act rest => exact absurd rfl (hc id sink act rest ending)
  | draining id sink outcome =>
    simp only [advance, under, Scene.withVolume]
    obtain ⟨⟨content, v⟩, h⟩ : ∃ r, sink.drain .stdout site.volume = r := ⟨_, rfl⟩
    rw [h]
    cases content <;> rfl
  | releasing id sink stream pending =>
    simp only [advance, under, Scene.withVolume]
    obtain ⟨⟨done, sink', v⟩, h⟩ : ∃ r, sink.discard stream site.volume = r := ⟨_, rfl⟩
    rw [h]
    cases done <;> cases stream <;> rfl
  | settling id pending =>
    simp only [advance, settle_ignoresAlarm id pending ⟨p, site, old⟩ alarm]
  | _ => rfl

section

variable (ha : ∀ payload s, s.processor.logger.Usable → RingOnly (again payload) s)
  (hk : ∀ payload s, Continued s (again payload s).2)

include ha hk

theorem perform_ringOnly (sink : Sink) (act : Act) (hu : s.processor.logger.Usable) :
    RingOnly (perform again sink act) s := by
  have hcont := perform_continued hk sink act s
  cases act with
  | process stream payload =>
    obtain ⟨-, halarm, hwithout⟩ := ha payload s hu
    obtain ⟨⟨answer, s'⟩, he⟩ : ∃ r, again payload s = r := ⟨_, rfl⟩
    rw [he] at halarm hwithout
    refine ⟨hcont, ?_, ?_⟩
    · cases answer <;> simp only [perform, he] <;> exact halarm
    · intro hs
      cases answer <;> simp only [perform, he] at hs ⊢ <;> rw [hwithout hs]
      rfl
  | wait =>
    obtain ⟨-, halarm, hwithout⟩ := ring_ringOnly hu
    refine ⟨hcont, halarm, fun hs => ?_⟩
    have hring : s.withoutAlarm.ring = s.ring.withoutAlarm := congrArg Prod.snd (hwithout hs)
    simp only [perform, hring]
  | closeProcessor =>
    have hd : IgnoresAlarm (perform again sink .closeProcessor) := by
      intro s alarm
      simp only [perform, close_ignoresAlarm s alarm]
    exact hd.ringOnly hcont
  | _ => exact IgnoresAlarm.ringOnly (fun s alarm => rfl) hcont

theorem advance_ringOnly (c : Call) (hu : s.processor.logger.Usable) :
    RingOnly (advance again c) s := by
  have hcont := (advance_move again c s).continued hk
  by_cases hc : ∃ id sink act rest ending, c = .running id sink (act :: rest) ending
  · obtain ⟨id, sink, act, rest, ending, rfl⟩ := hc
    obtain ⟨-, halarm, hwithout⟩ := perform_ringOnly ha hk sink act hu
    obtain ⟨⟨done, s'⟩, he⟩ : ∃ r, perform again sink act s = r := ⟨_, rfl⟩
    rw [he] at halarm hwithout
    refine ⟨hcont, ?_, ?_⟩
    · cases done <;> simp only [advance, he] <;> exact halarm
    · intro hs
      cases done <;> simp only [advance, he] at hs ⊢ <;> rw [hwithout hs]
      rfl
  · apply IgnoresAlarm.ringOnly _ hcont
    apply advance_ignoresAlarm
    intro id sink act rest ending he
    exact hc ⟨id, sink, act, rest, ending, he⟩

theorem step_ringOnly (c : Call) (hu : s.processor.logger.Usable) : RingOnly (step again c) s := by
  by_cases hf : ∃ result, c = .finished result
  · obtain ⟨result, rfl⟩ := hf
    exact ⟨.refl s, ⟨[], .still _⟩, fun _ => rfl⟩
  · have hn : ∀ result, c ≠ .finished result := fun result he => hf ⟨result, he⟩
    obtain ⟨hcont, ⟨first, htick⟩, hsilent⟩ := tick_ringOnly hu
    obtain ⟨hcont', ⟨rest, hadvance⟩, hwithout⟩ :=
      advance_ringOnly (s := s.tick) ha hk c (hcont.logger ▸ hu)
    refine ⟨step_continued hk c s, ⟨first ++ rest, ?_⟩, ?_⟩
    · rw [step_advance again s hn]
      exact htick.trans hadvance
    · rw [step_advance again s hn, step_advance again s.withoutAlarm hn]
      intro hs
      have hquiet : s.withoutAlarm.tick = s.tick.withoutAlarm :=
        congrArg Prod.snd (hsilent (hadvance.silent hs))
      rw [hquiet]
      exact hwithout hs

theorem steps_ringOnly (n : Nat) (c : Call) (hu : s.processor.logger.Usable) :
    RingOnly (fun s => steps again n (c, s)) s := by
  induction n with
  | zero => exact ⟨.refl s, ⟨[], .still _⟩, fun _ => rfl⟩
  | succ n ih =>
    obtain ⟨hcont, ⟨first, hsteps⟩, hwithout⟩ := ih
    obtain ⟨hcont', ⟨rest, hstep⟩, hlast⟩ :=
      step_ringOnly ha hk (steps again n (c, s)).1 (hcont.logger ▸ hu)
    refine ⟨hcont.trans hcont', ⟨first ++ rest, hsteps.trans hstep⟩, fun hs => ?_⟩
    simp only [steps_succ, hwithout (hstep.silent hs)]
    exact hlast hs

theorem run_ringOnly (c : Call) (hu : s.processor.logger.Usable) : RingOnly (run again c) s := by
  obtain ⟨hcont, ⟨first, hsteps⟩, hwithout⟩ := steps_ringOnly ha hk stepsBeforeRun c hu
  obtain ⟨hcont', ⟨rest, hrest⟩, hlast⟩ :=
    steps_ringOnly ha hk (steps again stepsBeforeRun (c, s)).1.left
      (steps again stepsBeforeRun (c, s)).1 (hcont.logger ▸ hu)
  refine ⟨hcont.trans hcont', ⟨first ++ rest, hsteps.trans hrest⟩, fun hs => ?_⟩
  simp only [run, hwithout (hrest.silent hs)]
  exact hlast hs

end

end Call

namespace Scene

variable {s : Scene}

theorem RingOnly.outputOnly {f : Scene → Except Problem Result × Scene} (h : RingOnly f s) :
    RingOnly (fun s => outputOnly (f s)) s :=
  ⟨h.continued, h.alarm, fun hs => by simp only [Scene.outputOnly, h.withoutAlarm hs]⟩

theorem invokeWithin_ringOnly (depth : Nat) (payload : Value) (s : Scene)
    (hu : s.processor.logger.Usable) : RingOnly (invokeWithin depth payload) s := by
  induction depth generalizing payload s with
  | zero => exact ⟨.refl s, ⟨[], .still _⟩, fun _ => rfl⟩
  | succ depth ih =>
    have hrun := Call.run_ringOnly (fun payload s hu => (ih payload s hu).outputOnly)
      (fun payload s => invokeWithin_continued depth payload s) (.admission payload) hu
    refine ⟨hrun.continued, hrun.alarm, fun hs => ?_⟩
    unfold invokeWithin
    simp only [hrun.withoutAlarm hs]

theorem invoke_ringOnly (payload : Value) (hu : s.processor.logger.Usable) :
    RingOnly (invoke payload) s := by
  have hrun : RingOnly (Call.run again (.admission payload)) s := Call.run_ringOnly
    (fun payload s hu => (invokeWithin_ringOnly nestingLimit payload s hu).outputOnly)
    again_continued (.admission payload) hu
  refine ⟨hrun.continued, hrun.alarm, fun hs => ?_⟩
  unfold invoke
  simp only [hrun.withoutAlarm hs]

end Scene

end GuestRunner
