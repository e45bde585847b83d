import GuestRunner.Proofs.Group.Numbering
import GuestRunner.Proofs.Group.Work
import GuestRunner.Proofs.Processor.Closings

/-!
# Who has which files

The invariant of processors at work side by side: every invocation is on its course, and has a
number and a slot of its own. The token of the instance and the slot make the places of its stream
files different from all others, so that whatever another party does is somewhere else.
-/

set_option autoImplicit false

namespace GuestRunner

open Files Files.Volume Run

namespace Group

variable {ι κ ω : Type}

/-- Processors of the group that nobody has worked with yet. Those that have scratch directories
share one that is sound, and no two have the same token. -/
structure Open (payloads : κ → Value) (f : Group ι κ ω) : Prop where
  reachable : ∀ i, Reachable (f.scene i)
  opened : ∀ i, (f.processors i).closed = false
  calls : ∀ k, f.calls k = .admission (payloads k)
  trails : ∀ k, f.trails k = .start
  closings : ∀ w, f.closings w = .request
  kept : ∀ i s, (f.processors i).capture.scratch? = some s → s.owned = false
  shared : ∀ i j s s', (f.processors i).capture.scratch? = some s →
    (f.processors j).capture.scratch? = some s' → s.path = s'.path
  tokens : ∀ i j s s', i ≠ j → (f.processors i).capture.scratch? = some s →
    (f.processors j).capture.scratch? = some s' → s.token ≠ s'.token
  sound : ∀ i s, (f.processors i).capture.scratch? = some s → s.Sound f.site.volume
  quiet : ∀ i s, (f.processors i).capture.scratch? = some s →
    ∀ call n, f.site.volume.Faultless call n

def NamesFit [Fintype κ] (f : Group ι κ ω) : Prop :=
  ∀ i s, (f.processors i).capture.scratch? = some s → ∀ id slot : Nat,
    id ≤ (f.processors i).accepted + Fintype.card κ →
    slot ≤ (f.processors i).capture.opened + Fintype.card κ → s.SlotFits id slot

def Plain (f : Group ι κ ω) : Prop :=
  ∀ i closed module context v,
    Appends [] ((f.processors i).backend.run closed module context v).acts

def place (c : Capture) (trail : Call.Trail) : Stream → Place :=
  match c.scratch?, trail.id, trail.slot with
  | some s, some id, some slot => s.slotPlace id slot
  | _, _, _ => fun _ => []

def terms (r : Membership ι κ ω) (payloads : κ → Value) (f₀ : Group ι κ ω) (k : κ)
    (trail : Call.Trail) : Call.Terms where
  processor := f₀.processors (r.caller k)
  elapsed := f₀.site.elapsed
  payload := payloads k
  closable := ∃ w, r.closer w = r.caller k
  files := ∃ s, (f₀.processors (r.caller k)).capture.scratch? = some s
  excused := fun _ => False
  fileFaults := fun _ => False
  holds := fun sink v =>
    sink.Resolved (place (f₀.processors (r.caller k)).capture trail) v ∧
      (sink.filePaths ≠ none → ∃ s, (f₀.processors (r.caller k)).capture.scratch? = some s)

structure Unchanged (r : Membership ι κ ω) (f₀ f : Group ι κ ω) : Prop where
  settings : ∀ i, (f.processors i).settings = (f₀.processors i).settings
  backend : ∀ i, (f.processors i).backend = (f₀.processors i).backend
  logger : ∀ i, (f.processors i).logger.Usable
  scratch : ∀ i, (f.processors i).capture.scratch? = (f₀.processors i).capture.scratch?
  closed : ∀ i, (f.processors i).closed = true → ∃ w, r.closer w = i
  elapsed : f.site.elapsed = f₀.site.elapsed
  sound : ∀ i s, (f₀.processors i).capture.scratch? = some s → s.Sound f.site.volume
  quiet : ∀ i s, (f₀.processors i).capture.scratch? = some s →
    ∀ call n, f.site.volume.Faultless call n

structure Assignments (r : Membership ι κ ω) (f₀ f : Group ι κ ω) : Prop where
  ids : Numbering r.caller (fun i => (f₀.processors i).accepted)
    (fun i => (f.processors i).accepted) fun k => (f.trails k).id
  slots : Numbering r.caller (fun i => (f₀.processors i).capture.opened)
    (fun i => (f.processors i).capture.opened) fun k => (f.trails k).slot.map (· + 1)
  early : ∀ k, (f.calls k).stage ≤ 3 → (f.trails k).slot = none

structure Invariant (r : Membership ι κ ω) (payloads : κ → Value) (f₀ f : Group ι κ ω) : Prop where
  unchanged : Unchanged r f₀ f
  assignments : Assignments r f₀ f
  course : ∀ k, ∃ lost, ((∀ w, r.closer w ≠ r.caller k) → lost = fun _ => []) ∧
    Call.Course (terms r payloads f₀ k (f.trails k)) (f.trails k) lost (f.calls k) f.site.volume
  onlyOwn : ∀ w, (f.closings w).OnlyOwn (f.processors (r.closer w)).capture

variable {r : Membership ι κ ω} {payloads : κ → Value} {f₀ f : Group ι κ ω}

theorem place_eq {c : Capture} {trail : Call.Trail} {stream : Stream}
    (h : place c trail stream ≠ []) :
    ∃ s id slot, c.scratch? = some s ∧ trail.slot = some slot ∧
      place c trail stream = s.slotPlace (id : Nat) slot stream := by
  unfold place at h ⊢
  cases hs : c.scratch? with
  | none => simp [hs] at h
  | some s =>
    cases hi : trail.id with
    | none => simp [hs, hi] at h
    | some id =>
      cases ht : trail.slot with
      | none => simp [hs, hi, ht] at h
      | some slot => exact ⟨s, id, slot, rfl, rfl, rfl⟩

/-- Two invocations never have a place in common. -/
theorem place_apart (ho : Open payloads f₀) (l : Assignments r f₀ f) {k j : κ} (hne : j ≠ k)
    (stream : Stream)
    (hp : place (f₀.processors (r.caller j)).capture (f.trails j) stream ≠ []) :
    ¬ Sink.AtPlaces (place (f₀.processors (r.caller k)).capture (f.trails k))
      (place (f₀.processors (r.caller j)).capture (f.trails j) stream) := by
  rintro ⟨other, he⟩
  have hq : place (f₀.processors (r.caller k)).capture (f.trails k) other ≠ [] := he ▸ hp
  obtain ⟨s, id, slot, hs, hslot, hplace⟩ := place_eq hp
  obtain ⟨s', id', slot', hs', hslot', hplace'⟩ := place_eq hq
  rw [hplace, hplace'] at he
  by_cases hc : r.caller j = r.caller k
  · rw [hc] at hs
    cases hs.symm.trans hs'
    obtain ⟨rfl, -⟩ := Scratch.slotPlace_inj he
    exact hne (l.slots.inj j k (slot + 1) hc (by simp [hslot]) (by simp [hslot']))
  · exact Scratch.slotPlace_ne (ho.sound _ _ hs).token (ho.sound _ _ hs').token
      (ho.tokens _ _ s s' hc hs hs') (ho.shared _ _ s s' hs hs')
      (Scratch.owns_slotName s' _ _ _) he

theorem place_unclaimed (ho : Open payloads f₀) {k : κ} {i : ι} (hne : r.caller k ≠ i)
    {trail : Call.Trail} {c : Capture} (hc : c.scratch? = (f₀.processors i).capture.scratch?)
    {stream : Stream} (hp : place (f₀.processors (r.caller k)).capture trail stream ≠ []) :
    ¬ c.Claims (place (f₀.processors (r.caller k)).capture trail stream) := by
  rintro ⟨s', hs', name, hn, he⟩
  rw [hc] at hs'
  obtain ⟨s, id, slot, hs, -, hplace⟩ := place_eq hp
  rw [hplace] at he
  exact Scratch.slotPlace_ne (ho.sound _ _ hs).token (ho.sound _ _ hs').token
    (ho.tokens _ _ s s' hne hs hs') (ho.shared _ _ s s' hs hs') hn he

/-- The places of an invocation are settled by the step that opens its sink. -/
theorem place_next {c : Call} {s : Scene} {trail : Call.Trail} (capture : Capture)
    (hopen : ∀ job, c ≠ .opening job)
    (hearly : ∀ payload, c = .admission payload → trail.slot = none) :
    place capture (trail.next c s) = place capture trail := by
  cases c with
  | admission payload =>
    have hn := hearly payload rfl
    have hj : ∀ id, place capture { trail with id := id } = place capture trail := by
      intro id
      unfold place
      cases capture.scratch? <;> cases id <;> cases trail.id <;> simp [hn]
    simp only [Call.Trail.next]
    split
    · rfl
    · exact hj _
  | opening job => exact absurd rfl (hopen job)
  | _ => rfl

theorem Unchanged.congr {f' : Group ι κ ω} (g : Unchanged r f₀ f)
    (hp : f'.processors = f.processors)
    (hs : f'.site = f.site) : Unchanged r f₀ f' := by
  obtain ⟨site, processors, calls, trails, closings⟩ := f
  obtain ⟨site', processors', calls', trails', closings'⟩ := f'
  cases hp
  cases hs
  exact ⟨g.settings, g.backend, g.logger, g.scratch, g.closed, g.elapsed, g.sound, g.quiet⟩

/-- The files of the sink that an invocation opens are resolved at the places of its slot. -/
theorem Invariant.opens [Fintype κ] (hroom : NamesFit f₀) (h : Invariant r payloads f₀ f) {k : κ}
    {job : Job} (hk : f.calls k = .opening job) :
    (terms r payloads f₀ k ((f.trails k).next (.opening job) (f.scene (r.caller k)))).holds
      ((f.processors (r.caller k)).capture.nextSink (Value.ofNat job.id)).1 f.site.volume := by
  obtain ⟨lost, -, hc⟩ := h.course k
  rw [hk] at hc
  cases hc with
  | opening job v hi hl =>
    have hscratch := h.unchanged.scratch (r.caller k)
    have hids := h.assignments.ids.high_le (r.caller k)
    have hslots := h.assignments.slots.high_le (r.caller k)
    have hid := (h.assignments.ids.bound k job.id hi).2
    simp only [Call.Trail.next, scene, Scene.calm]
    cases hcap : (f.processors (r.caller k)).capture with
    | buffered => exact ⟨trivial, fun hp => absurd rfl hp⟩
    | files scratch opened =>
      rw [hcap] at hscratch hslots
      have h0 : (f₀.processors (r.caller k)).capture.scratch? = some scratch := hscratch.symm
      refine ⟨?_, fun _ => ⟨scratch, h0⟩⟩
      have hplace : place (f₀.processors (r.caller k)).capture
          { f.trails k with slot := some opened } = scratch.slotPlace job.id opened := by
        unfold place
        simp only [h0, hi]
      show Sink.Resolved _ (place _ _) _
      rw [hplace]
      exact (h.unchanged.sound _ _ h0).resolved
        (hroom _ scratch h0 job.id opened (Nat.le_trans hid hids) hslots)

theorem Unchanged.satisfied (g : Unchanged r f₀ f) (k : κ) (trail : Call.Trail) :
    (terms r payloads f₀ k trail).Satisfied (f.scene (r.caller k)) where
  settings := g.settings _
  backend := g.backend _
  logger := g.logger _
  elapsed := g.elapsed
  closed := g.closed _

/-- The invocation that makes a step keeps to its course, on the terms of its trail after it. -/
theorem Invariant.moves [Fintype κ] (hb : Plain f₀) (hroom : NamesFit f₀)
    (h : Invariant r payloads f₀ f) {k : κ} {trail : Call.Trail} {c : Call} {s : Scene}
    {lost : Stream → Bytes} (ht : (f.trails k).next (f.calls k) (f.scene (r.caller k)) = trail)
    (hm : Call.Move Scene.again (f.calls k) (f.scene (r.caller k)) c s)
    (hc : Call.Course (terms r payloads f₀ k (f.trails k)) (f.trails k) lost (f.calls k)
      f.site.volume) :
    Call.Course (terms r payloads f₀ k trail) trail lost c s.site.volume ∧
      Call.StepEffect (Sink.AtPlaces (place (f₀.processors (r.caller k)).capture trail)) (f.calls k)
        (f.scene (r.caller k)) c s := by
  have hnew : Call.Course (terms r payloads f₀ k trail) (f.trails k) lost (f.calls k)
      f.site.volume := by
    -- The step that opens the sink settles its places. Until then nothing depends on them.
    by_cases hopen : ∃ job, f.calls k = .opening job
    · obtain ⟨job, hj⟩ := hopen
      rw [hj] at hc ⊢
      exact hc.retarget
    · have hp := place_next (c := f.calls k) (s := f.scene (r.caller k))
        (f₀.processors (r.caller k)).capture (fun job hj => hopen ⟨job, hj⟩)
        (fun payload hj => h.assignments.early k (by rw [hj]; exact Nat.zero_le 3))
      rw [ht] at hp
      unfold terms
      rw [hp]
      exact hc
  have hquiet : (terms r payloads f₀ k trail).Meets (f.calls k) f.site.volume := by
    rintro ⟨scratch, hs⟩ call - e he
    exact absurd he ((h.unchanged.quiet _ scratch hs call 1).not_fails e)
  have hopens : ∀ job, f.calls k = .opening job → (terms r payloads f₀ k trail).holds
      ((f.processors (r.caller k)).capture.nextSink (Value.ofNat job.id)).1 f.site.volume := by
    intro job hj
    rw [← ht, hj]
    exact h.opens hroom hj
  have hrun : ∀ job sink, f.calls k = .starting job sink →
      Appends [] (Call.runOf (f.scene (r.caller k)) job sink).acts := by
    intro job sink _
    unfold Call.runOf
    rw [show (f.scene (r.caller k)).processor.backend = _ from h.unchanged.backend (r.caller k)]
    exact hb _ _ _ _ _
  have hstep := hm.course (Sink.resolved_invariant _ fun _ hf => hf) hnew
    (h.unchanged.satisfied k trail) hquiet
    hopens hrun
  rwa [ht] at hstep

theorem course_elsewhere {j : κ} {trail : Call.Trail} {lost : Stream → Bytes} {c : Call}
    {v v' : Volume} {here : Place → Prop} {calls : List Files.Call}
    (ht : TouchesOnly here calls v v')
    (hc : Call.Course (terms r payloads f₀ j trail) trail lost c v)
    (hd : ∀ stream, place (f₀.processors (r.caller j)).capture trail stream ≠ [] →
      ¬ here (place (f₀.processors (r.caller j)).capture trail stream)) :
    Call.Course (terms r payloads f₀ j trail) trail lost c v' := by
  have hstay := fun sink (hm : (terms r payloads f₀ j trail).holds sink v) => hm.1.apart ht hd
  have hl := hc.lostOutput (.refl _) fun sink hm => ⟨⟨(hstay sink hm).1, hm.2⟩,
    fun stream => Or.inl ((hstay sink hm).2 stream)⟩
  rwa [Call.lostOutput_same fun stream sink ha => (hstay sink (hc.awaited ha)).2 stream] at hl

variable [DecidableEq ι]

theorem put_processors (f : Group ι κ ω) (i j : ι) (s : Scene) :
    (f.put i s).processors j = if j = i then s.processor else f.processors j :=
  Function.update_apply _ _ _ _

theorem put_keeps {P : ι → Processor → Prop} {i : ι} {s : Scene} (hs : P i s.processor)
    (hf : ∀ j, P j (f.processors j)) (j : ι) : P j ((f.put i s).processors j) := by
  rw [put_processors]
  split
  · rename_i hj
    rw [hj]
    exact hs
  · exact hf j

/-- A processor that has worked has changed nothing that the others rely on. -/
theorem Unchanged.put (g : Unchanged r f₀ f) {i : ι} {s : Scene} {here : Place → Prop}
    {calls : List Files.Call} (hk : Scene.Continued (f.scene i) s)
    (hc : s.processor.closed = true → ∃ w, r.closer w = i)
    (he : s.site.elapsed = f.site.elapsed)
    (ht : TouchesOnly here calls f.site.volume s.site.volume) : Unchanged r f₀ (f.put i s) where
  settings := put_keeps (P := fun j p => p.settings = (f₀.processors j).settings)
    (hk.settings.trans (g.settings i)) g.settings
  backend := put_keeps (P := fun j p => p.backend = (f₀.processors j).backend)
    (hk.backend.trans (g.backend i)) g.backend
  logger := put_keeps (P := fun _ p => p.logger.Usable) (hk.logger ▸ g.logger i) g.logger
  scratch := put_keeps
    (P := fun j p => p.capture.scratch? = (f₀.processors j).capture.scratch?)
    (hk.scratch.trans (g.scratch i)) g.scratch
  closed := put_keeps (P := fun j p => p.closed = true → ∃ w, r.closer w = j) hc g.closed
  elapsed := he.trans g.elapsed
  sound j t hj := (g.sound j t hj).touches ht
  quiet j t hj call n := ht.faultless call n (g.quiet j t hj call _)

theorem Assignments.closingStep [DecidableEq ω] (l : Assignments r f₀ f) (w : ω) :
    Assignments r f₀ (f.closingStep r w) := by
  obtain ⟨hc, ha, -⟩ := (f.closings w).step_frame (f.scene (r.closer w))
  have hp : ∀ j, ((f.closingStep r w).processors j).accepted = (f.processors j).accepted ∧
      ((f.closingStep r w).processors j).capture = (f.processors j).capture :=
    put_keeps (P := fun j p => p.accepted = (f.processors j).accepted ∧
      p.capture = (f.processors j).capture) ⟨ha, hc⟩ fun _ => ⟨rfl, rfl⟩
  exact ⟨l.ids.congr (fun i => (hp i).1) fun _ => rfl,
    l.slots.congr (fun i => congrArg Capture.opened (hp i).2) fun _ => rfl, l.early⟩

theorem callStep_trails [DecidableEq κ] (r : Membership ι κ ω) (f : Group ι κ ω) (k j : κ) :
    (f.callStep r k).trails j =
      if j = k then (f.trails k).next (f.calls k) (f.scene (r.caller k)) else f.trails j :=
  Function.update_apply _ _ _ _

theorem callStep_calls [DecidableEq κ] (r : Membership ι κ ω) (f : Group ι κ ω) (k j : κ) :
    (f.callStep r k).calls j =
      if j = k then ((f.calls k).step Scene.again (f.scene (r.caller k))).1 else f.calls j :=
  Function.update_apply _ _ _ _

theorem callStep_processors [DecidableEq κ] (r : Membership ι κ ω) (f : Group ι κ ω) (k : κ)
    (i : ι) :
    (f.callStep r k).processors i =
      if i = r.caller k then ((f.calls k).step Scene.again (f.scene (r.caller k))).2.processor
      else f.processors i :=
  put_processors f (r.caller k) i _

/-- Numbers stay in order where a step of an invocation leaves its own as it is, or takes the next
one. -/
theorem numbering_callStep [DecidableEq κ] {low : ι → Nat} (count : Processor → Nat)
    (number : Call.Trail → Option Nat)
    (h : Numbering r.caller low (fun i => count (f.processors i)) fun j => number (f.trails j))
    {k : κ} {trail : Call.Trail} {p : Processor}
    (ht : (f.trails k).next (f.calls k) (f.scene (r.caller k)) = trail)
    (hp : ((f.calls k).step Scene.again (f.scene (r.caller k))).2.processor = p)
    (hs : (number trail = number (f.trails k) ∧ count p = count (f.processors (r.caller k))) ∨
      (number (f.trails k) = none ∧
        number trail = some (count (f.processors (r.caller k)) + 1) ∧
        count p = count (f.processors (r.caller k)) + 1)) :
    Numbering r.caller low (fun i => count ((f.callStep r k).processors i))
      fun j => number ((f.callStep r k).trails j) := by
  have hproc := callStep_processors r f k
  have htrail := callStep_trails r f k
  rw [hp] at hproc
  rw [ht] at htrail
  rcases hs with ⟨hn, hc⟩ | ⟨hnone, hn, hc⟩
  · refine h.congr (fun i => ?_) fun j => ?_
    · rw [hproc]
      split
      · rename_i he
        rw [hc, he]
      · rfl
    · rw [htrail]
      split
      · rename_i he
        rw [hn, he]
      · rfl
  · refine h.take hnone ?_ (fun j hj => ?_) ?_ fun i hi => ?_
    · rw [htrail, if_pos rfl, hn]
    · rw [htrail, if_neg hj]
    · rw [hproc, if_pos rfl, hc]
    · rw [hproc, if_neg hi]

/-- An invocation that takes a number or a slot takes the next one. -/
theorem Assignments.callStep [DecidableEq κ] (l : Assignments r f₀ f) (k : κ) {here : Place → Prop}
    (hm : Call.Move Scene.again (f.calls k) (f.scene (r.caller k))
      ((f.calls k).step Scene.again (f.scene (r.caller k))).1
      ((f.calls k).step Scene.again (f.scene (r.caller k))).2)
    (hd : Call.StepEffect here (f.calls k) (f.scene (r.caller k))
      ((f.calls k).step Scene.again (f.scene (r.caller k))).1
      ((f.calls k).step Scene.again (f.scene (r.caller k))).2)
    (hi : ∀ payload, f.calls k = .admission payload → (f.trails k).id = none) :
    Assignments r f₀ (f.callStep r k) where
  ids := by
    refine numbering_callStep Processor.accepted Call.Trail.id l.ids rfl rfl ?_
    rcases hd.id (f.trails k) with h | ⟨⟨payload, hp⟩, hid, ha⟩
    · exact Or.inl h
    · exact Or.inr ⟨hi payload hp, hid, ha⟩
  slots := by
    refine numbering_callStep (fun p => p.capture.opened) (fun trail => trail.slot.map (· + 1))
      l.slots rfl rfl ?_
    rcases hd.slot (f.trails k) with ⟨hslot, ha⟩ | ⟨⟨job, hp⟩, hslot, ha⟩
    · exact Or.inl ⟨congrArg (Option.map (· + 1)) hslot, ha⟩
    · have hnone : (f.trails k).slot = none := l.early k (by rw [hp]; exact Nat.le_refl 3)
      exact Or.inr ⟨congrArg (Option.map (· + 1)) hnone, congrArg (Option.map (· + 1)) hslot, ha⟩
  early j hj := by
    rw [callStep_trails]
    rw [callStep_calls] at hj
    split
    · rename_i he
      rw [if_pos he] at hj
      have hst := hm.stage
      have hb : (f.calls k).stage ≤ 2 := by
        simp only [Call.stepsBeforeRun] at hst
        omega
      rcases hd.slot (f.trails k) with ⟨hslot, -⟩ | ⟨⟨job, hp⟩, -⟩
      · rw [hslot]
        exact l.early k (by omega)
      · have hopening : (f.calls k).stage = 3 := by rw [hp]; rfl
        omega
    · rename_i he
      rw [if_neg he] at hj
      exact l.early j hj

/-- A step of a closing keeps the invariant. -/
theorem Invariant.closingStep [DecidableEq ω] (ho : Open payloads f₀)
    (h : Invariant r payloads f₀ f) (w : ω) : Invariant r payloads f₀ (f.closingStep r w) := by
  have hs : ∀ scratch, (f.scene (r.closer w)).processor.capture.scratch? = some scratch →
      (f₀.processors (r.closer w)).capture.scratch? = some scratch := fun scratch hscratch =>
    (h.unchanged.scratch (r.closer w)).symm.trans hscratch
  obtain ⟨honlyOwn, htouches⟩ := Closing.step_onlyOwn (h.onlyOwn w)
    fun scratch hscratch => h.unchanged.sound _ _ (hs scratch hscratch)
  obtain ⟨calls, htouches⟩ := htouches.resolve_right fun ⟨scratch, hscratch, howned, _⟩ => by
    rw [ho.kept _ _ (hs scratch hscratch)] at howned
    cases howned
  obtain ⟨hcap, -, helapsed, hloss⟩ := (f.closings w).step_frame (f.scene (r.closer w))
  have hcont := (f.closings w).step_continued (f.scene (r.closer w))
  refine ⟨(h.unchanged.put hcont (fun _ => ⟨w, rfl⟩) helapsed htouches).congr rfl rfl,
    h.assignments.closingStep w, fun k => ?_, fun w' => ?_⟩
  · obtain ⟨lost, hlost, hc⟩ := h.course k
    refine ⟨_, fun hw => ?_, hc.lostOutput (.refl _) fun sink hm => ⟨⟨hm.1.touches htouches, hm.2⟩,
      hm.1.loss htouches hloss⟩⟩
    rw [← hlost hw]
    refine Call.lostOutput_same fun stream sink ha => ?_
    exact ((hc.awaited ha).1.apart htouches fun _ => place_unclaimed ho (Ne.symm (hw w))
      (h.unchanged.scratch (r.closer w))).2 stream
  · have hsame : ∀ i, ((f.closingStep r w).processors i).capture = (f.processors i).capture :=
      put_keeps (P := fun i p => p.capture = (f.processors i).capture) hcap fun _ => rfl
    rw [hsame, show (f.closingStep r w).closings w' = _ from Function.update_apply _ _ _ _]
    split
    · rename_i he
      rw [he]
      exact honlyOwn
    · exact h.onlyOwn w'

/-- A step of an invocation keeps the invariant. -/
theorem Invariant.callStep [DecidableEq κ] [Fintype κ] (ho : Open payloads f₀) (hb : Plain f₀)
    (hroom : NamesFit f₀) (h : Invariant r payloads f₀ f) (k : κ) :
    Invariant r payloads f₀ (f.callStep r k) := by
  have hm : Call.Move Scene.again (f.calls k) (f.scene (r.caller k)) _ _ :=
    Call.calm_move Scene.again (f.calls k) rfl
  have htrail := callStep_trails r f k
  obtain ⟨lost, hlost, hc⟩ := h.course k
  obtain ⟨hcourse, hd⟩ := h.moves hb hroom rfl hm hc
  have hledger : Assignments r f₀ (f.callStep r k) := by
    refine h.assignments.callStep k hm hd fun payload hp => ?_
    rw [hp] at hc
    cases hc with
    | admission v hi hl => exact hi
  have hclosed : ((f.calls k).step Scene.again (f.scene (r.caller k))).2.processor.closed = true →
      ∃ w, r.closer w = r.caller k := by
    rw [hd.closed]
    exact h.unchanged.closed _
  refine ⟨(h.unchanged.put (Call.step_continued Scene.again_continued _ _) hclosed hd.elapsed
    hd.touches).congr rfl
    rfl, hledger, fun j => ?_, fun w => ?_⟩
  · rw [callStep_calls]
    by_cases hj : j = k
    · rw [htrail, if_pos hj, if_pos hj, hj]
      exact ⟨lost, hlost, hcourse⟩
    · obtain ⟨lost', hlost', hcj⟩ := h.course j
      rw [htrail, if_neg hj, if_neg hj]
      refine ⟨lost', hlost', course_elsewhere hd.touches hcj fun stream => ?_⟩
      have hapart := place_apart ho hledger hj stream
      rwa [htrail, htrail, if_neg hj, if_pos rfl] at hapart
  · have hcont := Call.step_continued Scene.again_continued (f.calls k) (f.scene (r.caller k))
    exact (h.onlyOwn w).congr (put_keeps
      (P := fun i p => p.capture.scratch? = (f.processors i).capture.scratch?) hcont.scratch
      (fun _ => rfl) (r.closer w))

end Group

end GuestRunner
