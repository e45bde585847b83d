import GuestRunner.Proofs.Call.LostOutput
import GuestRunner.Proofs.Call.Underway
import GuestRunner.Proofs.Processor.Closings

/-!
# An invocation and a closing at the same time

An invocation and a closing of one processor make their steps in any order. Nothing holds the
closing back while a guest runs, so it may remove what has been written and not drained yet. What it
took is kept beside the two, stream by stream.
-/

set_option autoImplicit false

namespace GuestRunner

open Files Files.Volume Run

structure Overlap where
  scene : Scene
  call : Call
  trail : Call.Trail
  /-- What the closing has taken from each stream before it was drained. -/
  lost : Stream → Bytes
  closing : Closing

namespace Overlap

def start (s : Scene) (payload : Value) : Overlap :=
  ⟨s, .admission payload, .start, fun _ => [], .request⟩

def callStep (o : Overlap) : Overlap :=
  let next := o.call.step Scene.again o.scene
  { o with scene := next.2, call := next.1, trail := o.trail.next o.call o.scene }

def closingStep (o : Overlap) : Overlap :=
  let next := o.closing.step o.scene
  { o with
    scene := next.2
    closing := next.1
    lost := o.call.lostOutput o.scene.site.volume next.2.site.volume o.lost }

inductive Reached (s : Scene) (payload : Value) : Overlap → Prop
  | start : Reached s payload (start s payload)
  | call (o : Overlap) (h : Reached s payload o) : Reached s payload o.callStep
  | closing (o : Overlap) (h : Reached s payload o) : Reached s payload o.closingStep

def play (closings : List Bool) (o : Overlap) : Overlap :=
  closings.foldl (fun o closing => if closing then o.closingStep else o.callStep) o

theorem play_reached {s : Scene} {payload : Value} {o : Overlap} (h : Reached s payload o)
    (closings : List Bool) : Reached s payload (o.play closings) := by
  induction closings generalizing o with
  | nil => exact h
  | cons closing rest ih =>
    cases closing with
    | true => exact ih (.closing o h)
    | false => exact ih (.call o h)

structure Open (s : Scene) : Prop where
  reachable : Reachable s
  sound : ∀ scratch, s.processor.capture.scratch? = some scratch → scratch.Sound s.site.volume
  fits : ∀ scratch slot, s.processor.capture = .files scratch slot →
    scratch.SlotFits s.nextId slot
  honest : ∀ e, s.site.volume.Faulty e → e.isMissing = false
  plain : ∀ closed module context v,
    Appends [] (s.processor.backend.run closed module context v).acts

def place (s : Scene) : Stream → Place :=
  match s.processor.capture with
  | .buffered => fun _ => []
  | .files scratch slot => scratch.slotPlace s.nextId slot

def termsWhileThere (s : Scene) (payload : Value) : Call.Terms where
  processor := s.processor
  elapsed := s.site.elapsed
  payload := payload
  closable := True
  files := s.nextSink.filePaths ≠ none
  excused := fun _ => False
  fileFaults := s.site.volume.Faulty
  holds := fun sink v => sink.Resolved (place s) v ∧ sink.filePaths = s.nextSink.filePaths

def DirectoryMissing (s : Scene) (e : OsError) : Prop :=
  e.isMissing = true ∧
    ∃ scratch, s.processor.capture.scratch? = some scratch ∧ scratch.owned = true

def termsOnceGone (s : Scene) (payload : Value) : Call.Terms :=
  { termsWhileThere s payload with
    files := True
    excused := DirectoryMissing s
    holds := fun sink v => sink.Orphaned v }

structure Unchanged (s : Scene) (o : Overlap) : Prop where
  continued : Scene.Continued s o.scene
  elapsed : o.scene.site.elapsed = s.site.elapsed
  faults : ∀ e, o.scene.site.volume.Faulty e → s.site.volume.Faulty e
  accepted : o.call.stage = 0 → o.scene.processor.accepted = s.processor.accepted
  number : ∀ id, o.trail.id = some id → id = s.nextId
  capture : o.call.stage ≤ 3 → o.scene.processor.capture = s.processor.capture

inductive Phase (s : Scene) (payload : Value) (o : Overlap) : Prop
  | termsWhileThere (hs : ∀ scratch, s.processor.capture.scratch? = some scratch →
      scratch.Sound o.scene.site.volume)
    (ht : o.closing.OnlyOwn s.processor.capture)
    (hb : s.processor.capture = .buffered → o.lost = fun _ => [])
    (hc : Call.Course (termsWhileThere s payload) o.trail o.lost o.call o.scene.site.volume)
  | termsOnceGone (scratch : Scratch) (slot : Nat) (hs : s.processor.capture = .files scratch slot)
    (ho : scratch.owned = true) (hg : o.scene.site.volume.tree.Gone scratch.path.parts)
    (hp : o.closing.Past)
    (hc : Call.Course (termsOnceGone s payload) o.trail o.lost o.call o.scene.site.volume)

variable {s : Scene} {payload : Value} {o : Overlap}

theorem yields (s : Scene) (payload : Value) :
    (termsWhileThere s payload).Yields (termsOnceGone s payload) :=
  ⟨rfl, rfl, rfl, id, fun _ h => h.elim, fun _ h => h⟩

theorem Open.resolved (ho : Open s) {v : Volume}
    (hs : ∀ scratch, s.processor.capture.scratch? = some scratch → scratch.Sound v) :
    s.nextSink.Resolved (place s) v := by
  have hf := ho.fits
  unfold Scene.nextSink place
  cases hc : s.processor.capture with
  | buffered => trivial
  | files scratch slot =>
    rw [hc] at hs
    exact (hs scratch rfl).resolved (hf scratch slot hc)

/-- Where an owned directory is gone, every sink with the paths of the invocation is orphaned. -/
theorem Open.orphaned (ho : Open s) {scratch : Scratch} {slot : Nat}
    (hc : s.processor.capture = .files scratch slot) {v : Volume}
    (hg : v.tree.Gone scratch.path.parts) {sink : Sink}
    (hp : sink.filePaths = s.nextSink.filePaths) :
    sink.Orphaned v := by
  have hs := ho.sound scratch (by rw [hc]; rfl)
  have ha := Scratch.orphaned_of_gone hs.token hs.rooted hg (ho.fits scratch slot hc)
  have hn : s.nextSink = (Capture.nextSink (.files scratch slot) (Value.ofNat s.nextId)).1 := by
    unfold Scene.nextSink
    rw [hc]
  rw [hn] at hp
  cases sink with
  | buffered out err => cases hp
  | files out err =>
    cases hp
    exact ha

theorem Unchanged.satisfied (ho : Open s) (g : Unchanged s o) (t : Call.Terms)
    (hp : t.processor = s.processor) (he : t.elapsed = s.site.elapsed) (hc : t.closable) :
    t.Satisfied o.scene where
  settings := hp ▸ g.continued.settings
  backend := hp ▸ g.continued.backend
  logger := g.continued.logger ▸ ho.reachable.usable
  elapsed := g.elapsed.trans he.symm
  closed _ := hc

theorem Unchanged.meets (ho : Open s) (g : Unchanged s o) (t : Call.Terms)
    (ht : t.fileFaults = s.site.volume.Faulty) : t.Meets o.call o.scene.site.volume := by
  intro _ call _ e he
  have hf := g.faults e he.faulty
  exact ⟨ht ▸ hf, ho.honest e hf⟩

theorem Unchanged.nextSink (g : Unchanged s o) {t : Call.Terms}
    (hc : Call.Course t o.trail o.lost o.call o.scene.site.volume) {job : Job}
    (hj : o.call = .opening job) :
    (o.scene.processor.capture.nextSink (Value.ofNat job.id)).1 = s.nextSink := by
  rw [hj] at hc
  cases hc with
  | opening job v hi hl =>
    unfold Scene.nextSink
    rw [g.capture (by rw [hj]; exact Nat.le_refl 3), g.number job.id hi]

theorem Unchanged.plain (ho : Open s) (g : Unchanged s o) (job : Job) (sink : Sink) :
    Appends [] (Call.runOf o.scene job sink).acts := by
  unfold Call.runOf
  rw [g.continued.backend]
  exact ho.plain _ _ _ _

theorem Unchanged.callStep (ho : Open s) (g : Unchanged s o) {here : Place → Prop}
    (hd : Call.StepEffect here o.call o.scene o.callStep.call o.callStep.scene) :
    Unchanged s o.callStep := by
  have hm : Call.Move Scene.again o.call o.scene o.callStep.call o.callStep.scene :=
    Call.calm_move Scene.again o.call (g.continued.calm ho.reachable.calm)
  have hst := hm.stage
  simp only [Call.stepsBeforeRun] at hst
  refine ⟨g.continued.trans (Call.step_continued Scene.again_continued o.call o.scene),
    hd.elapsed.trans g.elapsed,
    fun e he => g.faults e (hd.touches.faulty he), fun h0 => by omega, fun id hi => ?_,
      fun h3 => ?_⟩
  · rcases hd.id o.trail with ⟨hid, -⟩ | ⟨⟨payload, hp⟩, hid, -⟩
    · exact g.number id (hid ▸ hi)
    · have h0 := g.accepted (by rw [hp]; rfl)
      rw [show o.callStep.trail.id = _ from hid] at hi
      rw [Scene.nextId, ← h0]
      exact (Option.some.inj hi).symm
  · exact (hd.capture_same (by omega)).trans (g.capture (by omega))

theorem Unchanged.closingStep (g : Unchanged s o)
    (hf : ∀ e, o.closingStep.scene.site.volume.Faulty e → o.scene.site.volume.Faulty e) :
    Unchanged s o.closingStep := by
  obtain ⟨hc, ha, he, -⟩ := o.closing.step_frame o.scene
  exact ⟨g.continued.trans (o.closing.step_continued o.scene), he.trans g.elapsed,
    fun e h => g.faults e (hf e h), fun h => ha.trans (g.accepted h), g.number,
    fun h => hc.trans (g.capture h)⟩

/-- A step of the invocation keeps the phase. -/
theorem Phase.callStep (ho : Open s) (g : Unchanged s o) (h : Phase s payload o) :
    Unchanged s o.callStep ∧ Phase s payload o.callStep := by
  have hm : Call.Move Scene.again o.call o.scene o.callStep.call o.callStep.scene :=
    Call.calm_move Scene.again o.call (g.continued.calm ho.reachable.calm)
  cases h with
  | termsWhileThere hs ht hb hc =>
    have hv := @Sink.resolved_invariant (place s) (s.nextSink.filePaths ≠ none)
      (fun filePaths => filePaths = s.nextSink.filePaths) fun filePaths he => he ▸ id
    obtain ⟨hc', hd⟩ := hm.course hv hc (g.satisfied ho _ rfl rfl trivial) (g.meets ho _ rfl)
      (fun job hj => by rw [g.nextSink hc hj]; exact ⟨ho.resolved hs, rfl⟩)
      fun job sink _ => g.plain ho job sink
    exact ⟨g.callStep ho hd, .termsWhileThere
      (fun scratch hsc => (hs scratch hsc).touches hd.touches) ht hb hc'⟩
  | termsOnceGone scratch slot hs hown hg hp hc =>
    have hv : Sink.Invariant True (fun _ => False) (DirectoryMissing s) fun sink v =>
      sink.Orphaned v :=
      Sink.orphaned_invariant.excuse fun e he => ⟨he, scratch, by rw [hs]; rfl, hown⟩
    obtain ⟨hc', hd⟩ := hm.course hv hc (g.satisfied ho _ rfl rfl trivial) (g.meets ho _ rfl)
      (fun job hj => by rw [g.nextSink hc hj]; exact ho.orphaned hs hg rfl)
      fun job sink _ => g.plain ho job sink
    exact ⟨g.callStep ho hd, .termsOnceGone scratch slot hs hown
      (hg.sameBut hd.touches.tree) hp hc'⟩

theorem lostOutput_buffered (hb : s.processor.capture = .buffered)
    (hc : Call.Course (Overlap.termsWhileThere s payload) o.trail o.lost o.call o.scene.site.volume)
    (v : Volume) : o.call.lostOutput o.scene.site.volume v o.lost = o.lost := by
  refine Call.lostOutput_same fun stream sink ha => ?_
  have hp : sink.filePaths = none := by
    rw [(hc.awaited ha).2, Scene.nextSink, hb]
    rfl
  cases sink with
  | buffered out err => cases stream <;> rfl
  | files out err => cases hp

theorem termsOnceGone_faulty {v : Volume} {dir : Place} {e : OsError}
    (h : (v.withoutDirectory dir).Faulty e) :
    v.Faulty e :=
  (after_touches (fun _ => False) v .removeAll).faulty h

/-- Removing an owned directory ends the first phase: from then on every sink is orphaned. -/
theorem Phase.sinks (ho : Open s) {scratch : Scratch}
    (hs : scratch.Sound o.scene.site.volume)
    (hc : Call.Course (Overlap.termsWhileThere s payload) o.trail o.lost o.call o.scene.site.volume)
    (hsc : s.processor.capture.scratch? = some scratch) (hown : scratch.owned = true)
    (hpast : o.closingStep.closing.Past)
    (hv : o.closingStep.scene.site.volume =
      o.scene.site.volume.withoutDirectory scratch.path.parts) :
    Phase s payload o.closingStep := by
  have hgone : o.closingStep.scene.site.volume.tree.Gone scratch.path.parts := by
    rw [hv]
    exact hs.solid.prune ((ho.reachable.wellFormed hsc).inside hown)
  obtain ⟨slot, hfiles⟩ : ∃ slot, s.processor.capture = .files scratch slot := by
    cases hcap : s.processor.capture with
    | buffered => rw [hcap] at hsc; cases hsc
    | files scratch' slot => rw [hcap] at hsc; cases hsc; exact ⟨slot, rfl⟩
  refine .termsOnceGone scratch slot hfiles hown hgone hpast
    (hc.lostOutput (yields s payload) fun sink hm => ?_)
  have horphaned := ho.orphaned hfiles hgone hm.2
  exact ⟨horphaned, fun stream => Or.inr (horphaned.held stream)⟩

/-- A step of the closing keeps the phase, or ends it. -/
theorem Phase.closingStep (ho : Open s) (g : Unchanged s o) (h : Phase s payload o) :
    Unchanged s o.closingStep ∧ Phase s payload o.closingStep := by
  cases h with
  | termsWhileThere hs ht hb hc =>
    have hbuf : s.processor.capture = .buffered → o.closingStep.lost = fun _ => [] := fun he =>
      (lostOutput_buffered he hc _).trans (hb he)
    obtain ⟨honlyOwn, ⟨calls, htouches⟩ | ⟨scratch, hsc, hown, hpast, hv⟩⟩ :=
      Closing.step_onlyOwn (ht.congr g.continued.scratch) fun scratch hsc =>
        hs scratch (g.continued.scratch ▸ hsc)
    · have hloss := (o.closing.step_frame o.scene).2.2.2
      exact ⟨g.closingStep fun e he => htouches.faulty he,
        .termsWhileThere (fun scratch hsc => (hs scratch hsc).touches htouches)
          (honlyOwn.congr g.continued.scratch.symm)
          hbuf (hc.lostOutput (.refl _) fun sink hm => ⟨⟨hm.1.touches htouches, hm.2⟩,
            hm.1.loss htouches hloss⟩)⟩
    · have hsunk : o.closingStep.scene.site.volume =
          o.scene.site.volume.withoutDirectory scratch.path.parts := hv
      rw [g.continued.scratch] at hsc
      exact ⟨g.closingStep fun e he => termsOnceGone_faulty (hsunk ▸ he),
        .sinks ho (hs scratch hsc) hc hsc hown hpast hsunk⟩
  | termsOnceGone scratch slot hs hown hg hp hc =>
    -- A closing that has removed the directory does not touch the files any more.
    obtain ⟨hpast, hv⟩ := Closing.step_past (s := o.scene) hp
    have hsame : o.closingStep.scene.site.volume = o.scene.site.volume := hv
    have hlost : o.closingStep.lost = o.lost := by
      show o.call.lostOutput _ o.closingStep.scene.site.volume o.lost = o.lost
      rw [hsame]
      exact Call.lostOutput_same fun _ _ _ => rfl
    refine ⟨g.closingStep fun e he => hsame ▸ he,
      .termsOnceGone scratch slot hs hown (hsame ▸ hg) hpast ?_⟩
    rw [hlost, hsame]
    exact hc

theorem Reached.phase (ho : Open s) (h : Reached s payload o) :
    Unchanged s o ∧ Phase s payload o := by
  induction h with
  | start =>
    have hn : ∀ id, Call.Trail.start.id = some id → id = s.nextId := fun id h => by cases h
    exact ⟨⟨.refl s, rfl, fun _ h => h, fun _ => rfl, hn, fun _ => rfl⟩,
      .termsWhileThere ho.sound trivial (fun _ => rfl) (.admission _ rfl fun _ => rfl)⟩
  | call o h ih => exact ih.2.callStep ho ih.1
  | closing o h ih => exact ih.2.closingStep ho ih.1

end Overlap

end GuestRunner
