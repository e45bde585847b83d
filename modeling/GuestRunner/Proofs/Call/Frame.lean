import GuestRunner.Proofs.Processor.Reachable
import GuestRunner.Proofs.Scratch.Untaken

/-!
# The frame of an invocation

An invocation leaves the volume as it finds it, on every way out. Its guest may do what it likes
with the files of its sink and may start other invocations, as long as it neither closes the
processor nor puts something else in the way of its files. In between the volume differs in the
files of the sink, and not at all where output is captured in buffers.
-/

set_option autoImplicit false

namespace GuestRunner

open Files Files.Volume

def Act.Confined : Act → Prop
  | .closeProcessor | .blockStream _ => False
  | _ => True

def Backend.Confined (backend : Backend) : Prop :=
  ∀ closed module context v, ∀ act ∈ (backend.run closed module context v).acts, act.Confined

namespace Scene

structure Unobstructed (b : Volume) (s : Scene) : Prop where
  calm : s.alarm = .off
  quiet : b.schedule = .quiet
  confined : s.processor.backend.Confined
  untaken : ∀ scratch n, s.processor.capture = .files scratch n → scratch.Untaken n b.tree

structure WorkedOn (s s' : Scene) : Prop where
  continued : Continued s s'
  closed : s'.processor.closed = s.processor.closed
  opened : ∀ scratch n', s'.processor.capture = .files scratch n' →
    ∃ n ≤ n', s.processor.capture = .files scratch n
  buffered : s'.processor.capture = .buffered → s.processor.capture = .buffered

variable {b : Volume} {s s' s'' : Scene}

theorem WorkedOn.same (hk : Continued s s') (hc : s'.processor.closed = s.processor.closed)
    (hf : s'.processor.capture = s.processor.capture) : WorkedOn s s' where
  continued := hk
  closed := hc
  opened _ n' h := ⟨n', Nat.le_refl n', hf ▸ h⟩
  buffered h := hf ▸ h

theorem WorkedOn.refl (s : Scene) : WorkedOn s s := .same (.refl s) rfl rfl

theorem WorkedOn.worked (hp : s'.processor = { s.processor with deeds := s'.processor.deeds })
    (ha : s'.alarm = s.alarm) : WorkedOn s s' := by
  refine .same ⟨?_, ?_, ?_, ?_, ha.trans⟩ ?_ ?_ <;> rw [hp]

theorem emit_workedOn (s : Scene) (event : Event) : WorkedOn s (s.emit event).2 := .worked rfl rfl

theorem WorkedOn.trans (h : WorkedOn s s') (h' : WorkedOn s' s'') : WorkedOn s s'' where
  continued := h.continued.trans h'.continued
  closed := h'.closed.trans h.closed
  opened scratch n'' hc := by
    obtain ⟨n', hn', hc'⟩ := h'.opened scratch n'' hc
    obtain ⟨n, hn, hc''⟩ := h.opened scratch n' hc'
    exact ⟨n, Nat.le_trans hn hn', hc''⟩
  buffered hc := h.buffered (h'.buffered hc)

theorem Unobstructed.workedOn (h : s.Unobstructed b) (hg : WorkedOn s s') : s'.Unobstructed b where
  calm := hg.continued.calm h.calm
  quiet := h.quiet
  confined := hg.continued.backend ▸ h.confined
  untaken scratch n' hc := by
    obtain ⟨n, hn, hc'⟩ := hg.opened scratch n' hc
    exact (h.untaken scratch n hc').mono hn

end Scene

open Scene

structure Sink.AtWork (b : Volume) (streams : List Stream) (sink : Sink) (s : Scene) : Prop where
  onlyOwnFiles : sink.OnlyOwnFiles b streams s.site.volume
  past : ∀ scratch n, s.processor.capture = .files scratch n → sink.Past scratch n
  buffered : s.processor.capture = .buffered → sink.filePaths = none

namespace Sink.AtWork

variable {b : Volume} {streams streams' : List Stream} {sink sink' : Sink} {s s' : Scene}

theorem workedOn (h : sink.AtWork b streams s) (hg : WorkedOn s s')
    (hb : sink'.OnlyOwnFiles b streams' s'.site.volume) (hp : sink'.filePaths = sink.filePaths) :
    sink'.AtWork b streams' s' where
  onlyOwnFiles := hb
  past scratch n' hc out err ho stream slot id stream' hs := by
    obtain ⟨n, hn, hc'⟩ := hg.opened scratch n' hc
    exact h.past scratch n hc' out err (hp ▸ ho) stream slot id stream' (Nat.le_trans hn hs)
  buffered hc := hp ▸ h.buffered (hg.buffered hc)

theorem touched (h : sink.AtWork b streams s) {v : Volume} (hb : sink.OnlyOwnFiles b streams' v) :
    sink.AtWork b streams' (s.withVolume v) :=
  h.workedOn (.worked rfl rfl) hb rfl

theorem worked (h : sink.AtWork b streams s)
    (hp : s'.processor = { s.processor with deeds := s'.processor.deeds })
    (ha : s'.alarm = s.alarm) (hv : s'.site.volume = s.site.volume) :
    WorkedOn s s' ∧ sink.AtWork b streams s' :=
  ⟨.worked hp ha, h.workedOn (.worked hp ha) (hv ▸ h.onlyOwnFiles) rfl⟩

theorem unobstructed (h : sink.AtWork b streams s) (ht : s.Unobstructed b) :
    s.Unobstructed s.site.volume where
  calm := ht.calm
  quiet := h.onlyOwnFiles.onlyAdded.calm
  confined := ht.confined
  untaken scratch n hc := (ht.untaken scratch n hc).filesAdded h.onlyOwnFiles (h.past scratch n hc)

end Sink.AtWork

/-- The sink of the next run has nothing to do with what is there. -/
theorem Scene.Unobstructed.opened {b : Volume} {s : Scene} (h : s.Unobstructed b)
    (hv : s.site.volume = b) (id : Nat) :
    WorkedOn s (s.withCapture (s.processor.capture.nextSink (Value.ofNat id)).2) ∧
      (s.processor.capture.nextSink (Value.ofNat id)).1.AtWork b []
        (s.withCapture (s.processor.capture.nextSink (Value.ofNat id)).2) := by
  have hk : Continued s (s.withCapture (s.processor.capture.nextSink (Value.ofNat id)).2) :=
    ⟨rfl, rfl, rfl, s.processor.capture.nextSink_scratch _, fun ha => ha⟩
  cases hc : s.processor.capture with
  | buffered =>
    rw [hc] at hk
    have hs : (Sink.buffered [] []).NoFilesYet b.tree := by
      constructor <;> intro out err hp <;> cases hp
    exact ⟨⟨hk, rfl, nofun, fun _ => hc⟩, (Sink.onlyOwnFiles_nil h.quiet hs).mpr hv, nofun,
      fun _ => rfl⟩
  | files scratch n =>
    have hu := h.untaken scratch n hc
    rw [hc] at hk
    refine ⟨⟨hk, rfl, ?_, nofun⟩, ?_, ?_, nofun⟩
    · rintro _ _ ⟨⟩
      exact ⟨n, Nat.le_succ n, hc⟩
    · exact (Sink.onlyOwnFiles_nil h.quiet (hu.noFilesYet id)).mpr hv
    · rintro _ _ ⟨⟩
      exact hu.past id

namespace Call

variable {b : Volume} {again : Again} {c c' : Call} {s s' : Scene} {sink : Sink}

def Again.Frames (again : Again) : Prop :=
  ∀ payload s, s.Unobstructed s.site.volume →
    WorkedOn s (again payload s).2 ∧ (again payload s).2.site.volume = s.site.volume

def Holds (b : Volume) : Call → Scene → Prop
  | .clearing _ sink _, s | .starting _ sink, s => sink.AtWork b [] s
  | .running _ sink acts _, s => sink.AtWork b Stream.stdout.left s ∧ ∀ act ∈ acts, act.Confined
  | .draining _ sink _, s | .drainingError _ sink _ _, s => sink.AtWork b Stream.stdout.left s
  | .releasing _ sink stream _, s => sink.AtWork b stream.left s
  | _, s => s.site.volume = b

/-- Everywhere it differs in added files only, and for buffers there are none. -/
theorem Holds.onlyAdded (h : c.Holds b s) (ht : s.Unobstructed b) :
    ∃ here, OnlyAdded b here s.site.volume ∧
    (s.processor.capture = .buffered → here = []) := by
  have hstill : s.site.volume = b → ∃ here, OnlyAdded b here s.site.volume ∧
      (s.processor.capture = .buffered → here = []) := fun hv =>
    ⟨[], (onlyAdded_nil ht.quiet).mpr hv, fun _ => rfl⟩
  have hwork : ∀ {streams : List Stream} {sink : Sink}, sink.AtWork b streams s →
      ∃ here, OnlyAdded b here s.site.volume ∧ (s.processor.capture = .buffered → here = []) := by
    intro streams sink hw
    refine ⟨_, hw.onlyOwnFiles.onlyAdded, fun hc => ?_⟩
    simp only [Sink.placesFor, hw.buffered hc]
  cases c with
  | clearing job sink stream => exact hwork h
  | starting job sink => exact hwork h
  | running id sink acts ending => exact hwork h.1
  | draining id sink outcome => exact hwork h
  | drainingError id sink outcome output => exact hwork h
  | releasing id sink stream pending => exact hwork h
  | _ => exact hstill h

theorem perform_atWork {act : Act} (ha : again.Frames) (hc : act.Confined) (ht : s.Unobstructed b)
    (hw : sink.AtWork b Stream.stdout.left s) :
    WorkedOn s (perform again sink act s).2 ∧
      sink.AtWork b Stream.stdout.left (perform again sink act s).2 := by
  have htouch : ∀ v, WorkedOn s (s.withVolume v) := fun v => .worked rfl rfl
  cases act with
  | write stream chunk => exact ⟨htouch _, hw.touched (hw.onlyOwnFiles.write stream chunk)⟩
  | writeAt stream position chunk =>
    exact ⟨htouch _, hw.touched (hw.onlyOwnFiles.writeAt stream position chunk)⟩
  | process stream payload =>
    -- The other invocation works on a volume with the files of this one in it.
    obtain ⟨hg, hv⟩ := ha payload s (hw.unobstructed ht)
    have hw' : sink.AtWork b Stream.stdout.left (again payload s).2 :=
      hw.workedOn hg (by rw [hv]; exact hw.onlyOwnFiles) rfl
    simp only [perform]
    split <;> rename_i he <;> rw [he] at hg hw'
    · exact ⟨hg.trans (.worked rfl rfl), hw'.touched (hw'.onlyOwnFiles.write stream _)⟩
    · exact ⟨hg, hw'⟩
  | closeProcessor => exact hc.elim
  | wait =>
    have hr : s.ring = s := by simp [ring, ht.calm]
    simp only [perform, hr]
    exact ⟨.refl s, hw⟩
  | removeStreams => exact ⟨htouch _, hw.touched hw.onlyOwnFiles.removeStreams⟩
  | blockStream stream => exact hc.elim

theorem settle_workedOn {id : Nat} {pending : Except Problem Drained}
    {result : Except Problem Result}
    (h : settle id pending s = (result, s')) : WorkedOn s s' ∧ s'.site.volume = s.site.volume := by
  have hs : s' = s ∨ ∃ event, s' = (s.emit event).2 := by
    simp only [settle] at h
    split at h
    · exact Or.inr ⟨_, (congrArg Prod.snd h).symm⟩
    · exact Or.inr ⟨_, (congrArg Prod.snd h).symm⟩
    · exact Or.inl (congrArg Prod.snd h).symm
  rcases hs with rfl | ⟨event, rfl⟩
  · exact ⟨.refl s', rfl⟩
  · exact ⟨s.emit_workedOn event, s.emit_volume event⟩

/-- A move changes nothing but the files of the sink of the invocation. -/
theorem Move.holds (h : Move again c s c' s') (ha : again.Frames) (ht : s.Unobstructed b)
    (hh : c.Holds b s) : WorkedOn s s' ∧ c'.Holds b s' := by
  cases h with
  | refused => exact ⟨.refl s, hh⟩
  | admitted => exact ⟨.same ⟨rfl, rfl, rfl, rfl, id⟩ rfl rfl, hh⟩
  | fetched => exact ⟨.refl s, hh⟩
  | unreadable => exact ⟨.refl s, hh⟩
  | announced id module payload s s' content h hs =>
    obtain rfl := congrArg Prod.snd hs
    exact ⟨s.emit_workedOn _, (s.emit_volume _).trans hh⟩
  | unannounced id module payload s s' content problem h hs =>
    obtain rfl := congrArg Prod.snd hs
    exact ⟨s.emit_workedOn _, (s.emit_volume _).trans hh⟩
  | opened job s => exact ht.opened hh job.id
  | blocked job sink stream s v problem h =>
    obtain rfl := hh.onlyOwnFiles.clear h
    exact ⟨.worked rfl rfl, hh.onlyOwnFiles.settled⟩
  | clearedOut job sink s v h =>
    obtain rfl := hh.onlyOwnFiles.clear h
    exact hh.worked rfl rfl rfl
  | clearedErr job sink s v h =>
    obtain rfl := hh.onlyOwnFiles.clear h
    exact hh.worked rfl rfl rfl
  | started job sink s =>
    exact ⟨.worked rfl rfl, hh.workedOn (.worked rfl rfl) hh.onlyOwnFiles.borrow rfl,
      ht.confined _ _ _ _⟩
  | completed => exact ⟨.refl s, hh.1⟩
  | broken => exact hh.1.worked rfl rfl rfl
  | acted id sink sink' act rest ending s s' h =>
    obtain ⟨hg, hw⟩ := perform_atWork ha (hh.2 act List.mem_cons_self) ht hh.1
    rw [h] at hg hw
    exact ⟨hg, hw.workedOn (.refl s') (hw.onlyOwnFiles.filePaths (perform_filePaths h))
      (perform_filePaths h),
      fun a ha => hh.2 a (List.mem_cons_of_mem act ha)⟩
  | stumbled id sink act rest ending s s' problem h =>
    obtain ⟨hg, hw⟩ := perform_atWork ha (hh.2 act List.mem_cons_self) ht hh.1
    rw [h] at hg hw
    have hd : _ ∧ sink.AtWork b _ (s'.did (.release sink)) := hw.worked rfl rfl rfl
    exact ⟨hg.trans hd.1, hd.2⟩
  | drained id sink outcome s v output h =>
    obtain rfl := hh.onlyOwnFiles.drain h
    exact hh.worked rfl rfl rfl
  | unread id sink outcome s v problem h =>
    obtain rfl := hh.onlyOwnFiles.drain h
    exact hh.worked rfl rfl rfl
  | drainedError id sink outcome output s v content h =>
    obtain rfl := hh.onlyOwnFiles.drain h
    exact hh.worked rfl rfl rfl
  | stuck id sink sink' stream pending s v e h => exact ⟨.worked rfl rfl, hh.onlyOwnFiles.stuck h⟩
  | releasedOut id sink sink' pending s v h =>
    exact ⟨.worked rfl rfl, hh.workedOn (.worked rfl rfl) (hh.onlyOwnFiles.discard h).1
      (Sink.discard_filePaths h)⟩
  | releasedErr id sink sink' pending s v h =>
    exact ⟨.worked rfl rfl, (hh.onlyOwnFiles.discard h).1.settled⟩
  | settled id pending s s' result h =>
    obtain ⟨hg, hv⟩ := settle_workedOn h
    exact ⟨hg, hv.trans hh⟩
  | rested => exact ⟨.refl s, hh⟩

structure Framed (b : Volume) (start : Scene) (c : Call) (s : Scene) : Prop where
  unobstructed : s.Unobstructed b
  workedOn : WorkedOn start s
  holds : c.Holds b s

theorem Framed.step {start : Scene} (h : Framed b start c s) (ha : again.Frames) :
    Framed b start (step again c s).1 (step again c s).2 := by
  obtain ⟨hg, hh⟩ := (calm_move again c h.unobstructed.calm).holds ha h.unobstructed h.holds
  exact ⟨h.unobstructed.workedOn hg, h.workedOn.trans hg, hh⟩

theorem steps_framed (ha : again.Frames) (ht : s.Unobstructed s.site.volume) (payload : Value)
    (n : Nat) :
    Framed s.site.volume s (steps again n (.admission payload, s)).1
      (steps again n (.admission payload, s)).2 :=
  steps_keep (Q := Framed s.site.volume s) (fun _ _ h => h.step ha) n _ s ⟨ht, .refl s, rfl⟩

theorem run_framed (ha : again.Frames) (ht : s.Unobstructed s.site.volume) (payload : Value) :
    WorkedOn s (run again (.admission payload) s).2 ∧
      (run again (.admission payload) s).2.site.volume = s.site.volume := by
  obtain ⟨result, s', hr, h⟩ := run_keeps again (Q := Framed s.site.volume s)
    (c := .admission payload) (s := s) (fun _ _ h => h.step ha) ⟨ht, .refl s, rfl⟩
  rw [hr]
  exact ⟨h.workedOn, h.holds⟩

end Call

namespace Scene

variable {s : Scene}

theorem invokeWithin_frames (depth : Nat) :
    Call.Again.Frames fun payload s => outputOnly (invokeWithin depth payload s) := by
  induction depth with
  | zero => exact fun payload s _ => ⟨.refl s, rfl⟩
  | succ depth ih => exact fun payload s ht => Call.run_framed ih ht payload

theorem again_frames : Call.Again.Frames again := invokeWithin_frames nestingLimit

theorem invoke_frames (ht : s.Unobstructed s.site.volume) (payload : Value) :
    WorkedOn s (s.invoke payload).2 ∧ (s.invoke payload).2.site.volume = s.site.volume :=
  Call.run_framed again_frames ht payload

end Scene

end GuestRunner
