import GuestRunner.Proofs.Capture.Invariant
import GuestRunner.Proofs.Files.Gone

/-!
# Orphaned sinks

A sink is orphaned when the directory of its files has been removed. It holds nothing any more, and
what is written to it fails; its other operations take the missing files for empty ones.
-/

set_option autoImplicit false

namespace GuestRunner.Sink

open Files Files.Volume Run

def Orphaned (sink : Sink) (v : Volume) : Prop :=
  match sink with
  | .buffered .. => False
  | .files out err => ∀ stream, v.Nowhere (pathOf out err stream)

variable {sink : Sink} {v : Volume}

theorem Orphaned.held (h : sink.Orphaned v) (stream : Stream) : sink.held stream v = [] := by
  cases sink with
  | buffered out err => exact h.elim
  | files out err => simp [Sink.held, (h stream).place_none]

theorem Orphaned.after (h : sink.Orphaned v) (call : Files.Call) :
    sink.Orphaned (v.after call) := by
  cases sink with
  | buffered out err => exact h.elim
  | files out err => exact fun stream => (h stream).after call

theorem clear_orphaned (h : sink.Orphaned v) (stream : Stream)
    (hs : sink.CallFaultless v .truncate) :
    sink.clear stream v = (.ok (), v.after .truncate) := by
  cases sink with
  | buffered out err => exact h.elim
  | files out err =>
    obtain ⟨e, he, hm⟩ := (h stream).truncate (hs (by simp [filePaths]))
    simp [clear, he, hm]

theorem drain_orphaned (h : sink.Orphaned v) (stream : Stream) (hs : sink.CallFaultless v .open) :
    sink.drain stream v = (.ok [], v.after .open) := by
  cases sink with
  | buffered out err => exact h.elim
  | files out err =>
    obtain ⟨e, he, hm⟩ := (h stream).readStream (hs (by simp [filePaths]))
    simp [drain, he, hm]

theorem discard_orphaned (h : sink.Orphaned v) (stream : Stream)
    (hs : sink.CallFaultless v .unlink) :
    sink.discard stream v = (.ok (), sink, v.after .unlink) := by
  cases sink with
  | buffered out err => exact h.elim
  | files out err =>
    obtain ⟨e, he, hm⟩ := (h stream).unlink (hs (by simp [filePaths]))
    simp [discard, he, hm]

/-- Whatever a guest writes fails, because there is no directory to make the file in. -/
theorem guestWrite_orphaned (again : Call.Again) {act : Act} {done : List Act} {s : Scene}
    (h : sink.Orphaned s.site.volume) (ha : AddsTo done act) :
    ∃ e, e.isMissing = true ∧ Call.perform again sink act s = (.error (.os e), s) := by
  cases sink with
  | buffered out err => exact h.elim
  | files out err =>
    cases act with
    | write stream chunk =>
      obtain ⟨e, he, hm⟩ := (h stream).refill (· ++ chunk)
      have hw : s.site.volume.append (pathOf out err stream) chunk = (.error e, s.site.volume) := he
      refine ⟨e, hm, ?_⟩
      simp only [Call.perform, Call.write, Call.afterWriting, Sink.write, hw]
      rfl
    | writeAt stream position chunk =>
      obtain ⟨e, he, hm⟩ := (h stream).refill (·.overlaid position chunk)
      have hw : s.site.volume.writeAt (pathOf out err stream) position chunk =
          (.error e, s.site.volume) := he
      refine ⟨e, hm, ?_⟩
      simp only [Call.perform, Call.afterWriting, Sink.writeAt, hw]
      rfl
    | _ => exact ha.elim

theorem orphaned_invariant :
    Invariant True (fun _ => False) (fun e => e.isMissing = true)
      fun sink v => sink.Orphaned v where
  usesFiles _ _ := trivial
  after call h := h.after call
  clear stream h _ hs :=
    ⟨_, clear_orphaned h stream hs, after_touches _ _ _, h.after _, (h.after _).held stream,
      fun other _ => by rw [(h.after _).held other, h.held other]⟩
  guestWrite again h ha _ _ := Or.inr (guestWrite_orphaned again h ha)
  drain stream h hs :=
    ⟨_, by rw [drain_orphaned h stream hs, h.held stream], after_touches _ _ _, h.after _,
      fun other => by rw [(h.after _).held other, h.held other]⟩
  discard stream h hs :=
    ⟨_, _, discard_orphaned h stream hs, after_touches _ _ _, h.after _⟩

end GuestRunner.Sink
