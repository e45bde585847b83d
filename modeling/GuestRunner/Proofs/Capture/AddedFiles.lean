import GuestRunner.Processor.Call
import GuestRunner.Proofs.Capture.Resolved
import GuestRunner.Proofs.Files.AddedFiles

/-!
# The files that a sink adds

For one run a sink may add its files to the volume. They may come and go while the guest runs, and
releasing the sink removes them, one stream after the other.
-/

set_option autoImplicit false

namespace GuestRunner

open Files Files.Volume

def Stream.left : Stream → List Stream
  | .stdout => [.stdout, .stderr]
  | .stderr => [.stderr]

namespace Sink

def placesFor (b : Tree) (sink : Sink) (streams : List Stream) : List Place :=
  match sink.filePaths with
  | none => []
  | some (out, err) => streams.flatMap fun stream => b.placeFor (pathOf out err stream)

structure NoFilesYet (b : Tree) (sink : Sink) : Prop where
  vacant : ∀ out err, sink.filePaths = some (out, err) → ∀ stream, b.Vacant (pathOf out err stream)
  together : ∀ out err, sink.filePaths = some (out, err) → b.placeFor out = [] → b.placeFor err = []

structure OnlyOwnFiles (b : Volume) (streams : List Stream) (sink : Sink) (v : Volume) : Prop where
  noFilesYet : sink.NoFilesYet b.tree
  onlyAdded : OnlyAdded b (sink.placesFor b.tree streams) v

variable {b v v' : Volume} {sink sink' : Sink} {stream : Stream} {streams : List Stream}
  {done : Except OsError Unit}

theorem discard_filePaths (h : sink.discard stream v = (done, sink', v')) :
    sink'.filePaths = sink.filePaths := by
  cases sink with
  | buffered out err => cases stream <;> cases h <;> rfl
  | files out err =>
    simp only [discard] at h
    split at h <;> cases h <;> rfl

theorem placesFor_files (t : Tree) (out err : Path) (streams : List Stream) :
    (files out err).placesFor t streams =
      streams.flatMap fun stream => t.placeFor (pathOf out err stream) :=
  rfl

theorem placesFor_nil (t : Tree) (sink : Sink) : sink.placesFor t [] = [] := by
  cases sink <;> rfl

theorem placeFor_subset (t : Tree) (out err : Path) (stream : Stream) :
    t.placeFor (pathOf out err stream) ⊆ (files out err).placesFor t Stream.stdout.left := by
  intro q hq
  apply List.mem_flatMap.mpr
  exact ⟨stream, by cases stream <;> decide, hq⟩

theorem onlyOwnFiles_nil (hq : b.schedule = .quiet) (hs : sink.NoFilesYet b.tree) :
    sink.OnlyOwnFiles b [] v ↔ v = b := by
  have hl := onlyAdded_nil (v := v) hq
  rw [← placesFor_nil b.tree sink] at hl
  constructor
  · intro h
    exact hl.mp h.onlyAdded
  · intro h
    exact ⟨hs, hl.mpr h⟩

namespace OnlyOwnFiles

theorem filePaths (h : sink.OnlyOwnFiles b streams v) (hp : sink'.filePaths = sink.filePaths) :
    sink'.OnlyOwnFiles b streams v where
  noFilesYet := ⟨hp ▸ h.noFilesYet.vacant, hp ▸ h.noFilesYet.together⟩
  onlyAdded := by
    rw [placesFor, hp]
    exact h.onlyAdded

theorem settled (h : sink.OnlyOwnFiles b [] v) : v = b :=
  (onlyOwnFiles_nil h.onlyAdded.quiet h.noFilesYet).mp h

theorem clear (h : sink.OnlyOwnFiles b [] v) {cleared : Except Problem Unit}
    (hc : sink.clear stream v = (cleared, v')) : v' = v := by
  obtain rfl := h.settled
  cases sink with
  | buffered out err =>
    cases hc
    rfl
  | files out err =>
    have ht := truncate_vacant h.onlyAdded.quiet (h.noFilesYet.vacant out err rfl stream)
    simp only [Sink.clear] at hc
    split at hc <;> rename_i he <;> cases hc <;> rwa [he] at ht

theorem borrow (h : sink.OnlyOwnFiles b [] v) : sink.OnlyOwnFiles b Stream.stdout.left v where
  noFilesYet := h.noFilesYet
  onlyAdded := by
    obtain rfl := h.settled
    refine ⟨h.onlyAdded.quiet, rfl, Tree.filesAdded_absent fun q hq => ?_⟩
    cases sink with
    | buffered out err => cases hq
    | files out err =>
      obtain ⟨stream, -, hq⟩ := List.mem_flatMap.mp hq
      exact (h.noFilesYet.vacant out err rfl stream).absent hq

theorem write (h : sink.OnlyOwnFiles b Stream.stdout.left v) (stream : Stream) (chunk : Bytes) :
    sink.OnlyOwnFiles b Stream.stdout.left (sink.write stream chunk v).2.2 := by
  cases sink with
  | buffered out err => cases stream <;> exact h
  | files out err =>
    exact ⟨h.noFilesYet, h.onlyAdded.refill (h.noFilesYet.vacant out err rfl stream)
      (placeFor_subset _ _ _ stream) _⟩

theorem writeAt (h : sink.OnlyOwnFiles b Stream.stdout.left v) (stream : Stream) (position : Nat)
    (chunk : Bytes) : sink.OnlyOwnFiles b Stream.stdout.left
      (sink.writeAt stream position chunk v).2.2 := by
  cases sink with
  | buffered out err => exact h.write stream chunk
  | files out err =>
    exact ⟨h.noFilesYet, h.onlyAdded.refill (h.noFilesYet.vacant out err rfl stream)
      (placeFor_subset _ _ _ stream) _⟩

theorem unlinkIfThere {out err : Path} (h : (files out err).OnlyOwnFiles b Stream.stdout.left v)
    (stream : Stream) :
    (files out err).OnlyOwnFiles b Stream.stdout.left
      (v.unlinkIfThere (pathOf out err stream)).2 := by
  have hl := h.onlyAdded.unlink (h.noFilesYet.vacant out err rfl stream)
    (placeFor_subset _ _ _ stream)
  refine ⟨h.noFilesYet, ?_⟩
  rw [Volume.unlinkIfThere, guarded_quiet h.onlyAdded.calm]
  cases hr : v.onTree (pathOf out err stream) v.tree.unlink with
  | mk done w =>
    rw [hr] at hl
    cases done <;> exact hl

theorem removeStreams (h : sink.OnlyOwnFiles b Stream.stdout.left v) :
    sink.OnlyOwnFiles b Stream.stdout.left (Call.removeStreams sink v).2 := by
  cases sink with
  | buffered out err => exact h
  | files out err =>
    have hout := h.unlinkIfThere .stdout
    simp only [Call.removeStreams]
    split <;> rename_i he
    · rw [show v.unlinkIfThere (pathOf out err .stdout) = _ from he] at hout
      exact hout.unlinkIfThere .stderr
    · rwa [show v.unlinkIfThere (pathOf out err .stdout) = _ from he] at hout

theorem drain (h : sink.OnlyOwnFiles b streams v) {content : Except Problem Bytes}
    (hd : sink.drain stream v = (content, v')) : v' = v := by
  cases sink with
  | buffered out err => cases stream <;> cases hd <;> rfl
  | files out err =>
    have hr := readStream_quiet h.onlyAdded.calm (pathOf out err stream)
    simp only [Sink.drain] at hd
    split at hd <;> rename_i he <;> cases hd <;> rwa [he] at hr

/-- A stream that is discarded removes its file, and fails only if it had no place for one. -/
theorem discard (h : sink.OnlyOwnFiles b (stream :: streams) v)
    (hd : sink.discard stream v = (done, sink', v')) :
    sink'.OnlyOwnFiles b streams v' ∧ ∀ e, done = .error e →
      sink'.placesFor b.tree [stream] = [] := by
  cases sink with
  | buffered out err =>
    have hs : ∀ other : Sink, other.filePaths = (buffered out err).filePaths →
      other.NoFilesYet b.tree :=
      fun _ hp => (h.filePaths hp).noFilesYet
    cases stream <;> cases hd <;> exact ⟨⟨hs _ rfl, h.onlyAdded⟩, fun _ _ => rfl⟩
  | files out err =>
    have hl := h.onlyAdded
    rw [placesFor_files, List.flatMap_cons] at hl
    obtain ⟨hback, hfail⟩ := hl.takeBack (h.noFilesYet.vacant out err rfl stream)
    have hone : (files out err).placesFor b.tree [stream] =
      b.tree.placeFor (pathOf out err stream) := by
      rw [placesFor_files, List.flatMap_cons, List.flatMap_nil, List.append_nil]
    simp only [Sink.discard] at hd
    split at hd
    · rename_i w he
      rw [he] at hback
      cases hd
      exact ⟨⟨h.noFilesYet, hback⟩, by simp⟩
    · rename_i e w he
      rw [he] at hback hfail
      cases hd
      refine ⟨⟨h.noFilesYet, hback⟩, fun e' hdone => ?_⟩
      cases hm : e.isMissing with
      | true => simp [hm] at hdone
      | false => exact hone.trans (hfail e rfl hm)

/-- A sink that cannot be released has made no files. -/
theorem stuck {e : OsError} (h : sink.OnlyOwnFiles b stream.left v)
    (hd : sink.discard stream v = (.error e, sink', v')) : v' = b := by
  cases stream with
  | stderr => exact (h.discard hd).1.settled
  | stdout =>
    obtain ⟨hb, hnone⟩ := h.discard hd
    have hout := hnone e rfl
    have herr : sink'.placesFor b.tree [.stderr] = [] := by
      cases sink' with
      | buffered out err => rfl
      | files out err =>
        rw [placesFor_files, List.flatMap_cons, List.flatMap_nil, List.append_nil] at hout ⊢
        exact hb.noFilesYet.together out err rfl hout
    have hl := hb.onlyAdded
    rw [herr] at hl
    exact (onlyAdded_nil hl.quiet).mp hl

end OnlyOwnFiles

end Sink

end GuestRunner
