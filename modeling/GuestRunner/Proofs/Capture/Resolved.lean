import GuestRunner.Capture.Sink
import GuestRunner.Proofs.Files.FilePath

/-!
# Sinks whose files are resolved

The files of a sink are resolved when the path of each stream leads directly to a place of its own;
buffers need none. What a stream of such a sink holds is then changed by the operations of the sink
as if it were a buffer: emptying leaves nothing, writing adds to the end, draining gives all of it
back, and no operation on one stream reaches the other.
-/

set_option autoImplicit false

namespace GuestRunner.Sink

open Files Files.Volume

def held (sink : Sink) (stream : Stream) (v : Volume) : Bytes :=
  match sink, stream with
  | .buffered out _, .stdout => out
  | .buffered _ err, .stderr => err
  | .files out err, stream => ((v.place? (pathOf out err stream)).map v.tree.content).getD []

def filePaths : Sink → Option (Path × Path)
  | .buffered .. => none
  | .files out err => some (out, err)

def Resolved (sink : Sink) (place : Stream → Place) (v : Volume) : Prop :=
  match sink with
  | .buffered .. => True
  | .files out err =>
    place .stdout ≠ place .stderr ∧ ∀ stream, v.LeadsDirectly (pathOf out err stream) (place stream)

def CallFaultless (sink : Sink) (v : Volume) (call : Files.Call) : Prop :=
  sink.filePaths ≠ none → v.Faultless call 1

def Fresh : Sink → Prop
  | .buffered out err => out = [] ∧ err = []
  | .files .. => True

structure Change (place : Stream → Place) (stream : Stream) (calls : List Files.Call)
    (content : Bytes) (sink : Sink) (v : Volume) (sink' : Sink) (v' : Volume) : Prop where
  held : sink'.held stream v' = content
  others : ∀ other, other ≠ stream → sink'.held other v' = sink.held other v
  filePaths : sink'.filePaths = sink.filePaths
  resolved : sink'.Resolved place v'
  touches : TouchesOnly (· = place stream) calls v v'

variable {sink : Sink} {place : Stream → Place} {v v' : Volume}

theorem Resolved.touches {here : Place → Prop} {calls : List Files.Call}
    (hm : sink.Resolved place v)
    (h : TouchesOnly here calls v v') : sink.Resolved place v' := by
  cases sink with
  | buffered out err => trivial
  | files out err => exact ⟨hm.1, fun stream => (hm.2 stream).touches h⟩

theorem held_leadsDirectly {out err : Path} {stream : Stream} {p : Place}
    (b : v.LeadsDirectly (pathOf out err stream) p) :
    (files out err).held stream v = v.tree.content p := by
  simp [held, b.leadsToFile.place_eq]

theorem Resolved.held_touches {here : Place → Prop} {calls : List Files.Call}
    (hm : sink.Resolved place v) (h : TouchesOnly here calls v v') {stream : Stream}
    (hs : ¬ here (place stream)) : sink.held stream v' = sink.held stream v := by
  cases sink with
  | buffered out err => cases stream <;> rfl
  | files out err =>
    rw [held_leadsDirectly (hm.2 stream), held_leadsDirectly ((hm.2 stream).touches h),
      h.tree.content hs]

theorem Resolved.place_ne {out err : Path} (hm : (files out err).Resolved place v)
    {stream other : Stream} (hne : other ≠ stream) : place other ≠ place stream := by
  cases stream <;> cases other
  · exact absurd rfl hne
  · exact hm.1.symm
  · exact hm.1
  · exact absurd rfl hne

theorem Resolved.apart {here : Place → Prop} {calls : List Files.Call} (hm : sink.Resolved place v)
    (ht : TouchesOnly here calls v v')
    (hd : ∀ stream, place stream ≠ [] → ¬ here (place stream)) :
    sink.Resolved place v' ∧ ∀ stream, sink.held stream v' = sink.held stream v := by
  refine ⟨hm.touches ht, fun stream => ?_⟩
  cases sink with
  | buffered out err => cases stream <;> rfl
  | files out err => exact hm.held_touches ht (hd stream (hm.2 stream).below)

theorem Resolved.loss {here : Place → Prop} {calls : List Files.Call} (hm : sink.Resolved place v)
    (ht : TouchesOnly here calls v v') (hl : v.tree.Loss v'.tree) (stream : Stream) :
    sink.held stream v' = sink.held stream v ∨ sink.held stream v' = [] := by
  cases sink with
  | buffered out err => cases stream <;> exact Or.inl rfl
  | files out err =>
    rw [held_leadsDirectly (hm.2 stream), held_leadsDirectly ((hm.2 stream).touches ht)]
    exact hl (place stream)

theorem Resolved.change {out err : Path} (hm : (files out err).Resolved place v) {stream : Stream}
    {calls : List Files.Call} {content : Bytes} (h : TouchesOnly (· = place stream) calls v v')
    (hc : v'.tree.content (place stream) = content) :
    Change place stream calls content (files out err) v (files out err) v' where
  held := by rw [held_leadsDirectly ((hm.2 stream).touches h), hc]
  others other hne := hm.held_touches h (hm.place_ne hne)
  filePaths := rfl
  resolved := hm.touches h
  touches := h

theorem touches_none (here : Place → Prop) (calls : List Files.Call) (v : Volume) :
    TouchesOnly here calls v v :=
  ⟨rfl, .refl here _, fun _ => ⟨0, Nat.zero_le _, rfl⟩⟩

theorem buffered_change_stdout (place : Stream → Place) (calls : List Files.Call)
    (out err content : Bytes) (v : Volume) :
    Change place .stdout calls content (buffered out err) v (buffered content err) v where
  held := rfl
  others other hne := by
    cases other with
    | stdout => exact absurd rfl hne
    | stderr => rfl
  filePaths := rfl
  resolved := trivial
  touches := touches_none _ _ _

theorem buffered_change_stderr (place : Stream → Place) (calls : List Files.Call)
    (out err content : Bytes) (v : Volume) :
    Change place .stderr calls content (buffered out err) v (buffered out content) v where
  held := rfl
  others other hne := by
    cases other with
    | stdout => rfl
    | stderr => exact absurd rfl hne
  filePaths := rfl
  resolved := trivial
  touches := touches_none _ _ _

theorem clear_resolved (hm : sink.Resolved place v) (hf : sink.Fresh) (stream : Stream)
    (hs : sink.CallFaultless v .truncate) :
    ∃ v', sink.clear stream v = (.ok (), v') ∧
      Change place stream [.truncate] [] sink v sink v' := by
  cases sink with
  | buffered out err =>
    obtain ⟨rfl, rfl⟩ := hf
    refine ⟨v, rfl, ?_⟩
    cases stream with
    | stdout => exact buffered_change_stdout place _ [] [] [] v
    | stderr => exact buffered_change_stderr place _ [] [] [] v
  | files out err =>
    obtain ⟨hd, hc, ht⟩ := (hm.2 stream).leadsToFile.truncate (hs (by simp [filePaths]))
    refine ⟨_, ?_, hm.change ht hc⟩
    simp only [clear]
    rcases hd with hd | ⟨e, hd, he⟩ <;> split <;> simp_all

theorem write_resolved (hm : sink.Resolved place v) (stream : Stream) (chunk : Bytes) :
    ∃ sink' v', sink.write stream chunk v = (.ok (), sink', v') ∧
      Change place stream [] (sink.held stream v ++ chunk) sink v sink' v' := by
  cases sink with
  | buffered out err =>
    cases stream with
    | stdout => exact ⟨_, _, rfl, buffered_change_stdout place _ out err (out ++ chunk) v⟩
    | stderr => exact ⟨_, _, rfl, buffered_change_stderr place _ out err (err ++ chunk) v⟩
  | files out err =>
    have b := hm.2 stream
    obtain ⟨hd, hc, ht⟩ := b.leadsToFile.append chunk
    refine ⟨_, _, Prod.ext hd rfl, ?_⟩
    rw [held_leadsDirectly b]
    exact hm.change ht hc

theorem writeAt_resolved (hm : sink.Resolved place v) (stream : Stream) (chunk : Bytes) :
    ∃ sink' v', sink.writeAt stream (sink.held stream v).length chunk v = (.ok (), sink', v') ∧
      Change place stream [] (sink.held stream v ++ chunk) sink v sink' v' := by
  cases sink with
  | buffered out err => exact write_resolved hm stream chunk
  | files out err =>
    have b := hm.2 stream
    obtain ⟨hd, hc, ht⟩ := b.leadsToFile.writeAt_end chunk
    rw [held_leadsDirectly b]
    exact ⟨_, _, Prod.ext hd rfl, hm.change ht hc⟩

theorem drain_resolved (hm : sink.Resolved place v) (stream : Stream)
    (hs : sink.CallFaultless v .open) :
    ∃ v', sink.drain stream v = (.ok (sink.held stream v), v') ∧
      TouchesOnly (fun _ => False) [.open] v v' := by
  cases sink with
  | buffered out err => cases stream <;> exact ⟨v, rfl, touches_none _ _ _⟩
  | files out err =>
    have b := hm.2 stream
    obtain ⟨hv, hd⟩ := b.leadsToFile.readStream (hs (by simp [filePaths]))
    refine ⟨_, ?_, after_touches _ v .open⟩
    rw [held_leadsDirectly b]
    simp only [drain]
    rcases hd with hd | ⟨hc, e, hd, he⟩ <;> split <;> simp_all

theorem discard_resolved (hm : sink.Resolved place v) (stream : Stream)
    (hs : sink.CallFaultless v .unlink) :
    ∃ sink' v', sink.discard stream v = (.ok (), sink', v') ∧
      Change place stream [.unlink] [] sink v sink' v' := by
  cases sink with
  | buffered out err =>
    cases stream with
    | stdout => exact ⟨_, _, rfl, buffered_change_stdout place _ out err [] v⟩
    | stderr => exact ⟨_, _, rfl, buffered_change_stderr place _ out err [] v⟩
  | files out err =>
    obtain ⟨hd, hc, ht⟩ := (hm.2 stream).leadsToFile.unlink (hs (by simp [filePaths]))
    refine ⟨_, _, ?_, hm.change ht hc⟩
    simp only [discard]
    rcases hd with hd | ⟨e, hd, he⟩ <;> split <;> simp_all

theorem callFaultless_or_fails (sink : Sink) (v : Volume) (call : Files.Call) :
    sink.CallFaultless v call ∨ sink.filePaths ≠ none ∧ ∃ e, v.Fails call e := by
  rcases v.faultless_or_fails call with h | h
  · exact Or.inl fun _ => h
  · by_cases hp : sink.filePaths = none
    · exact Or.inl fun hn => absurd hp hn
    · exact Or.inr ⟨hp, h⟩

theorem clear_fails {e : OsError} (hp : sink.filePaths ≠ none) (stream : Stream)
    (hf : v.Fails .truncate e) (he : e.isMissing = false) :
    ∃ name, sink.clear stream v =
      (.error (.failure (.scratch (.truncate name e))), v.after .truncate) := by
  cases sink with
  | buffered out err => exact absurd rfl hp
  | files out err =>
    obtain ⟨code, -, rfl⟩ := id hf
    refine ⟨(pathOf out err stream).name, ?_⟩
    simp only [clear, Volume.truncate, guarded_fails hf, he]
    rfl

theorem drain_fails {e : OsError} (hp : sink.filePaths ≠ none) (stream : Stream)
    (hf : v.Fails .open e) (he : e.isMissing = false) :
    ∃ name, sink.drain stream v =
      (.error (.failure (.scratch (.read name e))), v.after .open) := by
  cases sink with
  | buffered out err => exact absurd rfl hp
  | files out err =>
    obtain ⟨code, -, rfl⟩ := id hf
    refine ⟨(pathOf out err stream).name, ?_⟩
    simp only [drain, Volume.readStream, guarded_fails hf, he]
    rfl

theorem discard_fails {e : OsError} (hp : sink.filePaths ≠ none) (stream : Stream)
    (hf : v.Fails .unlink e) (he : e.isMissing = false) :
    sink.discard stream v = (.error e, sink, v.after .unlink) := by
  cases sink with
  | buffered out err => exact absurd rfl hp
  | files out err =>
    simp only [discard, Volume.unlink, guarded_fails hf, he]
    rfl

end GuestRunner.Sink
