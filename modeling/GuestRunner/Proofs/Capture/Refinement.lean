import GuestRunner.Proofs.Scratch.Slots
import GuestRunner.Proofs.Scratch.Creation
import Mathlib.Logic.Function.Basic

/-!
# Files in place of buffers

A sink is written to, drained and released, in any order and as often as one likes. Whatever its
files held before it was opened, and wherever its directory is, a sink of files then answers like a
pair of buffers: every drain gives what was written to the stream since the last release.
-/

set_option autoImplicit false

namespace GuestRunner

open Files Files.Volume

namespace Sink

inductive Act
  | write (stream : Stream) (chunk : Bytes)
  | drain (stream : Stream)
  | release
  deriving DecidableEq, Repr

def act (sink : Sink) (a : Act) (v : Volume) : Except Problem (Option Bytes) × Sink × Volume :=
  match a with
  | .write stream chunk =>
    let (done, sink, v) := sink.write stream chunk v
    ((done.mapError Problem.os).map fun _ => none, sink, v)
  | .drain stream =>
    let (content, v) := sink.drain stream v
    (content.map some, sink, v)
  | .release =>
    let (done, sink, v) := sink.release v
    ((done.mapError Problem.os).map fun _ => none, sink, v)

def play (sink : Sink) : List Act → Volume → List (Except Problem (Option Bytes)) × Sink × Volume
  | [], v => ([], sink, v)
  | a :: rest, v =>
    let (reply, sink, v) := sink.act a v
    let (replies, sink, v) := sink.play rest v
    (reply :: replies, sink, v)

def Act.chunk (stream : Stream) : Act → Bytes
  | .write other chunk => if other = stream then chunk else []
  | .drain _ | .release => []

/-- All that was written to a stream since the last release, or since the sink was opened. -/
def written (acts : List Act) (stream : Stream) : Bytes :=
  (acts.reverse.takeWhile (· ≠ .release)).reverse.flatMap (Act.chunk stream)

def Act.reply (earlier : List Act) : Act → Option Bytes
  | .write _ _ | .release => none
  | .drain stream => some (written earlier stream)

theorem written_release (acts : List Act) : written (acts ++ [.release]) = written [] := by
  funext stream
  simp [written]

theorem update_streams (content : Stream → Bytes) :
    Function.update (Function.update content .stdout []) .stderr [] = written [] := by
  funext stream
  cases stream <;> rfl

theorem written_snoc {a : Act} (ha : a ≠ .release) (acts : List Act) (stream : Stream) :
    written (acts ++ [a]) stream = written acts stream ++ a.chunk stream := by
  simp [written, ha]

theorem written_drain (acts : List Act) (stream : Stream) :
    written (acts ++ [.drain stream]) = written acts := by
  funext other
  rw [written_snoc (a := .drain stream) nofun, Act.chunk, List.append_nil]

theorem written_write (acts : List Act) (stream : Stream) (chunk : Bytes) :
    written (acts ++ [.write stream chunk]) =
      Function.update (written acts) stream (written acts stream ++ chunk) := by
  funext other
  rw [written_snoc (a := .write stream chunk) nofun, Act.chunk, Function.update_apply]
  by_cases h : other = stream
  · subst h
    simp
  · rw [if_neg (Ne.symm h), if_neg h, List.append_nil]

end Sink

namespace Files.Volume

def Fair (v : Volume) : Prop :=
  ∀ call ∈ [Files.Call.truncate, .open, .unlink], ∀ n, v.Faultless call n

variable {v v' : Volume}

theorem Fair.touches {here : Place → Prop} {calls : List Files.Call} (h : v.Fair)
    (ht : TouchesOnly here calls v v') : v'.Fair :=
  fun call hc n => ht.faultless call n (h call hc _)

end Files.Volume

namespace Sink

def Holds (place : Stream → Place) (sink : Sink) (content : Stream → Bytes) (v : Volume) : Prop :=
  match sink with
  | .buffered out err => out = content .stdout ∧ err = content .stderr
  | .files out err => v.Fair ∧ place .stdout ≠ place .stderr ∧
    ∀ stream, v.LeadsToFile (pathOf out err stream) (place stream) ∧
      v.tree.content (place stream) = content stream

section

variable {place : Stream → Place} {content : Stream → Bytes} {v v' : Volume} {out err : Path}
  {stream : Stream} {acts : List Act}

theorem Holds.apart (h : Holds place (.files out err) content v) {other : Stream}
    (hne : other ≠ stream) : place other ≠ place stream := by
  cases other <;> cases stream
  · exact absurd rfl hne
  · exact h.2.1
  · exact h.2.1.symm
  · exact absurd rfl hne

theorem Holds.touches (h : Holds place (.files out err) content v) {calls : List Files.Call}
    {c : Bytes} (ht : TouchesOnly (· = place stream) calls v v')
    (hc : v'.tree.content (place stream) = c) :
    Holds place (.files out err) (Function.update content stream c) v' := by
  refine ⟨h.1.touches ht, h.2.1, fun other => ⟨(h.2.2 other).1.touches ht, ?_⟩⟩
  by_cases ho : other = stream
  · subst ho
    rw [Function.update_self, hc]
  · rw [Function.update_of_ne ho, ht.tree.content (h.apart ho), (h.2.2 other).2]

theorem Holds.clear (h : Holds place (.files out err) content v) (stream : Stream) :
    ∃ v', (files out err).clear stream v = (.ok (), v') ∧
      Holds place (.files out err) (Function.update content stream []) v' := by
  obtain ⟨hd, hc, ht⟩ := (h.2.2 stream).1.truncate (h.1 _ (by simp) 1)
  refine ⟨_, ?_, h.touches ht hc⟩
  simp only [Sink.clear]
  rcases hd with hd | ⟨e, hd, he⟩ <;> split <;> simp_all

theorem Holds.discard (h : Holds place (.files out err) content v) (stream : Stream) :
    ∃ v', (files out err).discard stream v = (.ok (), files out err, v') ∧
      Holds place (.files out err) (Function.update content stream []) v' := by
  obtain ⟨hd, hc, ht⟩ := (h.2.2 stream).1.unlink (h.1 _ (by simp) 1)
  refine ⟨_, ?_, h.touches ht hc⟩
  simp only [Sink.discard]
  rcases hd with hd | ⟨e, hd, he⟩ <;> split <;> simp_all

theorem Holds.drain (h : Holds place (.files out err) content v) (stream : Stream) :
    ∃ v', (files out err).drain stream v = (.ok (content stream), v') ∧
      Holds place (.files out err) content v' := by
  obtain ⟨hv, hd⟩ := (h.2.2 stream).1.readStream (h.1 _ (by simp) 1)
  have ht := after_touches (fun _ => False) v .open
  refine ⟨v.after .open, ?_, h.1.touches ht, h.2.1, fun other => ⟨(h.2.2 other).1.touches ht, ?_⟩⟩
  · rw [← (h.2.2 stream).2]
    simp only [Sink.drain]
    rcases hd with hd | ⟨hc, e, hd, he⟩ <;> split <;> simp_all
  · rw [← (h.2.2 other).2]
    rfl

theorem Holds.write (h : Holds place (.files out err) content v) (stream : Stream) (chunk : Bytes) :
    ∃ v', (files out err).write stream chunk v = (.ok (), files out err, v') ∧
      Holds place (.files out err)
      (Function.update content stream (content stream ++ chunk)) v' := by
  obtain ⟨hd, hc, ht⟩ := (h.2.2 stream).1.append chunk
  rw [(h.2.2 stream).2] at hc
  exact ⟨_, Prod.ext hd rfl, h.touches ht hc⟩

theorem Holds.act_files (h : Holds place (.files out err) (written acts) v) (a : Act) :
    ∃ v', (files out err).act a v = (.ok (a.reply acts), files out err, v') ∧
      Holds place (.files out err) (written (acts ++ [a])) v' := by
  cases a with
  | write stream chunk =>
    obtain ⟨v', hw, h'⟩ := h.write stream chunk
    refine ⟨v', ?_, written_write acts stream chunk ▸ h'⟩
    rw [Sink.act, hw]
    rfl
  | drain stream =>
    obtain ⟨v', hd, h'⟩ := h.drain stream
    refine ⟨v', ?_, (written_drain acts stream).symm ▸ h'⟩
    rw [Sink.act, hd]
    rfl
  | release =>
    obtain ⟨v₁, ho, h₁⟩ := h.discard .stdout
    obtain ⟨v₂, he, h₂⟩ := h₁.discard .stderr
    rw [update_streams, ← written_release acts] at h₂
    refine ⟨v₂, ?_, h₂⟩
    rw [Sink.act, Sink.release, ho]
    dsimp only
    rw [he]
    rfl

theorem Holds.act_buffered {out err : Bytes} (h : Holds place (.buffered out err) (written acts) v)
    (a : Act) : ∃ out' err', (buffered out err).act a v =
      (.ok (a.reply acts), buffered out' err', v) ∧
      Holds place (.buffered out' err') (written (acts ++ [a])) v := by
  obtain ⟨rfl, rfl⟩ := h
  cases a with
  | write stream chunk =>
    rw [written_write]
    cases stream <;> exact ⟨_, _, rfl, rfl, rfl⟩
  | drain stream =>
    rw [written_drain]
    cases stream <;> exact ⟨_, _, rfl, rfl, rfl⟩
  | release =>
    rw [written_release]
    exact ⟨_, _, rfl, rfl, rfl⟩

variable {sink : Sink} {earlier : List Act}

theorem Holds.act (h : Holds place sink (written acts) v) (a : Act) :
    ∃ sink' v', sink.act a v = (.ok (a.reply acts), sink', v') ∧
      Holds place sink' (written (acts ++ [a])) v' := by
  cases sink with
  | buffered out err =>
    obtain ⟨out', err', ha, h'⟩ := h.act_buffered a
    exact ⟨_, _, ha, h'⟩
  | files out err =>
    obtain ⟨v', ha, h'⟩ := h.act_files a
    exact ⟨_, _, ha, h'⟩

theorem Holds.play (h : Holds place sink (written earlier) v) (acts : List Act) :
    (sink.play acts v).1 = acts.mapIdx fun i a => .ok (a.reply (earlier ++ acts.take i)) := by
  induction acts generalizing earlier sink v with
  | nil => rfl
  | cons a rest ih =>
    obtain ⟨sink', v', ha, h'⟩ := h.act a
    rw [Sink.play, ha, List.mapIdx_cons]
    dsimp only
    rw [ih h']
    simp only [List.take_zero, List.append_nil, List.take_succ_cons, List.append_assoc,
      List.singleton_append]

end

end Sink

namespace Scratch

/-- The path of a scratch directory leads to a directory, through links or not, where neither stream
of a run is anything but a file and both can be made. -/
structure SlotUsable (s : Scratch) (id : Int) (slot : Nat) (v : Volume) : Prop where
  fits : s.SlotFits id slot
  room : ∃ dir, v.place? s.path = some dir ∧ v.tree.node? dir = some .directory ∧
    ∀ stream, v.tree.Free (dir ++ [s.slotName id slot stream])

variable {s : Scratch} {id : Int} {slot : Nat} {v : Volume} {dir : Place}

theorem leadsToFile_of_room (ha : s.path.isAbsolute = true) (hf : s.SlotFits id slot)
    (hp : v.place? s.path = some dir) (hd : v.tree.node? dir = some .directory) (stream : Stream)
    (hfree : v.tree.Free (dir ++ [s.slotName id slot stream])) :
    v.LeadsToFile (s.path.child (s.slotName id slot stream))
      (dir ++ [s.slotName id slot stream]) where
  rooted := ha
  usable := (hf stream).2
  leads w hw := by
    have hn := (hf stream).1
    have hl : v.tree.locate true (v.start s.path) s.path.parts = .ok dir := by
      unfold place? at hp
      cases hl : v.tree.locate true (v.start s.path) s.path.parts with
      | error code =>
        rw [hl] at hp
        cases hp
      | ok place =>
        rw [hl] at hp
        cases hp
        rfl
    exact Tree.walk_further rfl hw ⟨hn.1, hn.2.1, hn.2.2.1⟩ hn.2.2.2 hd
      (Or.inr hfree.no_link) _ _ _ hl
  below := by simp
  free := hfree

/-- Where a slot is usable a run gets a sink that holds nothing, whatever its files held. -/
theorem SlotUsable.openSink (h : s.SlotUsable id slot v) (ht : IsToken s.token)
    (ha : s.path.isAbsolute = true) (hv : v.Fair) :
    ∃ sink place v', (Capture.files s slot).openSink (.int id) v =
      (.ok sink, .files s (slot + 1), v') ∧ Sink.Holds place sink (Sink.written []) v' := by
  obtain ⟨hf, dir, hp, hd, hfree⟩ := h
  have hstart : Sink.Holds (fun stream => dir ++ [s.slotName id slot stream])
      (.files (s.streamPath (Capture.runLabel (.int id) slot) .stdout)
        (s.streamPath (Capture.runLabel (.int id) slot) .stderr))
      (fun stream => v.tree.content (dir ++ [s.slotName id slot stream])) v := by
    refine ⟨hv, fun he => ?_, fun stream => ⟨?_, rfl⟩⟩
    · have hn : s.slotName id slot .stdout = s.slotName id slot .stderr := by simpa using he
      exact absurd (streamName_inj hn).2 (by decide)
    · rw [pathOf_slot ht]
      exact leadsToFile_of_room ha hf hp hd stream (hfree stream)
  obtain ⟨v₁, ho, h₁⟩ := hstart.clear .stdout
  obtain ⟨v₂, he, h₂⟩ := h₁.clear .stderr
  rw [Sink.update_streams] at h₂
  refine ⟨_, _, v₂, ?_, h₂⟩
  simp only [Capture.openSink, Capture.refusal?, hf.writable, if_true, Capture.nextSink,
    Sink.prepare, ho, he]

end Scratch

/-- A sink that a run gets from a scratch directory answers like the buffers it would get otherwise,
and every drain gives what was written to the stream since the last release. -/
theorem files_as_buffers {given : Option String} {v₀ v₁ v : Volume} {s : Scratch} {id : Int}
    {slot : Nat} (hs : Scratch.create given v₀ = (.ok s, v₁)) (hr : s.SlotUsable id slot v)
    (hv : v.Fair) :
    ∃ sink v', (Capture.files s slot).openSink (.int id) v =
        (.ok sink, .files s (slot + 1), v') ∧
      ∀ (w : Volume) (acts : List Sink.Act), ∃ buffers,
        Capture.buffered.openSink (.int id) w = (.ok buffers, .buffered, w) ∧
        (sink.play acts v').1 = (buffers.play acts w).1 ∧
        (sink.play acts v').1 = acts.mapIdx fun i a => .ok (a.reply (acts.take i)) := by
  obtain ⟨sink, place, v', ho, h⟩ :=
    hr.openSink (Scratch.create_wellFormed hs).token (Scratch.create_rooted hs) hv
  refine ⟨sink, v', ho, fun w acts => ⟨.buffered [] [], rfl, ?_, ?_⟩⟩
  · have hb : Sink.Holds place (.buffered [] []) (Sink.written []) w := ⟨rfl, rfl⟩
    rw [h.play acts, hb.play acts]
  · exact h.play acts

namespace Sample

def moved : Volume where
  tree := ⟨[(["hold"], .directory), (["box"], .link "hold"),
    (["hold", "tmp-000000000001-7-0.stdout"], .file [115])]⟩
  home := []
  temporary := []
  schedule := .quiet
  namesTried := 0
  tokensDrawn := 0

def movedScratch : Scratch := ⟨⟨.single, ["box"]⟩, false, "000000000001"⟩

theorem movedScratch_created :
    ∃ v, Scratch.create (some "/box") { moved with tree := ⟨[(["box"], .directory)]⟩ } =
      (.ok movedScratch, v) :=
  ⟨_, rfl⟩

theorem moved_slotUsable : movedScratch.SlotUsable 7 0 moved where
  fits stream := by cases stream <;> decide +kernel
  room := by
    refine ⟨["hold"], by decide +kernel, by decide +kernel, fun stream => ?_⟩
    cases stream
    · exact Or.inr ⟨[115], by decide +kernel⟩
    · exact Or.inl (by decide +kernel)

theorem moved_fair : moved.Fair := fun _ _ _ _ hx => by cases List.mem_of_mem_take hx

end Sample

/-- What an old file holds is not given back, and neither is what was written before a release. -/
theorem files_as_buffers_moved :
    ∃ sink v', (Capture.files Sample.movedScratch 0).openSink (.int 7) Sample.moved =
        (.ok sink, .files Sample.movedScratch 1, v') ∧
      (sink.play [.drain .stdout, .write .stdout [104], .write .stdout [105], .drain .stdout,
        .drain .stderr, .release, .drain .stdout, .write .stdout [33], .drain .stdout] v').1 =
        [.ok (some []), .ok none, .ok none, .ok (some [104, 105]), .ok (some []), .ok none,
          .ok (some []), .ok none, .ok (some [33])] := by
  obtain ⟨_, hs⟩ := Sample.movedScratch_created
  obtain ⟨sink, v', ho, h⟩ := files_as_buffers hs Sample.moved_slotUsable Sample.moved_fair
  obtain ⟨_, -, -, hp⟩ := h Sample.moved [.drain .stdout, .write .stdout [104],
    .write .stdout [105], .drain .stdout, .drain .stderr, .release, .drain .stdout,
    .write .stdout [33], .drain .stdout]
  exact ⟨sink, v', ho, hp⟩

end GuestRunner
