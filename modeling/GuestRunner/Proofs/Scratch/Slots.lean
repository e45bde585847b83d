import GuestRunner.Proofs.Capture.Orphaned
import GuestRunner.Proofs.Scratch.Names

/-!
# Sound scratch directories

A scratch directory is sound when its path leads to a directory without detours and nothing but
files has a name of the instance in it. The files of every sink whose names fit are then resolved,
at places that no other sink of any instance has. Where the directory is gone, every sink is
orphaned.
-/

set_option autoImplicit false

namespace GuestRunner.Scratch

open Files Files.Volume

structure Sound (s : Scratch) (v : Volume) : Prop where
  token : IsToken s.token
  rooted : s.path.isAbsolute = true
  solid : v.tree.Solid s.path.parts
  free : ∀ name, s.owns name = true → v.tree.Free (s.path.parts ++ [name])

variable {s s' : Scratch} {v v' : Volume} {id id' : Int} {slot slot' : Nat}
  {stream stream' : Stream}

theorem Sound.touches {here : Place → Prop} {calls : List Files.Call} (h : s.Sound v)
    (ht : TouchesOnly here calls v v') : s.Sound v' :=
  ⟨h.token, h.rooted, h.solid.sameBut ht.tree, fun name hn => ht.tree.free (h.free name hn)⟩

def slotName (s : Scratch) (id : Int) (slot : Nat) (stream : Stream) : String :=
  s.streamName (Capture.runLabel (.int id) slot) stream

def slotPlace (s : Scratch) (id : Int) (slot : Nat) (stream : Stream) : Place :=
  s.path.parts ++ [s.slotName id slot stream]

def SlotFits (s : Scratch) (id : Int) (slot : Nat) : Prop :=
  ∀ stream, Fits s.path (s.slotName id slot stream)

/-- A number is written before its label gets too long for a name. -/
theorem SlotFits.writable (h : s.SlotFits id slot) : (Value.int id).isWritable = true := by
  have hname : (s.slotName id slot .stdout).utf8ByteSize ≤ Tree.longestName := (h .stdout).1.2.2.2
  have hdigits := Capture.digits_le_plain id
  have hlong : Tree.longestName ≤ Decimal.Numeral.longestInteger := by decide
  simp only [slotName, streamName, Capture.runLabel, String.utf8ByteSize_append] at hname
  rw [Value.isWritable, decide_eq_true_eq, Nat.pow_eq,
    ← Nat.length_toDigits_le_iff (by decide) (by decide)]
  omega

theorem slotPath_child (ht : IsToken s.token) (id : Int) (slot : Nat) (stream : Stream) :
    s.streamPath (Capture.runLabel (.int id) slot) stream =
      s.path.child (s.slotName id slot stream) :=
  streamPath_child ht (Capture.runLabel_unreserved id slot (Or.inl rfl))

theorem slotPlace_inj (h : s.slotPlace id slot stream = s.slotPlace id' slot' stream') :
    slot = slot' ∧ stream = stream' := by
  have hn : s.slotName id slot stream = s.slotName id' slot' stream' := by
    simpa [slotPlace] using h
  obtain ⟨hl, hs⟩ := streamName_inj hn
  exact ⟨Capture.runLabel_inj hl, hs⟩

theorem slotPlace_ne {name : String} (ht : IsToken s.token) (ht' : IsToken s'.token)
    (hne : s.token ≠ s'.token) (hp : s.path = s'.path) (hn : s'.owns name = true) :
    s.slotPlace id slot stream ≠ s'.path.parts ++ [name] := by
  intro h
  have he : s.slotName id slot stream = name := by
    rw [slotPlace, hp] at h
    simpa using h
  exact hne (token_of_owns ht ht' (owns_streamName s _ stream)
    (by rwa [← he] at hn))

theorem owns_slotName (s : Scratch) (id : Int) (slot : Nat) (stream : Stream) :
    s.owns (s.slotName id slot stream) = true :=
  owns_streamName s _ stream

theorem pathOf_slot (ht : IsToken s.token) (id : Int) (slot : Nat) (stream : Stream) :
    Sink.pathOf (s.streamPath (Capture.runLabel (.int id) slot) .stdout)
      (s.streamPath (Capture.runLabel (.int id) slot) .stderr) stream =
      s.path.child (s.slotName id slot stream) := by
  cases stream <;> exact slotPath_child ht id slot _

theorem Sound.resolved (h : s.Sound v) (hf : s.SlotFits id slot) :
    (Sink.files (s.streamPath (Capture.runLabel (.int id) slot) .stdout)
      (s.streamPath (Capture.runLabel (.int id) slot) .stderr)).Resolved
        (s.slotPlace id slot) v := by
  constructor
  · intro he
    exact absurd (slotPlace_inj he).2 (by decide)
  · intro stream
    rw [pathOf_slot h.token]
    exact leadsDirectly_of_solid h.rooted h.solid (hf stream)
      (h.free _ (owns_slotName s id slot stream))

theorem orphaned_of_gone (ht : IsToken s.token) (ha : s.path.isAbsolute = true)
    (hg : v.tree.Gone s.path.parts) (hf : s.SlotFits id slot) :
    (Sink.files (s.streamPath (Capture.runLabel (.int id) slot) .stdout)
      (s.streamPath (Capture.runLabel (.int id) slot) .stderr)).Orphaned v := by
  intro stream
  rw [pathOf_slot ht]
  exact nowhere_of_gone ha hg (hf stream)

theorem ne_of_owns {name text : String} (h : s.owns name = true)
    (ht : text.toList.head? ≠ some 't') : name ≠ text := by
  intro he
  obtain ⟨rest, hr⟩ := stem_of_owns h
  apply ht
  rw [← he, ← hr, toList_fileStem]
  rfl

theorem Sound.unlink_touches {name : String} (h : s.Sound v) (hn : s.owns name = true) :
    TouchesOnly (· = s.path.parts ++ [name]) [.unlink] v (v.unlink (s.path.child name)).2 :=
  Volume.unlink_touches h.rooted h.solid
    ⟨ne_of_owns hn (by decide), ne_of_owns hn (by decide), ne_of_owns hn (by decide)⟩
    (h.free name hn)

end GuestRunner.Scratch
