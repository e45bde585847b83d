import GuestRunner.Proofs.Capture.AddedFiles
import GuestRunner.Proofs.Scratch.Slots

/-!
# Names that are not taken

The count of sinks so far is part of the names of stream files, so an instance comes to names that
nothing in the tree has. Wherever the scratch directory is, the two files of the next run can then
be made side by side, or neither can.
-/

set_option autoImplicit false

namespace GuestRunner

namespace Path

theorem joined_snoc (parts : List String) :
    ∃ before : String, ∀ name, joined (parts ++ [name]) = before ++ name := by
  induction parts with
  | nil => exact ⟨"", fun name => by simp [joined]⟩
  | cons part rest ih =>
    obtain ⟨before, h⟩ := ih
    refine ⟨part ++ "/" ++ before, fun name => ?_⟩
    have hj : joined (part :: rest ++ [name]) = part ++ "/" ++ joined (rest ++ [name]) := by
      cases rest <;> rfl
    rw [hj, h]
    simp only [String.append_assoc]

theorem text_child (p : Path) :
    ∃ before : String, ∀ name, (p.child name).text = before ++ name := by
  obtain ⟨before, h⟩ := joined_snoc p.parts
  refine ⟨p.root.text ++ before, fun name => ?_⟩
  rw [text, if_neg (by simp [child])]
  show p.root.text ++ joined (p.parts ++ [name]) = _
  rw [h, String.append_assoc]

end Path

namespace Files

open Volume

theorem Volume.usable_iff (text : String) : unusable? text = none ↔
    Char.ofNat 0 ∉ text.toList ∧ text.utf8ByteSize ≤ longestPath := by
  unfold unusable?
  by_cases hz : Char.ofNat 0 ∈ text.toList
  · simp [hz]
  · by_cases hl : longestPath < text.utf8ByteSize
    · simp [hz, hl]
    · simp [hz, hl, Nat.not_lt.mp hl]

theorem Volume.usable_child {p : Path} {name name' : String}
    (h : unusable? (p.child name).text = none) (hz : Char.ofNat 0 ∉ name'.toList)
    (hs : name'.utf8ByteSize = name.utf8ByteSize) : unusable? (p.child name').text = none := by
  obtain ⟨before, ht⟩ := p.text_child
  rw [usable_iff, ht, String.toList_append, String.utf8ByteSize_append] at h ⊢
  obtain ⟨hzero, hlong⟩ := h
  constructor
  · intro hm
    rcases List.mem_append.mp hm with hm | hm
    · exact hzero (List.mem_append_left _ hm)
    · exact hz hm
  · omega

namespace Tree

def Unnamed (t : Tree) (name : String) : Prop := ∀ e ∈ t.entries, e.1.getLast? ≠ some name

namespace Unnamed

variable {t : Tree} {name name' : String} {p : Path}

theorem absent (h : t.Unnamed name) (d : Place) : t.node? (d ++ [name]) = none := by
  apply (absent_iff (by simp)).mpr
  intro e he heq
  apply h e he
  rw [heq]
  simp

theorem no_link (h : t.Unnamed name) (d : Place) (target : String) :
    t.node? (d ++ [name]) ≠ some (.link target) := by
  rw [h.absent]
  nofun

theorem walk {w : Walk} (w' : Walk) {links : Nat} {a q : Place} {parts : List String}
    (h : t.Unnamed name) (h' : t.Unnamed name') (hn : Ordinary name) (hn' : Ordinary name')
    (hs : name'.utf8ByteSize = name.utf8ByteSize) (hf : w'.confinedTo = w.confinedTo)
    (ha : t.walk w links a (parts ++ [name]) = .ok q) :
    ∃ d, q = d ++ [name] ∧ t.walk w' links a (parts ++ [name']) = .ok (d ++ [name']) :=
  walk_last w w' (.refl t) hf hn hn' (Nat.le_of_eq hs) (Or.inr h.no_link)
    (fun d _ => Or.inr (h'.no_link d)) links parts a ha

theorem vacant (h : t.Unnamed name) (hn : Ordinary name) (hp : p.isAbsolute = true) :
    t.Vacant (p.child name) where
  rooted := hp
  named w q hw ha := by
    obtain ⟨d, rfl, -⟩ := h.walk w h hn hn rfl rfl ha
    simp [Path.child]
  leads w w' q hw hw' ha := by
    obtain ⟨d, rfl, ha'⟩ := h.walk w' h hn hn rfl (hw'.trans hw.symm) ha
    exact ⟨ha', h.absent d⟩

theorem placeFor_together (h : t.Unnamed name) (h' : t.Unnamed name') (hn : Ordinary name)
    (hn' : Ordinary name') (hs : name'.utf8ByteSize = name.utf8ByteSize)
    (hz : Char.ofNat 0 ∉ name.toList) (hp : p.isAbsolute = true)
    (hl : t.placeFor (p.child name) = []) : t.placeFor (p.child name') = [] := by
  apply List.eq_nil_iff_forall_not_mem.mpr
  intro q hq
  obtain ⟨-, hu, ha⟩ := mem_placeFor hq
  obtain ⟨d, -, ha'⟩ := h'.walk ⟨none, false, false⟩ h hn' hn hs.symm rfl ha
  have hone := (h.vacant hn hp).placeFor_eq (usable_child hu hz hs.symm) rfl ha'
  rw [hl] at hone
  cases hone

end Unnamed

end Tree

end Files

open Files Files.Volume

namespace Scratch

theorem ordinary_of_owns {s : Scratch} {name : String} (h : s.owns name = true) : Ordinary name :=
  ⟨ne_of_owns h (by decide), ne_of_owns h (by decide), ne_of_owns h (by decide)⟩

structure Untaken (s : Scratch) (n : Nat) (t : Tree) : Prop where
  token : IsToken s.token
  rooted : s.path.isAbsolute = true
  names : ∀ slot, n ≤ slot → ∀ id stream, t.Unnamed (s.slotName id slot stream)

variable {s : Scratch} {t : Tree} {n n' : Nat}

theorem Untaken.mono (h : s.Untaken n t) (hn : n ≤ n') : s.Untaken n' t :=
  ⟨h.token, h.rooted, fun slot hs => h.names slot (Nat.le_trans hn hs)⟩

theorem slotName_size (s : Scratch) (id : Int) (slot : Nat) (stream stream' : Stream) :
    (s.slotName id slot stream).utf8ByteSize = (s.slotName id slot stream').utf8ByteSize := by
  have hsuffix : stream.suffix.utf8ByteSize = stream'.suffix.utf8ByteSize := by
    cases stream <;> cases stream' <;> rfl
  simp only [slotName, streamName, String.utf8ByteSize_append, hsuffix]

end Scratch

def Sink.Past (s : Scratch) (n : Nat) (sink : Sink) : Prop :=
  ∀ out err, sink.filePaths = some (out, err) → ∀ stream slot id stream', n ≤ slot →
    (pathOf out err stream).parts.getLast? ≠ some (s.slotName id slot stream')

namespace Scratch.Untaken

variable {s : Scratch} {t : Tree} {n : Nat}

theorem pathOf_next (h : s.Untaken n t) {id : Nat} {out err : Path}
    (hp : ((Capture.files s n).nextSink (Value.ofNat id)).1.filePaths = some (out, err))
    (stream : Stream) : Sink.pathOf out err stream = s.path.child (s.slotName id n stream) := by
  cases hp
  exact pathOf_slot h.token id n stream

/-- The files of the next sink can be made. -/
theorem noFilesYet (h : s.Untaken n t) (id : Nat) :
    ((Capture.files s n).nextSink (Value.ofNat id)).1.NoFilesYet t where
  vacant out err hp stream := by
    rw [h.pathOf_next hp]
    exact (h.names n (Nat.le_refl n) id stream).vacant
      (ordinary_of_owns (owns_slotName s id n stream)) h.rooted
  together out err hp := by
    have hout := h.pathOf_next hp .stdout
    have herr := h.pathOf_next hp .stderr
    simp only [Sink.pathOf] at hout herr
    have hz : Char.ofNat 0 ∉ (s.slotName id n .stdout).toList :=
      streamName_unreserved h.token (Or.inr rfl) (Capture.runLabel_unreserved id n (Or.inr rfl))
    rw [hout, herr]
    apply (h.names n (Nat.le_refl n) id .stdout).placeFor_together
      (h.names n (Nat.le_refl n) id .stderr)
    · exact ordinary_of_owns (owns_slotName s id n .stdout)
    · exact ordinary_of_owns (owns_slotName s id n .stderr)
    · exact s.slotName_size id n .stderr .stdout
    · exact hz
    · exact h.rooted

theorem past (h : s.Untaken n t) (id : Nat) :
    ((Capture.files s n).nextSink (Value.ofNat id)).1.Past s (n + 1) := by
  intro out err hport stream slot id' stream' hs he
  rw [h.pathOf_next hport] at he
  have hn : s.slotName id n stream = s.slotName id' slot stream' := by
    simpa [Path.child] using he
  have hslot := Capture.runLabel_inj (streamName_inj hn).1
  omega

/-- What a sink has added takes none of the names that come after its own. -/
theorem filesAdded {b v : Volume} {sink : Sink} {streams : List Stream} (h : s.Untaken n b.tree)
    (hb : sink.OnlyOwnFiles b streams v) (hp : sink.Past s n) : s.Untaken n v.tree where
  token := h.token
  rooted := h.rooted
  names slot hs id stream e he := by
    by_cases hm : e.1 ∈ sink.placesFor b.tree streams
    · cases sink with
      | buffered out err => cases hm
      | files out err =>
        obtain ⟨stream', -, hm⟩ := List.mem_flatMap.mp hm
        have hl := (Tree.mem_placeFor hm).2.2
        rw [(hb.noFilesYet.vacant out err rfl stream').named _ _ rfl hl]
        exact hp out err rfl stream' slot id stream hs
    · apply h.names slot hs id stream e
      rw [← hb.onlyAdded.filesAdded.rest]
      exact List.mem_filter.mpr ⟨he, by simpa using hm⟩

end Scratch.Untaken

end GuestRunner
