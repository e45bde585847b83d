import GuestRunner.Proofs.Files.Gone
import GuestRunner.Proofs.Processor.Reachable
import GuestRunner.Proofs.Scratch.Slots

/-!
# What closing touches

A closing removes files of the instance and leaves everything else as it is, unless the directory is
owned, which goes as a whole. Whatever a closing does, it only takes away.
-/

set_option autoImplicit false

namespace GuestRunner

open Files Files.Volume

def Scratch.Claims (s : Scratch) (p : Place) : Prop :=
  ∃ name, s.owns name = true ∧ p = s.path.parts ++ [name]

def Capture.Claims (c : Capture) (p : Place) : Prop :=
  ∃ scratch, c.scratch? = some scratch ∧ scratch.Claims p

namespace Cleanup

/-- What is left to do of a cleanup: the directory is removed only where it is owned, and the files
only where they are those of the instance. -/
def OnlyOwn (s : Scratch) : Cleanup → Prop
  | .list | .finished _ => True
  | .removeFiles left _ => ∀ file ∈ left, ∃ name, s.owns name = true ∧ file = s.path.child name
  | .look | .removeDirectory => s.owned = true

theorem start_onlyOwn (s : Scratch) : (start s).OnlyOwn s := by
  unfold start
  split
  · rename_i h
    exact h
  · trivial

theorem step_onlyOwn {s : Scratch} {c : Cleanup} {v : Volume} (hc : c.OnlyOwn s) (hs : s.Sound v) :
    (c.step s v).1.OnlyOwn s ∧ ((∃ calls, TouchesOnly s.Claims calls v (c.step s v).2) ∨
      s.owned = true ∧ c.step s v =
        (.finished (.ok (some s.path.text)), v.withoutDirectory s.path.parts)) := by
  cases c with
  | look =>
    have ht := examine_touches s.Claims v s.path
    simp only [step]
    split <;> rename_i he <;> rw [he] at ht
    · refine ⟨?_, Or.inl ⟨_, ht⟩⟩
      split
      · exact hc
      · trivial
    · exact ⟨trivial, Or.inl ⟨_, ht⟩⟩
  | removeDirectory =>
    rcases removeAll_solid hs.rooted hs.solid with ⟨e, h⟩ | h <;> simp only [step, h]
    · exact ⟨trivial, Or.inl ⟨_, after_touches _ v .removeAll⟩⟩
    · exact ⟨trivial, Or.inr ⟨hc, trivial⟩⟩
  | finished result => exact ⟨trivial, Or.inl ⟨[], .refl _ v⟩⟩
  | list =>
    have ht := list_touches s.Claims v s.path
    simp only [step, Scratch.files]
    cases hl : v.list s.path with
    | mk names v' =>
      rw [hl] at ht
      cases names with
      | error e =>
        refine ⟨?_, Or.inl ⟨_, ht⟩⟩
        intro file hf
        cases hf
      | ok names =>
        refine ⟨?_, Or.inl ⟨_, ht⟩⟩
        intro file hf
        simp only [List.mem_map, List.mem_filter] at hf
        obtain ⟨name, ⟨-, hn⟩, rfl⟩ := hf
        exact ⟨name, hn, rfl⟩
  | removeFiles left removed =>
    cases left with
    | nil => exact ⟨trivial, Or.inl ⟨[], .refl _ v⟩⟩
    | cons file rest =>
      obtain ⟨name, hn, rfl⟩ := hc file List.mem_cons_self
      have hrest : ∀ removed, (removeFiles rest removed).OnlyOwn s := fun _ file hf =>
        hc file (List.mem_cons_of_mem _ hf)
      have ht : TouchesOnly s.Claims [.unlink] v (v.unlink (s.path.child name)).2 :=
        (hs.unlink_touches hn).mono fun p hp => ⟨name, hn, hp⟩
      simp only [step]
      cases hu : v.unlink (s.path.child name) with
      | mk done v' =>
        rw [hu] at ht
        cases done with
        | ok _ => exact ⟨hrest true, Or.inl ⟨_, ht⟩⟩
        | error e =>
          simp only
          split
          · exact ⟨hrest removed, Or.inl ⟨_, ht⟩⟩
          · exact ⟨trivial, Or.inl ⟨_, ht⟩⟩

/-- A cleanup loses what it removes, and nothing else changes. -/
theorem step_loss (s : Scratch) (c : Cleanup) (v : Volume) :
    v.tree.Loss (c.step s v).2.tree := by
  cases c with
  | look =>
    have hl := examine_loss v s.path
    simp only [step]
    split <;> rename_i hr <;> rwa [hr] at hl
  | finished result => exact .refl _
  | removeDirectory =>
    have hl := removeAll_loss v s.path
    simp only [step]
    split <;> rename_i hr <;> rwa [hr] at hl
  | list =>
    have hl := list_loss v s.path
    simp only [step, Scratch.files]
    split <;> rename_i hr <;> rwa [hr] at hl
  | removeFiles left removed =>
    cases left with
    | nil => exact .refl _
    | cons file rest =>
      have hl := unlink_loss v file
      simp only [step]
      split <;> rename_i hr
      · rwa [hr] at hl
      · split <;> rwa [hr] at hl

end Cleanup

namespace Closing

/-- What is left to do of a closing, of which only the cleanup touches files. -/
def OnlyOwn (capture : Capture) : Closing → Prop
  | .cleaning scratch c => capture.scratch? = some scratch ∧ c.OnlyOwn scratch
  | _ => True

def Past : Closing → Prop
  | .cleaning _ (.finished _) | .shutting _ | .dropping _ | .reporting _ | .finished _ => True
  | _ => False

theorem OnlyOwn.congr {c c' : Capture} {k : Closing} (h : k.OnlyOwn c)
    (hc : c'.scratch? = c.scratch?) : k.OnlyOwn c' := by
  cases k with
  | cleaning scratch c => exact ⟨hc.trans h.1, h.2⟩
  | _ => trivial

/-- What no closing changes. -/
theorem step_frame (k : Closing) (s : Scene) :
    (k.step s).2.processor.capture = s.processor.capture ∧
      (k.step s).2.processor.accepted = s.processor.accepted ∧
      (k.step s).2.site.elapsed = s.site.elapsed ∧
      s.site.volume.tree.Loss (k.step s).2.site.volume.tree := by
  cases k with
  | request =>
    simp only [step]
    split <;> exact ⟨rfl, rfl, rfl, .refl _⟩
  | detaching =>
    simp only [step]
    split <;> exact ⟨rfl, rfl, rfl, .refl _⟩
  | cleaning scratch c =>
    have hl := Cleanup.step_loss scratch c s.site.volume
    cases c with
    | finished removed => exact ⟨rfl, rfl, rfl, .refl _⟩
    | _ => exact ⟨rfl, rfl, rfl, hl⟩
  | shutting removed => exact ⟨rfl, rfl, rfl, .refl _⟩
  | dropping removed => cases removed <;> exact ⟨rfl, rfl, rfl, .refl _⟩
  | reporting removed =>
    simp only [step, Scene.emit, Site.record]
    split <;> exact ⟨trivial, trivial, rfl, .refl _⟩
  | finished result => exact ⟨rfl, rfl, rfl, .refl _⟩

/-- A closing touches only what the instance claims, unless it removes a directory that is owned. It
is done with the files then. -/
theorem step_onlyOwn {k : Closing} {s : Scene} (hk : k.OnlyOwn s.processor.capture)
    (hs : ∀ scratch, s.processor.capture.scratch? = some scratch →
      scratch.Sound s.site.volume) :
    (k.step s).1.OnlyOwn s.processor.capture ∧
      ((∃ calls, TouchesOnly s.processor.capture.Claims calls s.site.volume
        (k.step s).2.site.volume) ∨
        ∃ scratch, s.processor.capture.scratch? = some scratch ∧ scratch.owned = true ∧
          (k.step s).1.Past ∧
          (k.step s).2.site.volume = s.site.volume.withoutDirectory scratch.path.parts) := by
  cases k with
  | request =>
    simp only [step]
    split <;> exact ⟨trivial, Or.inl ⟨[], .refl _ _⟩⟩
  | detaching =>
    simp only [step]
    split <;> rename_i hc
    · exact ⟨trivial, Or.inl ⟨[], .refl _ _⟩⟩
    · have hsc : s.processor.capture.scratch? = some _ := congrArg Capture.scratch? hc
      exact ⟨⟨hsc, Cleanup.start_onlyOwn _⟩, Or.inl ⟨[], .refl _ _⟩⟩
  | cleaning scratch c =>
    obtain ⟨hsc, hc⟩ := hk
    have hstep := Cleanup.step_onlyOwn hc (hs scratch hsc)
    cases c with
    | finished removed => exact ⟨trivial, Or.inl ⟨[], .refl _ _⟩⟩
    | _ =>
      refine ⟨⟨hsc, hstep.1⟩, ?_⟩
      rcases hstep.2 with ⟨calls, ht⟩ | ⟨ho, hr⟩
      · exact Or.inl ⟨calls, ht.mono fun p hp => ⟨scratch, hsc, hp⟩⟩
      · refine Or.inr ⟨scratch, hsc, ho, ?_, ?_⟩ <;> simp only [step, hr]
        · trivial
        · rfl
  | shutting removed => exact ⟨trivial, Or.inl ⟨[], .refl _ _⟩⟩
  | dropping removed => cases removed <;> exact ⟨trivial, Or.inl ⟨[], .refl _ _⟩⟩
  | reporting removed =>
    refine ⟨trivial, Or.inl ⟨[], ?_⟩⟩
    simp only [step, Scene.emit, Site.record]
    split <;> exact .refl _ _
  | finished result => exact ⟨trivial, Or.inl ⟨[], .refl _ _⟩⟩

theorem step_past {k : Closing} {s : Scene} (hk : k.Past) :
    (k.step s).1.Past ∧ (k.step s).2.site.volume = s.site.volume := by
  cases k with
  | request => exact hk.elim
  | detaching => exact hk.elim
  | cleaning scratch c =>
    cases c with
    | finished removed => exact ⟨trivial, rfl⟩
    | _ => exact hk.elim
  | shutting removed => exact ⟨trivial, rfl⟩
  | dropping removed => cases removed <;> exact ⟨trivial, rfl⟩
  | reporting removed =>
    simp only [step, Scene.emit, Site.record]
    split <;> exact ⟨trivial, rfl⟩
  | finished result => exact ⟨trivial, rfl⟩

end Closing

end GuestRunner
