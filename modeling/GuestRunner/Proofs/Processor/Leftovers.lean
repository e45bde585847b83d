import GuestRunner.Proofs.Processor.Answers
import GuestRunner.Proofs.Processor.Closings
import GuestRunner.Proofs.Processor.Ending
import GuestRunner.Proofs.Scratch.Removal

/-!
# Leftovers of a processor

A processor that is closed cleans up its scratch directory, and its answer is no better than that of
the cleanup. So nothing is left over where the directory could be listed, unless a removal was said
to have found nothing. A directory that cannot be listed counts as empty, and nobody is told.
-/

set_option autoImplicit false

namespace GuestRunner

open Files Files.Volume

inductive Closing.Clears (scratch : Scratch) (v : Volume) : Closing → Volume → Prop
  | detaching : Clears scratch v .detaching v
  | cleaning {c : Cleanup} {w : Volume} (n : Nat)
    (h : Cleanup.steps scratch n (.start scratch, v) = (c, w)) :
    Clears scratch v (.cleaning scratch c) w
  | shutting {removed : Except Problem (Option String)} {w : Volume}
    (h : scratch.cleanup v = (removed, w)) : Clears scratch v (.shutting removed) w
  | dropping {removed : Except Problem (Option String)} {w : Volume}
    (h : scratch.cleanup v = (removed, w)) : Clears scratch v (.dropping removed) w
  | reporting {removed : Option String} {w : Volume}
    (h : scratch.cleanup v = (.ok removed, w)) : Clears scratch v (.reporting removed) w
  | finished {removed : Except Problem (Option String)} {result : Except Problem Unit} {w : Volume}
    (h : scratch.cleanup v = (removed, w))
    (hf : ∀ problem, removed = .error problem → result = .error problem) :
    Clears scratch v (.finished result) w

namespace Closing

variable {scratch : Scratch} {v : Volume} {k : Closing} {s : Scene}

theorem Clears.step (h : Clears scratch v k s.site.volume)
    (hs : s.processor.capture.scratch? = some scratch) :
    Clears scratch v (k.step s).1 (k.step s).2.site.volume := by
  generalize hv : s.site.volume = w at h
  cases h with
  | detaching =>
    cases hc : s.processor.capture with
    | buffered =>
      rw [hc] at hs
      cases hs
    | files scratch' slot =>
      rw [hc] at hs
      cases hs
      have hcapture : (s.did .closeCapture).processor.capture = .files scratch slot := hc
      simp only [Closing.step, hcapture]
      rw [← hv]
      exact .cleaning 0 rfl
  | @cleaning c _ n h =>
    cases c with
    | finished removed => exact .shutting (hv ▸ Cleanup.cleanup_of_steps h)
    | _ =>
      subst hv
      refine .cleaning (n + 1) ?_
      rw [Cleanup.steps_succ, h]
      rfl
  | shutting h => exact .dropping (hv ▸ h)
  | @dropping removed _ h =>
    cases removed with
    | ok path => exact .reporting (hv ▸ h)
    | error problem =>
      refine .finished (hv ▸ h) fun other hf => ?_
      cases hf
      rfl
  | @reporting removed _ h =>
    have hvolume : ((Closing.reporting removed).step s).2.site.volume = w := by
      rw [← hv]
      exact (@Closing.step_past (.reporting removed) s trivial).2
    rw [hvolume]
    exact .finished h fun other hf => by cases hf
  | finished h hf => exact .finished (hv ▸ h) hf

end Closing

/-- Closing an idle processor does to its files what the cleanup does, and fails where that fails.
-/
theorem Scene.close_clears {s : Scene} {scratch : Scratch} {slot : Nat}
    (ho : s.processor.closed = false) (hc : s.processor.capture = .files scratch slot) :
    s.close.2.site.volume = (scratch.cleanup s.site.volume).2 ∧
      ∀ problem, (scratch.cleanup s.site.volume).1 = .error problem →
        s.close.1 = .error problem := by
  have hs : s.processor.capture.scratch? = some scratch := congrArg Capture.scratch? hc
  have hrun := Closing.run_keeps (k := .request) (s := s)
    (Q := fun k s' => s'.processor.capture.scratch? = some scratch ∧
      (k = .request ∧ s' = s ∨ Closing.Clears scratch s.site.volume k s'.site.volume)) ?_
    ⟨hs, Or.inl ⟨rfl, rfl⟩⟩
  · obtain ⟨result, s', hr, -, ⟨hk, -⟩ | hk⟩ := hrun
    · cases hk
    · unfold Scene.close
      rw [hr]
      cases hk with
      | finished h hf =>
        rw [h]
        exact ⟨rfl, hf⟩
  · rintro k s' ⟨hs', ⟨rfl, rfl⟩ | hk⟩
    · rw [Closing.request_first ho]
      exact ⟨hs', Or.inr .detaching⟩
    · exact ⟨(k.step_continued s').scratch.trans hs', Or.inr (hk.step hs')⟩

/-- What is left over in a directory of the caller when a cleanup, or the closing of an idle
processor, has not failed: nothing, but for entries whose removal was said to find nothing, if the
directory could be listed; and everything, without a word, if it could not. -/
theorem cleanup_leftovers {s : Scratch} {v : Volume} {dir : Place} (ho : s.owned = false)
    (hp : v.place? s.path = some dir) (hd : v.tree.node? dir = some .directory) :
    (∀ problem, (s.cleanup v).1 = .error problem →
      ∃ text e, problem = .failure (.scratch (.removeFile text e)) ∧ e.isMissing = false) ∧
    (v.Faultless .list 1 → ∀ answer, (s.cleanup v).1 = .ok answer → ∀ label stream,
      (s.cleanup v).2.tree.node? (dir ++ [s.streamName label stream]) ≠ none →
        ∃ e, s.Asks v (s.path.child (s.streamName label stream)) (.error e) ∧
          e.isMissing = true) ∧
    (∀ e, v.Fails .list e → (s.cleanup v).1 = .ok none ∧ (s.cleanup v).2.tree = v.tree) ∧
    ∀ {scene : Scene} {slot : Nat}, scene.processor.closed = false →
      scene.processor.capture = .files s slot → scene.site.volume = v →
      scene.close.2.site.volume = (s.cleanup v).2 ∧
      ∀ problem, (s.cleanup v).1 = .error problem → scene.close.1 = .error problem := by
  have hunlisted : ∀ e, v.Fails .list e →
      (s.cleanup v).1 = .ok none ∧ (s.cleanup v).2.tree = v.tree := by
    intro e hf
    rw [Scratch.cleanup_nothing ho (Scratch.files_fails s hf)]
    exact ⟨rfl, rfl⟩
  refine ⟨fun problem hf => ?_, fun hs answer ha label stream hnode => ?_, hunlisted, ?_⟩
  · rcases v.faultless_or_fails .list with hs | ⟨e, he⟩
    · obtain ⟨file, e, -, hm, rfl⟩ := Scratch.cleanup_error ho ⟨hp, hd, hs⟩ hf
      exact ⟨file.text, e, rfl, hm⟩
    · rw [(hunlisted e he).1] at hf
      cases hf
  · exact (Scratch.cleanup_ok ho ⟨hp, hd, hs⟩ ha).2 _ (Scratch.owns_streamName s label stream) hnode
  · rintro scene slot hopen hc rfl
    exact Scene.close_clears hopen hc

namespace Sample

def unlisted : Schedule := fun call => if call = .list then [some 13] else []

def sharing (schedule : Schedule) : Scene :=
  { scene with site := { scene.site with volume := shared schedule } }

end Sample

/-- A directory that can be listed is clean after the closing. -/
theorem cleanup_leftovers_sample :
    (Sample.sharing .quiet).close.1 = .ok () ∧
    ∀ label stream, (Sample.sharing .quiet).close.2.site.volume.tree.node?
      (["box"] ++ [Sample.guest.streamName label stream]) = none := by
  obtain ⟨-, hlisted, -, hclose⟩ := @cleanup_leftovers Sample.guest
    (Sample.shared .quiet) ["box"] rfl (by decide +kernel) (by decide +kernel)
  obtain ⟨hvolume, -⟩ := @hclose (Sample.sharing .quiet) 0 rfl rfl rfl
  refine ⟨rfl, fun label stream => ?_⟩
  rw [hvolume]
  by_cases hnode : (Sample.guest.cleanup (Sample.shared .quiet)).2.tree.node?
      (["box"] ++ [Sample.guest.streamName label stream]) = none
  · exact hnode
  · obtain ⟨e, ha, -⟩ := hlisted nofun (some "/box") rfl label stream hnode
    cases Sample.shared_removalsWork _ _ ha

/-- Two files of the instance are there before the closing of a directory that cannot be read, and
they are there after it, which answers that all is well. -/
theorem leftovers_unnoticed :
    (Sample.guest.cleanup (Sample.shared Sample.unlisted)).1 = .ok none ∧
    (Sample.guest.cleanup (Sample.shared Sample.unlisted)).2.tree.node?
      ["box", Sample.guest.streamName "1-0" .stdout] = some (.file [1]) ∧
    (Sample.sharing Sample.unlisted).close.1 = .ok () ∧
    (Sample.sharing Sample.unlisted).close.2.site.volume.tree.node?
      ["box", Sample.guest.streamName "1-0" .stdout] = some (.file [1]) :=
  ⟨rfl, rfl, rfl, rfl⟩

end GuestRunner
