import GuestRunner.Proofs.Files.FilePath
import GuestRunner.Proofs.Files.Walks

/-!
# Trees with files added

Files may be made for a while at places where nothing was. They are removed place by place, and in
the end the tree is the one that it was, entry by entry. In between no directory and no link is made
or lost, so that every path leads where it led before.
-/

set_option autoImplicit false

namespace GuestRunner.Files

namespace Tree

def without (t : Tree) (here : List Place) : Tree := ⟨t.entries.filter fun e => e.1 ∉ here⟩

variable {t b : Tree} {here : List Place} {q : Place} {w w' : Walk} {path : Path}

theorem without_nil (t : Tree) : t.without [] = t :=
  congrArg Tree.mk (List.filter_eq_self.mpr (by simp))

theorem node_without (t : Tree) (here : List Place) (hq : q ≠ []) :
    (t.without here).node? q = if q ∈ here then none else t.node? q := by
  have h := lookup_kept (fun r => r ∉ here) q t.entries
  simp only [node?, without, if_neg hq]
  rw [h]
  by_cases hm : q ∈ here <;> simp [hm]

theorem erase_without (t : Tree) (q : Place) (here : List Place) :
    (t.erase q).without here = t.without (q :: here) := by
  simp only [without, erase, List.filter_filter, Tree.mk.injEq]
  apply List.filter_congr
  intro e _
  by_cases he : e.1 = q <;> simp [he]

theorem filter_set (keep : Place → Bool) (hq : keep q = false) (n : Node)
    (es : List (Place × Node)) :
    (set q n es).filter (fun e => keep e.1) = es.filter fun e => keep e.1 := by
  induction es with
  | nil => simp [set, hq]
  | cons e rest ih =>
    rw [set]
    by_cases he : e.1 = q
    · simp [he, hq]
    · simp only [if_neg he, List.filter_cons, ih]

theorem without_put (hq : q ∈ here) (n : Node) : (t.put q n).without here = t.without here := by
  have h := filter_set (fun r => r ∉ here) (by simpa using hq) n t.entries
  exact congrArg Tree.mk h

theorem without_mem (hq : q ∈ here) : t.without (q :: here) = t.without here := by
  have h : ∀ r : Place, r ∈ q :: here ↔ r ∈ here := by
    intro r
    constructor
    · intro hr
      rcases List.mem_cons.mp hr with rfl | hr
      · exact hq
      · exact hr
    · exact List.mem_cons_of_mem q
  simp only [without, h]

theorem absent_iff (hq : q ≠ []) : t.node? q = none ↔ ∀ e ∈ t.entries, e.1 ≠ q := by
  rw [node?, if_neg hq]
  induction t.entries with
  | nil => simp
  | cons e rest ih =>
    rw [show (e :: rest).lookup q = _ from lookup_cons_ite e.1 q e.2 rest]
    by_cases he : q = e.1
    · simp [he]
    · simp [if_neg he, ih, Ne.symm he]

theorem erase_absent (h : t.node? q = none) : t.erase q = t := by
  have hne := (absent_iff (ne_nil_of_absent h)).mp h
  have hf : t.entries.filter (fun e => e.1 ≠ q) = t.entries :=
    List.filter_eq_self.mpr fun e he => by simpa using hne e he
  exact congrArg Tree.mk hf

theorem SameBut.symm {here : Place → Prop} {t t' : Tree} (h : SameBut here t t') :
    SameBut here t' t := by
  intro q
  rcases h q with he | ⟨hq, hf, hf'⟩
  · exact Or.inl he.symm
  · exact Or.inr ⟨hq, hf', hf⟩

structure FilesAdded (b : Tree) (here : List Place) (t : Tree) : Prop where
  rest : t.without here = b
  free : ∀ q ∈ here, t.Free q

theorem filesAdded_nil : FilesAdded b [] t ↔ t = b := by
  constructor
  · intro h
    exact (without_nil t).symm.trans h.rest
  · rintro rfl
    exact ⟨without_nil t, nofun⟩

theorem filesAdded_absent (h : ∀ q ∈ here, b.node? q = none) : FilesAdded b here b where
  rest := by
    have hf : b.entries.filter (fun e => e.1 ∉ here) = b.entries := by
      apply List.filter_eq_self.mpr
      intro e he
      have hout : e.1 ∉ here := fun hm =>
        (absent_iff (ne_nil_of_absent (h e.1 hm))).mp (h e.1 hm) e he rfl
      simpa using hout
    exact congrArg Tree.mk hf
  free q hq := Or.inl (h q hq)

namespace FilesAdded

theorem ne_nil (h : FilesAdded b here t) (hq : q ∈ here) : q ≠ [] := by
  rintro rfl
  exact (h.free [] hq).no_directory rfl

theorem sameBut (h : FilesAdded b here t) : SameBut (· ∈ here) b t := by
  intro q
  by_cases hq : q ∈ here
  · have hb : b.node? q = none := by
      rw [← h.rest, node_without t here (h.ne_nil hq), if_pos hq]
    exact Or.inr ⟨hq, Or.inl hb, h.free q hq⟩
  · by_cases hn : q = []
    · exact Or.inl (by rw [hn]; rfl)
    · refine Or.inl ?_
      rw [← h.rest, node_without t here hn, if_neg hq]

theorem walk (h : FilesAdded b here t) (w : Walk) (links : Nat) (a : Place) (parts : List String) :
    t.walk w links a parts = .ok q ↔ b.walk w links a parts = .ok q :=
  ⟨walk_passes h.sameBut.symm.passes w links parts a, walk_passes h.sameBut.passes w links parts a⟩

theorem directory (h : FilesAdded b here t) (q : Place) :
    t.node? q = some .directory ↔ b.node? q = some .directory :=
  ⟨h.sameBut.symm.directory, h.sameBut.directory⟩

theorem put (h : FilesAdded b here t) (hq : q ∈ here) (c : Bytes) :
    FilesAdded b here (t.put q (.file c)) where
  rest := (without_put hq _).trans h.rest
  free p hp := (put_file_sameBut t (h.ne_nil hq) (h.free q hq) c).free (h.free p hp)

theorem returned (h : FilesAdded b (q :: here) t) : FilesAdded b here (t.erase q) where
  rest := (erase_without t q here).trans h.rest
  free p hp := by
    have hq : q ∈ q :: here := List.mem_cons_self
    exact (erase_sameBut t (h.ne_nil hq) (h.free q hq)).free (h.free p (List.mem_cons_of_mem q hp))

theorem erase (h : FilesAdded b here t) (hq : q ∈ here) : FilesAdded b here (t.erase q) :=
  returned ⟨(without_mem hq).trans h.rest, fun p hp => by
    rcases List.mem_cons.mp hp with rfl | hp
    · exact h.free p hq
    · exact h.free p hp⟩

theorem unused (h : FilesAdded b (q :: here) t) (hn : t.node? q = none) : FilesAdded b here t := by
  have hr := h.returned
  rwa [erase_absent hn] at hr

end FilesAdded

/-- However it is walked, the path leads to one place where nothing is, or nowhere. The place is
named as the path says. -/
structure Vacant (b : Tree) (path : Path) : Prop where
  rooted : path.isAbsolute = true
  named : ∀ w q, w.confinedTo = none → b.walk w linkLimit [] path.parts = .ok q →
    q.getLast? = path.parts.getLast?
  leads : ∀ w w' q, w.confinedTo = none → w'.confinedTo = none →
    b.walk w linkLimit [] path.parts = .ok q →
    b.walk w' linkLimit [] path.parts = .ok q ∧ b.node? q = none

def placeFor (b : Tree) (path : Path) : List Place :=
  match Volume.unusable? path.text, b.locate false [] path.parts with
  | none, .ok q => [q]
  | _, _ => []

theorem Vacant.placeFor_eq (h : b.Vacant path) (hu : Volume.unusable? path.text = none)
    (hw : w.confinedTo = none) (ha : b.walk w linkLimit [] path.parts = .ok q) :
      b.placeFor path = [q] := by
  have hl : b.locate false [] path.parts = .ok q := (h.leads w _ q hw rfl ha).1
  simp only [placeFor, hu, hl]

theorem mem_placeFor (hq : q ∈ b.placeFor path) :
    b.placeFor path = [q] ∧ Volume.unusable? path.text = none ∧
      b.locate false [] path.parts = .ok q := by
  unfold placeFor at hq ⊢
  split at hq
  · rename_i p hu hl
    obtain rfl := List.mem_singleton.mp hq
    exact ⟨rfl, hu, hl⟩
  · cases hq

theorem Vacant.absent (h : b.Vacant path) (hq : q ∈ b.placeFor path) : b.node? q = none :=
  (h.leads _ ⟨none, false, false⟩ q rfl rfl (mem_placeFor hq).2.2).2

end Tree

namespace Volume

structure OnlyAdded (b : Volume) (here : List Place) (v : Volume) : Prop where
  quiet : b.schedule = .quiet
  still : v = { b with tree := v.tree }
  filesAdded : b.tree.FilesAdded here v.tree

theorem guarded_quiet {α : Type} {v : Volume} (h : v.schedule = .quiet) (call : Call)
    (act : Volume → Except OsError α × Volume) : v.guarded call act = act v := by
  have hs : v.schedule.next call = (none, v.schedule) := by
    rw [h]
    rfl
  simp only [guarded, hs]

variable {b v : Volume} {here : List Place} {path : Path}

theorem onlyAdded_nil (h : b.schedule = .quiet) : OnlyAdded b [] v ↔ v = b := by
  constructor
  · intro hl
    rw [hl.still, Tree.filesAdded_nil.mp hl.filesAdded]
  · rintro rfl
    exact ⟨h, rfl, Tree.filesAdded_nil.mpr rfl⟩

theorem start_rooted (v : Volume) (h : path.isAbsolute = true) : v.start path = [] := if_pos h

namespace OnlyAdded

theorem calm (h : OnlyAdded b here v) : v.schedule = .quiet := by
  rw [h.still]
  exact h.quiet

theorem withTree (h : OnlyAdded b here v) {tree : Tree} {there : List Place}
    (ht : b.tree.FilesAdded there tree) : OnlyAdded b there { v with tree } where
  quiet := h.quiet
  still := by rw [h.still]
  filesAdded := ht

/-- A file may be made or written at a place for added files. -/
theorem refill (h : OnlyAdded b here v) (hp : b.tree.Vacant path) (hl : b.tree.placeFor path ⊆ here)
    (f : Bytes → Bytes) : OnlyAdded b here (v.onTree path (v.tree.refill f)).2 := by
  unfold onTree
  cases hu : unusable? path.text with
  | some e => exact h
  | none =>
    simp only [start_rooted v hp.rooted, Tree.refill, Tree.locateNew, bind, Except.bind]
    cases hw : v.tree.walk ⟨none, true, true⟩ Tree.linkLimit [] path.parts with
    | error code => exact h
    | ok q =>
      have hlot := hp.placeFor_eq hu rfl ((h.filesAdded.walk _ _ _ _).mp hw)
      have hq : q ∈ here := hl (by rw [hlot]; exact List.mem_singleton_self q)
      rcases h.filesAdded.free q hq with hn | ⟨c, hn⟩ <;> simp only [hn]
      · exact h.withTree (h.filesAdded.put hq _)
      · exact h.withTree (h.filesAdded.put hq _)

/-- An added file may be removed, and its place stays one for added files. -/
theorem unlink (h : OnlyAdded b here v) (hp : b.tree.Vacant path)
    (hl : b.tree.placeFor path ⊆ here) :
    OnlyAdded b here (v.onTree path v.tree.unlink).2 := by
  unfold onTree
  cases hu : unusable? path.text with
  | some e => exact h
  | none =>
    simp only [start_rooted v hp.rooted, Tree.unlink, Tree.locate, bind, Except.bind]
    cases hw : v.tree.walk ⟨none, false, false⟩ Tree.linkLimit [] path.parts with
    | error code => exact h
    | ok q =>
      have hlot := hp.placeFor_eq hu rfl ((h.filesAdded.walk _ _ _ _).mp hw)
      have hq : q ∈ here := hl (by rw [hlot]; exact List.mem_singleton_self q)
      rcases h.filesAdded.free q hq with hn | ⟨c, hn⟩ <;> simp only [hn]
      · exact h
      · exact h.withTree (h.filesAdded.erase hq)

/-- The file of a path is removed for good. If that fails for another reason than that there is no
file, the path has no place. -/
theorem takeBack (h : OnlyAdded b (b.tree.placeFor path ++ here) v) (hp : b.tree.Vacant path) :
    OnlyAdded b here (v.unlink path).2 ∧
      ∀ e, (v.unlink path).1 = .error e → e.isMissing = false → b.tree.placeFor path = [] := by
  rw [Volume.unlink, guarded_quiet h.calm]
  -- Without a place the call fails. With one it fails only if the file was never made.
  by_cases hlot : b.tree.placeFor path = []
  · rw [hlot, List.nil_append] at h
    exact ⟨h.unlink hp (by simp [hlot]), fun _ _ _ => hlot⟩
  · obtain ⟨q, hq⟩ := List.exists_mem_of_ne_nil _ hlot
    obtain ⟨hone, hu, hl⟩ := Tree.mem_placeFor hq
    rw [hone, List.singleton_append] at h
    have hw := (h.filesAdded.walk ⟨none, false, false⟩ Tree.linkLimit [] path.parts).mpr hl
    simp only [onTree, hu, start_rooted v hp.rooted, Tree.unlink, Tree.locate, bind,
      Except.bind, hw]
    rcases h.filesAdded.free q List.mem_cons_self with hn | ⟨c, hn⟩ <;> simp only [hn]
    · refine ⟨h.withTree (h.filesAdded.unused hn), fun e he hm => ?_⟩
      cases he
      cases hm
    · exact ⟨h.withTree h.filesAdded.returned, by simp⟩

end OnlyAdded

theorem truncate_vacant (hq : v.schedule = .quiet) (hp : v.tree.Vacant path) :
    (v.truncate path).2 = v := by
  rw [truncate, guarded_quiet hq]
  unfold onTree
  cases hu : unusable? path.text with
  | some e => rfl
  | none =>
    simp only [start_rooted v hp.rooted, Tree.truncate, Tree.locate, bind, Except.bind]
    cases hw : v.tree.walk ⟨none, true, false⟩ Tree.linkLimit [] path.parts with
    | error code => rfl
    | ok q => simp only [(hp.leads _ ⟨none, true, false⟩ q rfl rfl hw).2]

theorem readStream_quiet (hq : v.schedule = .quiet) (path : Path) : (v.readStream path).2 = v := by
  rw [readStream, guarded_quiet hq]

end Volume

end GuestRunner.Files
