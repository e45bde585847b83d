import GuestRunner.Proofs.Files.Directories

/-!
# Directories that are gone

Once a directory is removed, the paths into it lead nowhere. The calls that a sink makes with such a
path find its file missing; only what would make the file fails, because there is nothing to make it
in.
-/

set_option autoImplicit false

namespace GuestRunner.Files

namespace Tree

variable {t : Tree} {dir : Place} {name : String}

structure Gone (t : Tree) (dir : Place) : Prop where
  names : ∀ name ∈ dir, Proper name
  ways : ∀ p, p <+: dir → p ≠ dir → t.node? p = some .directory
  gone : t.node? dir = none

theorem Gone.descend (h : t.Gone dir) (hn : name ≠ "") (w : Walk)
    (onLink : Place → List String → Except Nat Place) (parts : List String) (a : Place)
    (ha : a ++ parts = dir) :
    descend t w onLink a (parts ++ [name]) = .error OsError.missing := by
  induction parts generalizing a with
  | nil =>
    rw [List.append_nil] at ha
    subst ha
    rw [List.nil_append, Tree.descend, h.gone]
  | cons part rest ih =>
    have hpart : part ∈ dir := by rw [← ha]; simp
    have hne : a ≠ dir := fun he => by simp [he] at ha
    have hrest : rest ++ [name] ≠ [""] := by
      cases rest with
      | nil => simpa using hn
      | cons x xs => simp
    have hlink : ∀ target, t.node? (a ++ [part]) ≠ some (.link target) := by
      intro target
      by_cases he : a ++ [part] = dir
      · rw [he, h.gone]
        simp
      · rw [h.ways _ ⟨rest, by rw [← ha]; simp⟩ he]
        simp
    rw [List.cons_append, descend_proper (h.ways a ⟨part :: rest, ha⟩ hne) (h.names part hpart)
      hrest hlink]
    exact ih (a ++ [part]) (by rw [← ha]; simp)

theorem Gone.walk (h : t.Gone dir) (hn : name ≠ "") (w : Walk) (links : Nat) :
    walk t w links [] (dir ++ [name]) = .error OsError.missing := by
  cases links with
  | zero => exact h.descend hn w _ dir [] rfl
  | succ links => exact h.descend hn w _ dir [] rfl

theorem Solid.descend_self (h : t.Solid dir) (w : Walk)
    (onLink : Place → List String → Except Nat Place) (parts : List String) (a : Place)
    (ha : a ++ parts = dir) : Tree.descend t w onLink a parts = .ok dir := by
  induction parts generalizing a with
  | nil =>
    rw [List.append_nil] at ha
    rw [ha]
    rfl
  | cons part rest ih =>
    have hpart : part ∈ dir := by rw [← ha]; simp
    have hrest : rest ≠ [""] := by
      rintro rfl
      exact (h.names "" (by rw [← ha]; simp)).1 rfl
    rw [descend_proper (h.ways a ⟨part :: rest, ha⟩) (h.names part hpart) hrest
      (fun target => by rw [h.ways _ ⟨rest, by rw [← ha]; simp⟩]; simp)]
    exact ih (a ++ [part]) (by rw [← ha]; simp)

theorem Solid.walk_self (h : t.Solid dir) (w : Walk) (links : Nat) :
    Tree.walk t w links [] dir = .ok dir := by
  cases links with
  | zero => exact h.descend_self w _ dir [] rfl
  | succ links => exact h.descend_self w _ dir [] rfl

theorem Solid.prune (h : t.Solid dir) (hd : dir ≠ []) : (t.prune dir).Gone dir where
  names := h.names
  ways p hp hne := by
    have hno : ¬ (p ≠ [] ∧ dir.isPrefixOf p = true) := by
      rintro ⟨-, hle⟩
      exact hne (hp.eq_of_length_le (List.isPrefixOf_iff_prefix.mp hle).length_le)
    rw [node_prune, if_neg hno]
    exact h.ways p hp
  gone := by
    rw [node_prune, if_pos ⟨hd, by simp⟩]

theorem Gone.sameBut {t' : Tree} (h : t.Gone dir) (hs : SameBut (fun _ => False) t t') :
    t'.Gone dir where
  names := h.names
  ways p hp hne := by rw [hs.node id, h.ways p hp hne]
  gone := by rw [hs.node id, h.gone]

end Tree

namespace Volume

structure Nowhere (v : Volume) (path : Path) : Prop where
  rooted : path.isAbsolute = true
  usable : unusable? path.text = none
  leads : ∀ w, v.tree.walk w Tree.linkLimit (v.start path) path.parts = .error OsError.missing

theorem nowhere_of_gone {v : Volume} {path : Path} {name : String}
    (ha : path.isAbsolute = true) (hg : v.tree.Gone path.parts) (hn : Fits path name) :
    v.Nowhere (path.child name) where
  rooted := ha
  usable := hn.2
  leads w := by
    have h0 : v.start (path.child name) = [] := if_pos ha
    rw [h0]
    exact hg.walk hn.1.1 w _

def withoutDirectory (v : Volume) (dir : Place) : Volume :=
  { v.after .removeAll with tree := v.tree.prune dir }

/-- Removing a solid directory fails with nothing done, or everything in it is gone. -/
theorem removeAll_solid {v : Volume} {path : Path} (ha : path.isAbsolute = true)
    (hs : v.tree.Solid path.parts) :
    (∃ e, v.removeAll path = (.error e, v.after .removeAll)) ∨
      v.removeAll path = (.ok (), v.withoutDirectory path.parts) := by
  rcases v.faultless_or_fails .removeAll with h | ⟨e, h⟩
  · have h0 : (v.after .removeAll).start path = [] := if_pos ha
    have hr : (v.after .removeAll).tree.removeAll [] path.parts =
        .ok (v.tree.prune path.parts) := by
      simp only [Tree.removeAll, Tree.locate]
      rw [show (v.after .removeAll).tree = v.tree from rfl, hs.walk_self]
      simp only [hs.directory]
    refine Or.inr ?_
    rw [Volume.removeAll, guarded_faultless h]
    simp only [h0, hr]
    rfl
  · exact Or.inl ⟨e, guarded_fails h _⟩

namespace Nowhere

variable {v : Volume} {path : Path}

theorem after (h : Nowhere v path) (call : Call) : Nowhere (v.after call) path := ⟨h.1, h.2, h.3⟩

theorem truncate (h : Nowhere v path) (hs : v.Faultless .truncate 1) :
    ∃ e, v.truncate path = (.error e, v.after .truncate) ∧ e.isMissing = true := by
  rw [Volume.truncate, guarded_faultless hs]
  simp only [onTree, h.usable, Tree.truncate, Tree.locate, (h.after .truncate).leads, bind,
    Except.bind]
  exact ⟨_, rfl, rfl⟩

theorem refill (h : Nowhere v path) (f : Bytes → Bytes) :
    ∃ e, v.onTree path (v.tree.refill f) = (.error e, v) ∧ e.isMissing = true := by
  simp only [onTree, h.usable, Tree.refill, Tree.locateNew, h.leads, bind, Except.bind]
  exact ⟨_, rfl, rfl⟩

theorem readStream (h : Nowhere v path) (hs : v.Faultless .open 1) :
    ∃ e, v.readStream path = (.error e, v.after .open) ∧ e.isMissing = true := by
  have hstart : (v.after .open).start (Path.ofText path.text) = v.start path := by
    simp only [start, Path.ofText_text_isAbsolute h.rooted, h.rooted]
    rfl
  rw [Volume.readStream, guarded_faultless hs]
  simp only [read, readAs, h.usable, hstart, Tree.read, Tree.locate, bind, Except.bind]
  rw [show (v.after .open).tree = v.tree from rfl, h.leads]
  exact ⟨_, rfl, rfl⟩

theorem unlink (h : Nowhere v path) (hs : v.Faultless .unlink 1) :
    ∃ e, v.unlink path = (.error e, v.after .unlink) ∧ e.isMissing = true := by
  rw [Volume.unlink, guarded_faultless hs]
  simp only [onTree, h.usable, Tree.unlink, Tree.locate, (h.after .unlink).leads, bind,
    Except.bind]
  exact ⟨_, rfl, rfl⟩

theorem place_none (h : Nowhere v path) : v.place? path = none := by
  simp only [place?, Tree.locate, h.leads, Except.toOption]

end Nowhere

end Volume

end GuestRunner.Files
