import GuestRunner.Proofs.Files.FilePath

/-!
# Solid directories

A directory is solid when nothing on the way to it is a link. A path through a solid directory leads
directly to every name that is free in it, and removing such a name touches nothing else.
-/

set_option autoImplicit false

namespace GuestRunner.Files

def Proper (name : String) : Prop :=
  name ≠ "" ∧ name ≠ "." ∧ name ≠ ".." ∧ name.utf8ByteSize ≤ Tree.longestName

instance (name : String) : Decidable (Proper name) := inferInstanceAs (Decidable (_ ∧ _))

namespace Tree

structure Solid (t : Tree) (dir : Place) : Prop where
  names : ∀ name ∈ dir, Proper name
  ways : ∀ p, p <+: dir → t.node? p = some .directory

variable {t : Tree} {dir : Place} {name : String}

theorem Solid.sameBut {here : Place → Prop} {t' : Tree} (h : t.Solid dir)
    (hs : SameBut here t t') : t'.Solid dir :=
  ⟨h.names, fun p hp => hs.directory (h.ways p hp)⟩

theorem descend_proper {w : Walk} {onLink : Place → List String → Except Nat Place} {a : Place}
    {rest : List String} (ha : t.node? a = some .directory) (hn : Proper name)
    (hr : rest ≠ [""]) (hl : ∀ target, t.node? (a ++ [name]) ≠ some (.link target)) :
    descend t w onLink a (name :: rest) = descend t w onLink (a ++ [name]) rest := by
  obtain ⟨h1, h2, h3, h4⟩ := hn
  exact descend_on ha ⟨⟨h1, h2, h3⟩, h4, fun he => hr he.2⟩ (Or.inr hl)

/-- The way to a solid directory can be gone at once. -/
theorem Solid.descend_dir (h : t.Solid dir) {w : Walk}
    {onLink : Place → List String → Except Nat Place} {rest : List String} (hne : rest ≠ [])
    (hr : rest ≠ [""]) (parts : List String) (a : Place) (ha : a ++ parts = dir) :
    descend t w onLink a (parts ++ rest) = descend t w onLink dir rest := by
  induction parts generalizing a with
  | nil =>
    rw [List.append_nil] at ha
    rw [ha, List.nil_append]
  | cons part more ih =>
    have hp : a ++ [part] <+: dir := ⟨more, by rw [← ha]; simp⟩
    have hpart : part ∈ dir := by rw [← ha]; simp
    have hmore : more ++ rest ≠ [""] := by
      cases more with
      | nil => exact hr
      | cons x xs => simp [hne]
    rw [List.cons_append, descend_proper (h.ways a ⟨part :: more, ha⟩) (h.names part hpart) hmore
      (fun target => by rw [h.ways _ hp]; simp)]
    exact ih (a ++ [part]) (by rw [← ha]; simp)

theorem Solid.walk_dir (h : t.Solid dir) (w : Walk) (links : Nat) {rest : List String}
    (hne : rest ≠ []) (hr : rest ≠ [""]) :
    walk t w links [] (dir ++ rest) = walk t w links dir rest := by
  cases links with
  | zero => exact h.descend_dir hne hr dir [] rfl
  | succ links => exact h.descend_dir hne hr dir [] rfl

theorem Solid.directory (h : t.Solid dir) : t.node? dir = some .directory :=
  h.ways dir (List.prefix_refl dir)

theorem Solid.walk_below (h : t.Solid dir) (hn : Proper name)
    (hl : ∀ target, t.node? (dir ++ [name]) ≠ some (.link target)) (w : Walk) (links : Nat) :
    walk t w links [] (dir ++ [name]) = .ok (dir ++ [name]) := by
  rw [h.walk_dir w links (by simp) (by simpa using hn.1)]
  cases links with
  | zero => exact descend_proper h.directory hn (by simp) hl
  | succ links => exact descend_proper h.directory hn (by simp) hl

theorem Solid.walk_long (h : t.Solid dir) (hn : name ≠ "" ∧ name ≠ "." ∧ name ≠ "..")
    (hl : longestName < name.utf8ByteSize) (w : Walk) (links : Nat) :
    walk t w links [] (dir ++ [name]) = .error OsError.nameTooLong := by
  have hd : ∀ onLink, descend t w onLink dir [name] = .error OsError.nameTooLong := by
    intro onLink
    rw [descend, h.directory]
    simp [hn.1, hn.2.1, hn.2.2, hl]
  rw [h.walk_dir w links (by simp) (by simpa using hn.1)]
  cases links with
  | zero => exact hd _
  | succ links => exact hd _

end Tree

namespace Volume

variable {v : Volume} {path : Path} {name : String}

def Fits (path : Path) (name : String) : Prop :=
  Proper name ∧ unusable? (path.child name).text = none

instance (path : Path) (name : String) : Decidable (Fits path name) :=
  inferInstanceAs (Decidable (_ ∧ _))

theorem leadsDirectly_of_solid (ha : path.isAbsolute = true) (hs : v.tree.Solid path.parts)
    (hn : Fits path name) (hf : v.tree.Free (path.parts ++ [name])) :
    v.LeadsDirectly (path.child name) (path.parts ++ [name]) where
  rooted := ha
  usable := hn.2
  leads w := by
    have h0 : v.start (path.child name) = [] := if_pos ha
    rw [h0]
    exact hs.walk_below hn.1 hf.no_link w _
  below := by simp
  free := hf

theorem guarded_keeps {α : Type} {P : Volume → Prop} {v : Volume} {call : Call}
    {act : Volume → Except OsError α × Volume} (hf : P (v.after call))
    (hd : P (act (v.after call)).2) : P (v.guarded call act).2 := by
  unfold guarded
  unfold after at hf hd
  cases hs : v.schedule.next call with
  | mk outcome schedule =>
    rw [hs] at hf hd
    cases outcome with
    | none => exact hd
    | some code => exact hf

theorem guarded_touches {α : Type} {here : Place → Prop} (v : Volume) (call : Call)
    (act : Volume → Except OsError α × Volume)
    (h : TouchesOnly here [] (v.after call) (act (v.after call)).2) :
    TouchesOnly here [call] v (v.guarded call act).2 :=
  guarded_keeps (after_touches here v call) ((after_touches here v call).trans h)

theorem list_touches (here : Place → Prop) (v : Volume) (path : Path) :
    TouchesOnly here [.list] v (v.list path).2 :=
  guarded_touches v .list _ (.refl here _)

theorem examine_touches (here : Place → Prop) (v : Volume) (path : Path) :
    TouchesOnly here [.examine] v (v.examine path).2 :=
  guarded_touches v .examine _ (.refl here _)

theorem onTree_failing {act : Place → List String → Except Nat Tree} (v : Volume) (p : Path)
    {code : Nat} (h : act (v.start p) p.parts = .error code) : (v.onTree p act).2 = v := by
  unfold onTree
  split
  · rfl
  · rw [h]

/-- Removing a free name of a solid directory touches only the file there, and needs no file. -/
theorem unlink_touches (ha : path.isAbsolute = true) (hs : v.tree.Solid path.parts)
    (hn : name ≠ "" ∧ name ≠ "." ∧ name ≠ "..") (hf : v.tree.Free (path.parts ++ [name])) :
    TouchesOnly (· = path.parts ++ [name]) [.unlink] v (v.unlink (path.child name)).2 := by
  refine guarded_touches v .unlink _ ?_
  have h0 : (v.after .unlink).start (path.child name) = [] := if_pos ha
  by_cases hu : unusable? (path.child name).text = none
  · by_cases hl : name.utf8ByteSize ≤ Tree.longestName
    · have b := leadsDirectly_of_solid (v := v.after .unlink) ha hs ⟨⟨hn.1, hn.2.1, hn.2.2, hl⟩,
        hu⟩ hf
      exact b.leadsToFile.unlink_tree.2.2
    · have he : (v.after .unlink).tree.unlink ((v.after .unlink).start (path.child name))
          (path.child name).parts = .error OsError.nameTooLong := by
        have hs' : (v.after .unlink).tree.Solid path.parts := hs
        rw [h0]
        simp only [Tree.unlink, Tree.locate, Path.child]
        rw [hs'.walk_long hn (Nat.not_le.mp hl)]
        rfl
      rw [onTree_failing _ _ he]
      exact .refl _ _
  · have hstay : ((v.after .unlink).onTree (path.child name) (v.after .unlink).tree.unlink).2 =
        v.after .unlink := by
      unfold onTree
      split
      · rfl
      · rename_i hno
        exact absurd hno hu
    rw [hstay]
    exact .refl _ _

theorem guarded_loss {α : Type} (v : Volume) (call : Call)
    (act : Volume → Except OsError α × Volume)
    (h : (v.after call).tree.Loss (act (v.after call)).2.tree) :
    v.tree.Loss (v.guarded call act).2.tree :=
  guarded_keeps (P := fun v' => v.tree.Loss v'.tree) (.refl _) h

theorem list_loss (v : Volume) (path : Path) : v.tree.Loss (v.list path).2.tree :=
  guarded_loss v .list _ (.refl _)

theorem examine_loss (v : Volume) (path : Path) : v.tree.Loss (v.examine path).2.tree :=
  guarded_loss v .examine _ (.refl _)

/-- Removing a file loses what it had and nothing else. -/
theorem unlink_loss (v : Volume) (path : Path) : v.tree.Loss (v.unlink path).2.tree := by
  refine guarded_loss v .unlink _ ?_
  unfold onTree
  split
  · exact .refl _
  · cases hu : (v.after .unlink).tree.unlink ((v.after .unlink).start path) path.parts with
    | error code => exact .refl _
    | ok tree =>
      simp only [Tree.unlink, bind, Except.bind] at hu
      split at hu
      · cases hu
      · rename_i p hp
        split at hu
        · cases hu
        · rename_i hd hn
          cases hu
          refine Tree.erase_loss _ ?_
          rintro rfl
          rw [show (v.after .unlink).tree.node? [] = some .directory from rfl] at hn
          exact hd (Option.some.inj hn).symm
        · cases hu

theorem removeAll_loss (v : Volume) (path : Path) : v.tree.Loss (v.removeAll path).2.tree := by
  refine guarded_loss v .removeAll _ ?_
  cases hr : (v.after .removeAll).tree.removeAll ((v.after .removeAll).start path) path.parts with
  | error e => cases e <;> exact .refl _
  | ok tree =>
    unfold Tree.removeAll at hr
    split at hr
    · cases hr
    · split at hr
      · cases hr
        exact Tree.prune_loss _ _
      all_goals cases hr

end Volume

end GuestRunner.Files
