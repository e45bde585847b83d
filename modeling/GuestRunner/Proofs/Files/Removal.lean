import GuestRunner.Proofs.Files.Directories
import GuestRunner.Proofs.Files.AddedFiles

/-!
# Taking files away

What is taken away from a tree closes ways and opens none: a walk that arrives in what is left
arrives in the whole tree, at the same place. So a file that is removed by its name in a directory
is the one that had this name from the beginning, whatever was removed before.
-/

set_option autoImplicit false

namespace GuestRunner.Files

namespace Tree

def Within (t t' : Tree) : Prop := ∀ q, t.node? q = t'.node? q ∨ t.node? q = none

variable {t t' : Tree} {w : Walk} {a dir q : Place} {name : String}
  {onLink onLink' : Place → List String → Except Nat Place}

theorem Within.node (h : t.Within t') {n : Node} (hn : t.node? q = some n) :
    t'.node? q = some n := by
  rcases h q with he | he
  · rw [← he, hn]
  · rw [he] at hn
    cases hn

/-- A walk stands on directories until it arrives, so it misses nothing of what is gone. -/
theorem descend_within (h : t.Within t') (ht : w.through = false ∨ t.node? q ≠ none)
    (hl : ∀ a parts, onLink a parts = .ok q → onLink' a parts = .ok q) (parts : List String)
    (a : Place) (ha : descend t w onLink a parts = .ok q) :
    descend t' w onLink' a parts = .ok q := by
  induction parts generalizing a with
  | nil => exact ha
  | cons part rest ih =>
    obtain ⟨hdir, nameStep, hleads, harr⟩ := descend_cons.mp ha
    refine descend_cons.mpr ⟨h.node hdir, nameStep, ?_, harr.imp ih hl⟩
    have hfile : ∀ {p : Place}, t.node? p ≠ none →
        (∀ target, t.node? p ≠ some (.link target)) →
          ∀ target, t'.node? p ≠ some (.link target) := by
      intro p hp hno
      rcases h p with he | he
      · rwa [← he]
      · exact absurd he hp
    cases hleads with
    | stay hdot => exact .stay hdot
    | up hup hconfined => exact .up hup hconfined
    | name hn hno =>
      refine .name hn ?_
      cases rest with
      | nil =>
        rcases ht with ht | ht
        · exact Or.inl ⟨rfl, ht⟩
        · obtain rfl : a ++ [part] = q := Except.ok.inj harr
          exact hno.imp_right (hfile ht)
      | cons next more =>
        have hnext : t.node? (a ++ [part]) = some .directory := (descend_cons.mp harr).1
        exact Or.inr fun target => by simp [h.node hnext]
    | relative target hn hlink hk hp => exact .relative target hn (h.node hlink) hk hp
    | absolute target hn hlink hk hp hf => exact .absolute target hn (h.node hlink) hk hp hf

theorem walk_within (h : t.Within t') (w : Walk) (ht : w.through = false ∨ t.node? q ≠ none)
    (links : Nat) (parts : List String) (a : Place) (ha : walk t w links a parts = .ok q) :
    walk t' w links a parts = .ok q := by
  induction links generalizing a parts with
  | zero => exact descend_within h ht (fun _ _ he => by cases he) parts a ha
  | succ links ih => exact descend_within h ht (fun a parts => ih parts a) parts a ha

/-- A name after the path of a directory leads to the entry of this name or nowhere. -/
theorem locate_name {parts : List String} (h : t.Within t') (hn : Ordinary name)
    (hd : t'.node? dir = some .directory) (hp : t'.locate true a parts = .ok dir)
    (hq : t.locate false a (parts ++ [name]) = .ok q) : q = dir ++ [name] := by
  -- The name may be too long for any file, hence the detour over the shortest one.
  have hshort : Ordinary "-" := ⟨by decide, by decide, by decide⟩
  have hsize : "-".utf8ByteSize ≤ name.utf8ByteSize := by
    have hne : name.utf8ByteSize ≠ 0 := by simpa using hn.1
    exact Nat.one_le_iff_ne_zero.mpr hne
  obtain ⟨d, hq', hwalk⟩ := walk_last ⟨none, false, false⟩ ⟨none, false, false⟩ (.refl t') rfl hn
    hshort hsize (Or.inl rfl) (fun _ _ => Or.inl rfl) _ _ _
    (walk_within h ⟨none, false, false⟩ (Or.inl rfl) _ _ _ hq)
  have hdir : walk t' ⟨none, false, false⟩ linkLimit a (parts ++ ["-"]) = .ok (dir ++ ["-"]) :=
    @walk_further t' ⟨none, true, false⟩ ⟨none, false, false⟩ "-" dir rfl rfl hshort (by decide) hd
      (Or.inl rfl) _ _ _ hp
  rw [hdir] at hwalk
  rw [hq', List.append_cancel_right (Except.ok.inj hwalk)]

/-- What can be removed by its path is there and is no directory. -/
theorem unlink_eq_ok {parts : List String} (h : t.unlink a parts = .ok t') :
    ∃ q n, t.locate false a parts = .ok q ∧ t.node? q = some n ∧ n ≠ .directory ∧
      t' = t.erase q := by
  unfold unlink at h
  cases hl : t.locate false a parts with
  | error code =>
    rw [hl] at h
    cases h
  | ok q =>
    rw [hl] at h
    cases hn : t.node? q with
    | none => simp [bind, Except.bind, hn] at h
    | some n =>
      cases n with
      | directory => simp [bind, Except.bind, hn] at h
      | _ =>
        simp only [bind, Except.bind, hn] at h
        exact ⟨q, _, rfl, hn, nofun, (Except.ok.inj h).symm⟩

theorem mem_names : name ∈ t.names dir ↔ t.node? (dir ++ [name]) ≠ none := by
  have hlast : ∀ p : Place, (p ≠ [] ∧ p.dropLast = dir) ∧ p.getLast? = some name ↔
      p = dir ++ [name] := by
    intro p
    constructor
    · rintro ⟨⟨-, rfl⟩, hl⟩
      obtain ⟨front, rfl⟩ := List.getLast?_eq_some_iff.mp hl
      simp
    · rintro rfl
      simp
  rw [ne_eq, absent_iff (by simp)]
  simp only [names, List.mem_filterMap, Option.ite_none_right_eq_some, hlast]
  simp

end Tree

namespace Volume

variable {v v' : Volume} {p : Path} {done : Except OsError Unit}

def SameTree (v w : Volume) : Prop := w.home = v.home ∧ ∀ q, w.tree.node? q = v.tree.node? q

theorem SameTree.start {w : Volume} (h : v.SameTree w) (p : Path) : w.start p = v.start p := by
  rw [Volume.start, Volume.start, h.1]

/-- A removal fails with nothing done, or takes away something that is no directory. -/
theorem unlink_cases (h : v.unlink p = (done, v')) :
    v'.home = v.home ∧ ((∃ e, done = .error e ∧ v'.tree = v.tree) ∨
      done = .ok () ∧ ∃ q n, v.tree.locate false (v.start p) p.parts = .ok q ∧
        v.tree.node? q = some n ∧ n ≠ .directory ∧ v'.tree = v.tree.erase q) := by
  rcases v.faultless_or_fails .unlink with hs | ⟨e, hf⟩
  · rw [unlink, guarded_faultless hs, onTree] at h
    split at h
    · cases h
      exact ⟨rfl, Or.inl ⟨_, rfl, rfl⟩⟩
    · split at h <;> rename_i hu
      · cases h
        obtain ⟨q, n, hl, hn, hd, rfl⟩ := Tree.unlink_eq_ok hu
        exact ⟨rfl, Or.inr ⟨rfl, q, n, hl, hn, hd, rfl⟩⟩
      · cases h
        exact ⟨rfl, Or.inl ⟨_, rfl, rfl⟩⟩
  · rw [unlink, guarded_fails hf] at h
    cases h
    exact ⟨rfl, Or.inl ⟨_, rfl, rfl⟩⟩

end Volume

end GuestRunner.Files
