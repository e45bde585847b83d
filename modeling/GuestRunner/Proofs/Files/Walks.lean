import GuestRunner.Proofs.Files.Nodes

/-!
# Walks

A walk is led on by one name of a path after the other: it stays, goes up, goes on or follows a
link. It never stands on a file. So a walk that arrives goes the same way in a tree that differs in
files only, and two paths that differ in their last names only lead to the same directory or to
none.
-/

set_option autoImplicit false

namespace GuestRunner.Files

def Ordinary (name : String) : Prop := name ≠ "" ∧ name ≠ "." ∧ name ≠ ".."

namespace Tree

def Passes (t t' : Tree) : Prop :=
  ∀ q, t'.node? q = t.node? q ∨ t.Free q ∧ ∀ target, t'.node? q ≠ some (.link target)

variable {t t' : Tree} {w w' : Walk} {name name' : String} {a q : Place}

theorem Passes.refl (t : Tree) : Passes t t := fun _ => Or.inl rfl

theorem SameBut.passes {here : Place → Prop} (h : SameBut here t t') : Passes t t' := by
  intro q
  rcases h q with he | ⟨-, hf, hf'⟩
  · exact Or.inl he
  · exact Or.inr ⟨hf, hf'.no_link⟩

theorem Passes.directory (h : Passes t t') (ha : t.node? a = some .directory) :
    t'.node? a = some .directory := by
  rcases h a with he | ⟨hf, -⟩
  · rw [he, ha]
  · exact absurd ha hf.no_directory

theorem ne_nil_of_absent (h : t.node? q = none) : q ≠ [] := by
  rintro rfl
  cases h

theorem passes_put_directory (h : t.node? q = none) : Passes t (t.put q .directory) := by
  intro p
  rw [node_put t (ne_nil_of_absent h)]
  by_cases hp : p = q
  · subst hp
    exact Or.inr ⟨Or.inl h, by simp⟩
  · exact Or.inl (if_neg hp)

theorem snoc_ne_slash (hn : Ordinary name) (rest : List String) : rest ++ [name] ≠ [""] := by
  intro h
  cases rest with
  | nil => exact hn.1 (List.singleton_inj.mp h)
  | cons part rest => simp at h

inductive NameStep
  | on (place : Place)
  | link (start : Place) (parts : List String)

def NameStep.Arrives (walk follow : Place → List String → Except Nat Place) (rest : List String)
    (q : Place) : NameStep → Prop
  | .on place => walk place rest = .ok q
  | .link start parts => follow start parts = .ok q

structure Named (w : Walk) (part : String) (rest : List String) : Prop where
  ordinary : Ordinary part
  short : part.utf8ByteSize ≤ longestName
  made : ¬ (w.making = true ∧ rest = [""])

inductive Leads (t : Tree) (w : Walk) (a : Place) (part : String) (rest : List String) :
    NameStep → Prop
  | stay (h : part = "." ∨ part = "") : Leads t w a part rest (.on a)
  | up (h : part = "..") (hf : w.confinedTo ≠ some a) : Leads t w a part rest (.on a.dropLast)
  | name (h : Named w part rest) (hl : rest = [] ∧ w.through = false ∨
      ∀ target, t.node? (a ++ [part]) ≠ some (.link target)) :
    Leads t w a part rest (.on (a ++ [part]))
  | relative (target : String) (h : Named w part rest)
    (hl : t.node? (a ++ [part]) = some (.link target)) (hk : ¬ (rest = [] ∧ w.through = false))
    (hp : Path.isAbsoluteText target = false) :
    Leads t w a part rest (.link a (Path.lookupParts target ++ rest))
  | absolute (target : String) (h : Named w part rest)
    (hl : t.node? (a ++ [part]) = some (.link target)) (hk : ¬ (rest = [] ∧ w.through = false))
    (hp : Path.isAbsoluteText target = true) (hf : w.confinedTo = none) :
    Leads t w a part rest (.link [] (Path.lookupParts target ++ rest))

variable {onLink onLink' : Place → List String → Except Nat Place} {part : String}
  {rest : List String} {nameStep : NameStep}

theorem NameStep.Arrives.imp {walk walk' follow follow' : Place → List String → Except Nat Place}
    (h : nameStep.Arrives walk follow rest q) (hw : ∀ b, walk b rest = .ok q → walk' b rest = .ok q)
    (hf : ∀ b parts, follow b parts = .ok q → follow' b parts = .ok q) :
    nameStep.Arrives walk' follow' rest q := by
  cases nameStep with
  | on place => exact hw place h
  | link start parts => exact hf start parts h

theorem Named.no_dot (hn : Named w part rest) : ¬ (part = "." ∨ part = "") :=
  fun he => he.elim hn.ordinary.2.1 hn.ordinary.1

theorem descend_on (ha : t.node? a = some .directory) (hn : Named w part rest)
    (hl : rest = [] ∧ w.through = false ∨ ∀ target, t.node? (a ++ [part]) ≠ some (.link target)) :
    descend t w onLink a (part :: rest) = descend t w onLink (a ++ [part]) rest := by
  rw [descend, ha]
  dsimp only
  rw [if_neg hn.no_dot, if_neg hn.ordinary.2.2, if_neg hn.made, if_neg (Nat.not_lt.mpr hn.short)]
  split
  · rename_i target hlink
    rcases hl with ⟨rfl, hthrough⟩ | hl
    · rw [hthrough]
      rfl
    · exact absurd hlink (hl target)
  · rfl

theorem descend_link {target : String} (ha : t.node? a = some .directory) (hn : Named w part rest)
    (hl : t.node? (a ++ [part]) = some (.link target)) (hk : ¬ (rest = [] ∧ w.through = false)) :
    descend t w onLink a (part :: rest) =
      if !Path.isAbsoluteText target then onLink a (Path.lookupParts target ++ rest)
      else if w.confinedTo.isSome then .error OsError.otherDevice
      else onLink [] (Path.lookupParts target ++ rest) := by
  have hkeep : ¬ (rest.isEmpty && !w.through) = true := by
    rwa [Bool.and_eq_true, List.isEmpty_iff, Bool.not_eq_true']
  rw [descend, ha]
  dsimp only
  rw [if_neg hn.no_dot, if_neg hn.ordinary.2.2, if_neg hn.made,
    if_neg (Nat.not_lt.mpr hn.short), hl]
  dsimp only
  rw [if_neg hkeep]

/-- A walk arrives from a directory by what its first name leads to. -/
theorem descend_cons : descend t w onLink a (part :: rest) = .ok q ↔
    t.node? a = some .directory ∧
      ∃ nameStep, Leads t w a part rest nameStep ∧
        nameStep.Arrives (descend t w onLink) onLink rest q := by
  constructor
  · intro h
    rw [descend] at h
    split at h
    · cases h
    · rename_i ha
      refine ⟨ha, ?_⟩
      split at h <;> rename_i hdot
      · exact ⟨_, .stay hdot, h⟩
      split at h <;> rename_i hup
      · split at h <;> rename_i hconfined
        · cases h
        · exact ⟨_, .up hup hconfined, h⟩
      split at h <;> rename_i hmade
      · cases h
      split at h <;> rename_i hlong
      · cases h
      have hn : Named w part rest :=
        ⟨⟨fun he => hdot (Or.inr he), fun he => hdot (Or.inl he), hup⟩, Nat.not_lt.mp hlong, hmade⟩
      split at h
      · rename_i target hlink
        split at h <;> rename_i hkeep
        · rw [Bool.and_eq_true, List.isEmpty_iff, Bool.not_eq_true'] at hkeep
          refine ⟨_, .name hn (Or.inl hkeep), ?_⟩
          rw [hkeep.1]
          exact h
        have hk : ¬ (rest = [] ∧ w.through = false) := by
          rwa [Bool.and_eq_true, List.isEmpty_iff, Bool.not_eq_true'] at hkeep
        split at h <;> rename_i hpath
        · exact ⟨_, .relative target hn hlink hk (Bool.not_eq_true' _ |>.mp hpath), h⟩
        split at h <;> rename_i hconfined
        · cases h
        · exact ⟨_, .absolute target hn hlink hk (by simpa using hpath)
            (by simpa using hconfined), h⟩
      · rename_i hlink
        exact ⟨_, .name hn (Or.inr fun target he => hlink target he), h⟩
    · cases h
  · rintro ⟨ha, nameStep, hleads, h⟩
    cases hleads with
    | stay hdot =>
      rw [descend, ha]
      dsimp only
      rwa [if_pos hdot]
    | up hup hconfined =>
      subst hup
      rw [descend, ha]
      dsimp only
      rwa [if_neg (by decide), if_pos rfl, if_neg hconfined]
    | name hn hl =>
      rw [descend_on ha hn hl]
      exact h
    | relative target hn hlink hk hp =>
      rw [descend_link ha hn hlink hk, hp]
      exact h
    | absolute target hn hlink hk hp hconfined =>
      rw [descend_link ha hn hlink hk, hp, hconfined]
      exact h

theorem Passes.no_link (h : Passes t t') (hl : ∀ target, t.node? a ≠ some (.link target))
    (target : String) : t'.node? a ≠ some (.link target) := by
  rcases h a with he | ⟨-, hno⟩
  · rw [he]
    exact hl target
  · exact hno target

theorem Passes.link (h : Passes t t') {target : String} (hl : t.node? a = some (.link target)) :
    t'.node? a = some (.link target) := by
  rcases h a with he | ⟨hf, -⟩
  · rw [he, hl]
  · exact absurd hl (hf.no_link target)

theorem Leads.passes (hl : Leads t w a part rest nameStep) (h : Passes t t') :
    Leads t' w a part rest nameStep := by
  cases hl with
  | stay hdot => exact .stay hdot
  | up hup hconfined => exact .up hup hconfined
  | name hn hl => exact .name hn (hl.imp_right fun hl => h.no_link hl)
  | relative target hn hl hk hp => exact .relative target hn (h.link hl) hk hp
  | absolute target hn hl hk hp hf => exact .absolute target hn (h.link hl) hk hp hf

theorem descend_passes (h : Passes t t')
    (hl : ∀ a parts, onLink a parts = .ok q → onLink' a parts = .ok q) (parts : List String)
    (a : Place) (ha : descend t w onLink a parts = .ok q) :
    descend t' w onLink' a parts = .ok q := by
  induction parts generalizing a with
  | nil => exact ha
  | cons part rest ih =>
    obtain ⟨hdir, nameStep, hleads, harr⟩ := descend_cons.mp ha
    exact descend_cons.mpr ⟨h.directory hdir, nameStep, hleads.passes h, harr.imp ih hl⟩

theorem walk_passes (h : Passes t t') (w : Walk) (links : Nat) (parts : List String) (a : Place)
    (ha : walk t w links a parts = .ok q) : walk t' w links a parts = .ok q := by
  induction links generalizing a parts with
  | zero => exact descend_passes h (fun _ _ he => by cases he) parts a ha
  | succ links ih => exact descend_passes h (fun a parts => ih parts a) parts a ha

/-- The last name of a path, where it is not a link that is followed. -/
theorem descend_name (hn : Ordinary name)
    (hl : w.through = false ∨ ∀ target, t.node? (a ++ [name]) ≠ some (.link target)) :
    descend t w onLink a [name] = .ok q ↔
      t.node? a = some .directory ∧ name.utf8ByteSize ≤ longestName ∧ q = a ++ [name] := by
  rw [descend_cons]
  constructor
  · rintro ⟨ha, nameStep, hleads, harr⟩
    have hnever : ∀ {target : String}, t.node? (a ++ [name]) = some (.link target) →
        ¬ (([] : List String) = [] ∧ w.through = false) → False := fun hlink hk =>
      hl.elim (fun ht => hk ⟨rfl, ht⟩) fun hno => hno _ hlink
    cases hleads with
    | stay hdot => exact absurd hdot (fun he => he.elim hn.2.1 hn.1)
    | up hup => exact absurd hup hn.2.2
    | name hnamed _ => exact ⟨ha, hnamed.short, (Except.ok.inj harr).symm⟩
    | relative target _ hlink hk => exact (hnever hlink hk).elim
    | absolute target _ hlink hk => exact (hnever hlink hk).elim
  · rintro ⟨ha, hs, rfl⟩
    exact ⟨ha, _, .name ⟨hn, hs, by simp⟩ (hl.imp_left fun ht => ⟨rfl, ht⟩), rfl⟩

/-- What comes last does not change what the names before it lead to, as long as every link among
them is followed. -/
theorem Leads.last {tail : List String} (hl : Leads t w a part (rest ++ tail) nameStep)
    (ht : tail ≠ [] ∨ w.through = true) (h : Passes t t') (hf : w'.confinedTo = w.confinedTo)
    (hn' : Ordinary name') :
    (∃ b, nameStep = .on b ∧ Leads t' w' a part (rest ++ [name']) (.on b)) ∨
      ∃ b parts, nameStep = .link b (parts ++ tail) ∧
        Leads t' w' a part (rest ++ [name']) (.link b (parts ++ [name'])) := by
  have hnamed : Named w part (rest ++ tail) → Named w' part (rest ++ [name']) := fun hn =>
    ⟨hn.ordinary, hn.short, fun he => snoc_ne_slash hn' rest he.2⟩
  have hmore : ¬ (rest ++ [name'] = [] ∧ w'.through = false) := by simp
  cases hl with
  | stay hdot => exact Or.inl ⟨_, rfl, .stay hdot⟩
  | up hup hconfined => exact Or.inl ⟨_, rfl, .up hup (hf ▸ hconfined)⟩
  | name hn hno =>
    rcases hno with ⟨hnil, hend⟩ | hno
    · rcases ht with ht | ht
      · exact absurd (List.append_eq_nil_iff.mp hnil).2 ht
      · rw [ht] at hend
        cases hend
    · exact Or.inl ⟨_, rfl, .name (hnamed hn) (Or.inr (h.no_link hno))⟩
  | relative target hn hlink _ hp =>
    refine Or.inr ⟨a, Path.lookupParts target ++ rest, by rw [List.append_assoc], ?_⟩
    rw [List.append_assoc]
    exact .relative target (hnamed hn) (h.link hlink) hmore hp
  | absolute target hn hlink _ hp hconfined =>
    refine Or.inr ⟨[], Path.lookupParts target ++ rest, by rw [List.append_assoc], ?_⟩
    rw [List.append_assoc]
    exact .absolute target (hnamed hn) (h.link hlink) hmore hp (hf.trans hconfined)

/-- Up to the last names the two walks go side by side. -/
theorem descend_last (h : Passes t t') (hf : w'.confinedTo = w.confinedTo) (hn : Ordinary name)
    (hn' : Ordinary name') (hs : name'.utf8ByteSize ≤ name.utf8ByteSize)
    (hw : w.through = false ∨ ∀ d target, t.node? (d ++ [name]) ≠ some (.link target))
    (hw' : ∀ d, q = d ++ [name] →
      w'.through = false ∨ ∀ target, t'.node? (d ++ [name']) ≠ some (.link target))
    (hl : ∀ a parts, onLink a (parts ++ [name]) = .ok q →
      ∃ d, q = d ++ [name] ∧ onLink' a (parts ++ [name']) = .ok (d ++ [name']))
    (parts : List String) (a : Place) (ha : descend t w onLink a (parts ++ [name]) = .ok q) :
    ∃ d, q = d ++ [name] ∧ descend t' w' onLink' a (parts ++ [name']) = .ok (d ++ [name']) := by
  induction parts generalizing a with
  | nil =>
    rw [List.nil_append, descend_name hn (hw.imp_right fun hw => hw a)] at ha
    obtain ⟨hd, hsize, hq⟩ := ha
    refine ⟨a, hq, ?_⟩
    rw [List.nil_append, descend_name hn' (hw' a hq)]
    exact ⟨h.directory hd, Nat.le_trans hs hsize, rfl⟩
  | cons part rest ih =>
    -- A link that is followed is the business of `onLink`, with the last name still to come.
    obtain ⟨hdir, nameStep, hleads, harr⟩ := descend_cons.mp ha
    rcases hleads.last (Or.inl (List.cons_ne_nil _ _)) h hf hn' with
      ⟨b, rfl, hleads'⟩ | ⟨b, parts, rfl, hleads'⟩
    · obtain ⟨d, hq, hd⟩ := ih b harr
      exact ⟨d, hq, descend_cons.mpr ⟨h.directory hdir, _, hleads', hd⟩⟩
    · obtain ⟨d, hq, hd⟩ := hl b parts harr
      exact ⟨d, hq, descend_cons.mpr ⟨h.directory hdir, _, hleads', hd⟩⟩

theorem walk_last (w w' : Walk) (h : Passes t t') (hf : w'.confinedTo = w.confinedTo)
    (hn : Ordinary name)
    (hn' : Ordinary name') (hs : name'.utf8ByteSize ≤ name.utf8ByteSize)
    (hw : w.through = false ∨ ∀ d target, t.node? (d ++ [name]) ≠ some (.link target))
    (hw' : ∀ d, q = d ++ [name] →
      w'.through = false ∨ ∀ target, t'.node? (d ++ [name']) ≠ some (.link target))
    (links : Nat) (parts : List String) (a : Place)
    (ha : walk t w links a (parts ++ [name]) = .ok q) :
    ∃ d, q = d ++ [name] ∧ walk t' w' links a (parts ++ [name']) = .ok (d ++ [name']) := by
  induction links generalizing a parts with
  | zero =>
    exact descend_last h hf hn hn' hs hw hw' (fun _ _ he => by cases he) parts a ha
  | succ links ih =>
    exact descend_last h hf hn hn' hs hw hw' (fun a parts he => ih parts a he) parts a ha

/-- A walk through all links goes on to a name after the last one. -/
theorem descend_further (ht : w.through = true) (hf : w'.confinedTo = w.confinedTo)
    (hn : Ordinary name)
    (hend : descend t w' onLink' q [name] = .ok (q ++ [name]))
    (hl : ∀ a parts, onLink a parts = .ok q → onLink' a (parts ++ [name]) = .ok (q ++ [name]))
    (parts : List String) (a : Place) (ha : descend t w onLink a parts = .ok q) :
    descend t w' onLink' a (parts ++ [name]) = .ok (q ++ [name]) := by
  induction parts generalizing a with
  | nil =>
    cases ha
    exact hend
  | cons part rest ih =>
    obtain ⟨hdir, nameStep, hleads, harr⟩ := descend_cons.mp ha
    rw [← List.append_nil rest] at hleads
    rcases hleads.last (Or.inr ht) (.refl t) hf hn with ⟨b, rfl, hleads'⟩ | ⟨b, parts, rfl, hleads'⟩
    · exact descend_cons.mpr ⟨hdir, _, hleads', ih b harr⟩
    · rw [List.append_nil] at harr
      exact descend_cons.mpr ⟨hdir, _, hleads', hl b parts harr⟩

theorem walk_further (ht : w.through = true) (hf : w'.confinedTo = w.confinedTo)
    (hn : Ordinary name)
    (hs : name.utf8ByteSize ≤ longestName) (hd : t.node? q = some .directory)
    (hno : w'.through = false ∨ ∀ target, t.node? (q ++ [name]) ≠ some (.link target)) (links : Nat)
    (parts : List String) (a : Place) (ha : walk t w links a parts = .ok q) :
    walk t w' links a (parts ++ [name]) = .ok (q ++ [name]) := by
  have hend : ∀ onLink, descend t w' onLink q [name] = .ok (q ++ [name]) := fun onLink =>
    (descend_name hn hno).mpr ⟨hd, hs, rfl⟩
  induction links generalizing a parts with
  | zero => exact descend_further ht hf hn (hend _) (fun _ _ he => by cases he) parts a ha
  | succ links ih =>
    exact descend_further ht hf hn (hend _) (fun a parts he => ih parts a he) parts a ha

/-- What comes last does not matter to what the names before it lead to. -/
theorem Leads.before (hl : Leads t w a part (rest ++ [name]) nameStep) (ht : w.through = true)
    (hm : w.making = false) :
    (∃ b, nameStep = .on b ∧ Leads t w a part rest (.on b)) ∨
      ∃ b parts, nameStep = .link b (parts ++ [name]) ∧ Leads t w a part rest (.link b parts) := by
  have hnamed : Named w part (rest ++ [name]) → Named w part rest := fun hn =>
    ⟨hn.ordinary, hn.short, by simp [hm]⟩
  have hmore : ¬ (rest = [] ∧ w.through = false) := by simp [ht]
  cases hl with
  | stay hdot => exact Or.inl ⟨_, rfl, .stay hdot⟩
  | up hup hconfined => exact Or.inl ⟨_, rfl, .up hup hconfined⟩
  | name hn hno =>
    rcases hno with ⟨hnil, -⟩ | hno
    · simp at hnil
    · exact Or.inl ⟨_, rfl, .name (hnamed hn) (Or.inr hno)⟩
  | relative target hn hlink _ hp =>
    exact Or.inr ⟨a, Path.lookupParts target ++ rest, by rw [List.append_assoc],
      .relative target (hnamed hn) hlink hmore hp⟩
  | absolute target hn hlink _ hp hconfined =>
    exact Or.inr ⟨[], Path.lookupParts target ++ rest, by rw [List.append_assoc],
      .absolute target (hnamed hn) hlink hmore hp hconfined⟩

theorem descend_before (hn : Ordinary name) (ht : w.through = true) (hm : w.making = false)
    (hl : ∀ a parts, onLink a (parts ++ [name]) = .ok q → ∃ d, onLink a parts = .ok d ∧
      t.node? d = some .directory ∧
        (q = d ++ [name] ∨ ∃ target, t.node? (d ++ [name]) = some (.link target)))
    (parts : List String) (a : Place) (ha : descend t w onLink a (parts ++ [name]) = .ok q) :
    ∃ d, descend t w onLink a parts = .ok d ∧ t.node? d = some .directory ∧
      (q = d ++ [name] ∨ ∃ target, t.node? (d ++ [name]) = some (.link target)) := by
  induction parts generalizing a with
  | nil =>
    obtain ⟨hdir, nameStep, hleads, harr⟩ := descend_cons.mp ha
    refine ⟨a, rfl, hdir, ?_⟩
    cases hleads with
    | stay hdot => exact absurd hdot fun he => he.elim hn.2.1 hn.1
    | up hup => exact absurd hup hn.2.2
    | name => exact Or.inl (Except.ok.inj harr).symm
    | relative target _ hlink => exact Or.inr ⟨target, hlink⟩
    | absolute target _ hlink => exact Or.inr ⟨target, hlink⟩
  | cons part rest ih =>
    obtain ⟨hdir, nameStep, hleads, harr⟩ := descend_cons.mp ha
    rcases hleads.before ht hm with ⟨b, rfl, hleads'⟩ | ⟨b, parts, rfl, hleads'⟩
    · obtain ⟨d, hd, hentry⟩ := ih b harr
      exact ⟨d, descend_cons.mpr ⟨hdir, _, hleads', hd⟩, hentry⟩
    · obtain ⟨d, hd, hentry⟩ := hl b parts harr
      exact ⟨d, descend_cons.mpr ⟨hdir, _, hleads', hd⟩, hentry⟩

theorem walk_before (hn : Ordinary name) (ht : w.through = true) (hm : w.making = false)
    (links : Nat) (parts : List String) (a : Place)
    (ha : walk t w links a (parts ++ [name]) = .ok q) :
    ∃ d, walk t w links a parts = .ok d ∧ t.node? d = some .directory ∧
      (q = d ++ [name] ∨ ∃ target, t.node? (d ++ [name]) = some (.link target)) := by
  induction links generalizing a parts with
  | zero => exact descend_before hn ht hm (fun _ _ he => by cases he) parts a ha
  | succ links ih => exact descend_before hn ht hm (fun a parts => ih parts a) parts a ha

end Tree

end GuestRunner.Files
