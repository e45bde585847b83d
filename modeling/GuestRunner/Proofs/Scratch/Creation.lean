import GuestRunner.Proofs.Scratch.Untaken

/-!
# What an instance keeps

An instance that uses a directory of the caller keeps nothing in it between two runs. One with a
directory of its own keeps that directory, which was not there before, and nothing in it. Cleaning
up gives back the tree in which the instance was made.
-/

set_option autoImplicit false

namespace GuestRunner

open Files Files.Volume

namespace Files.Tree

def Connected (t : Tree) : Prop :=
  ∀ e ∈ t.entries, ∀ n < e.1.length, t.node? (e.1.take n) = some .directory

def Lacks (t : Tree) (text : String) : Prop :=
  ∀ e ∈ t.entries, ∀ name ∈ e.1, ¬ text.toList <:+: name.toList

variable {t : Tree} {q : Place} {n : Node}

theorem set_absent {es : List (Place × Node)} (h : ∀ e ∈ es, e.1 ≠ q) :
    set q n es = es ++ [(q, n)] := by
  induction es with
  | nil => rfl
  | cons e rest ih =>
    have hrest := ih fun e he => h e (List.mem_cons_of_mem _ he)
    rw [set, if_neg (h e List.mem_cons_self), hrest, List.cons_append]

theorem entries_put (h : t.node? q = none) (n : Node) :
    (t.put q n).entries = t.entries ++ [(q, n)] :=
  set_absent ((absent_iff (ne_nil_of_absent h)).mp h)

theorem Connected.absent (ht : t.Connected) (h : t.node? q = none) {e : Place × Node}
    (he : e ∈ t.entries) : ¬ q <+: e.1 := by
  intro hp
  have htake := List.prefix_iff_eq_take.mp hp
  by_cases hl : q.length < e.1.length
  · have hdir := ht e he q.length hl
    rw [← htake, h] at hdir
    cases hdir
  · have heq := hp.eq_of_length_le (Nat.not_lt.mp hl)
    exact (absent_iff (ne_nil_of_absent h)).mp h e he heq.symm

theorem Connected.prune_put (ht : t.Connected) (h : t.node? q = none) (n : Node) :
    (t.put q n).prune q = t := by
  have hkeep : t.entries.filter (fun e => !q.isPrefixOf e.1) = t.entries := by
    apply List.filter_eq_self.mpr
    intro e he
    have hno : q.isPrefixOf e.1 = false :=
      Bool.eq_false_iff.mpr fun hp => ht.absent h he (List.isPrefixOf_iff_prefix.mp hp)
    rw [hno]
    rfl
  have hdrop : [(q, n)].filter (fun e => !q.isPrefixOf e.1) = [] := by
    simp
  apply congrArg Tree.mk
  rw [entries_put h, List.filter_append, hkeep, hdrop, List.append_nil]

theorem Connected.names_put (ht : t.Connected) (h : t.node? q = none) (n : Node) :
    (t.put q n).names q = [] := by
  apply List.filterMap_eq_nil_iff.mpr
  intro e he
  apply if_neg
  rintro ⟨hne, hdir⟩
  rw [entries_put h] at he
  rcases List.mem_append.mp he with he | he
  · exact ht.absent h he (hdir ▸ List.dropLast_prefix e.1)
  · obtain rfl := List.mem_singleton.mp he
    have hlen := congrArg List.length hdir
    have hpos := List.length_pos_iff.mpr hne
    rw [List.length_dropLast] at hlen
    dsimp only at hlen hpos
    omega

end Files.Tree

namespace Scratch

variable {s : Scratch} {t : Tree} {v v' b : Volume} {given : Option String} {name : String}

theorem token_within (h : s.owns name = true) : s.token.toList <:+: name.toList := by
  obtain ⟨rest, hr⟩ := stem_of_owns h
  refine ⟨['t', 'm', 'p', '-'], '-' :: rest, ?_⟩
  rw [← hr, toList_fileStem]
  simp

theorem unnamed_of_lacks (ht : t.Lacks s.token) (h : s.owns name = true) : t.Unnamed name := by
  intro e he hl
  exact ht e he name (List.mem_of_getLast? hl) (token_within h)

def Appears (t : Tree) (p : Path) (t' : Tree) : Prop :=
  ∃ dir name q, p.parts = dir ++ [name] ∧ Ordinary name ∧ name.toList.head? = some 'w' ∧
    t.locate false [] p.parts = .ok q ∧ t.node? q = none ∧ t' = t.put q .directory

structure Made (v : Volume) (s : Scratch) (v' : Volume) : Prop where
  token : s.token = v.drawToken.1
  rooted : s.path.isAbsolute = true
  quiet : v'.schedule = .quiet
  given : s.owned = false → v'.tree = v.tree
  owned : s.owned = true → Appears v.tree s.path v'.tree

theorem tryNames_made {tries : Nat} {p : Path}
    (h : tryNames directoryStem tries v = (.ok p, v')) :
    p.isAbsolute = true ∧ v'.schedule = v.schedule ∧ v'.tokensDrawn = v.tokensDrawn ∧
      Appears v.tree p v'.tree := by
  induction tries generalizing v with
  | zero => cases h
  | succ tries ih =>
    simp only [tryNames] at h
    split at h
    · rename_i tree hm
      cases h
      simp only [Tree.makeDirectory, bind, Except.bind] at hm
      split at hm
      · cases hm
      · rename_i q hq
        split at hm
        · cases hm
        · rename_i hn
          cases hm
          refine ⟨rfl, rfl, rfl, _, _, q, rfl, ?_, ?_, hq, hn, rfl⟩
          · refine ⟨?_, ?_, ?_⟩ <;> intro he <;>
              simpa [directoryStem, String.toList_append] using congrArg String.toList he
          · simp [directoryStem, String.toList_append]
    · split at h
      · have hrest := ih h
        exact hrest
      · cases h

theorem tryNames_failed {tries : Nat} {e : OsError}
    (h : tryNames directoryStem tries v = (.error e, v')) : v'.tree = v.tree := by
  induction tries generalizing v with
  | zero =>
    cases h
    rfl
  | succ tries ih =>
    simp only [tryNames] at h
    split at h
    · cases h
    · split at h
      · have hrest := ih h
        exact hrest
      · cases h
        rfl

theorem makeTemporary_made {p : Path} (h : v.makeTemporary directoryStem = (.ok p, v')) :
    p.isAbsolute = true ∧ Appears v.tree p v'.tree := by
  unfold makeTemporary guarded at h
  split at h
  · cases h
  · obtain ⟨hp, -, -, ha⟩ := tryNames_made h
    exact ⟨hp, ha⟩

theorem makeTemporary_failed {e : OsError} (h : v.makeTemporary directoryStem = (.error e, v')) :
    v'.tree = v.tree := by
  unfold makeTemporary guarded at h
  split at h
  · cases h
    rfl
  · rename_i schedule _
    exact tryNames_failed (v := { v with schedule }) h

theorem resolve_rooted (v : Volume) (p : Path) : (v.resolve p).isAbsolute = true := by
  simp only [resolve, Path.normal, Path.under]
  split
  · assumption
  · rfl

/-- A directory is owned unless the caller names one. Where none can be had, nothing is made. -/
theorem create_made {made : Except Problem Scratch} (hq : v.schedule = .quiet)
    (h : create given v = (made, v')) :
    (∀ s, made = .ok s → s.owned = (given.filter (· ≠ "")).isNone ∧ Made v s v') ∧
      ∀ problem, made = .error problem → v'.tree = v.tree := by
  simp only [create, place] at h
  cases hg : given.filter (· ≠ "") with
  | none =>
    rw [hg] at h
    simp only [makeTemporary, guarded_quiet hq] at h
    cases ht : tryNames directoryStem (v.tree.entries.length + 1) v with
    | mk found w =>
      rw [ht] at h
      cases found with
      | error e =>
        cases h
        exact ⟨by simp, fun _ _ => tryNames_failed ht⟩
      | ok path =>
        obtain ⟨hp, hsched, htok, hdir⟩ := tryNames_made ht
        cases h
        constructor
        · rintro s ⟨⟩
          refine ⟨rfl, ?_, hp, hsched.trans hq, by simp, fun _ => hdir⟩
          simp only [drawToken, htok]
        · simp
  | some text =>
    rw [hg] at h
    dsimp only at h
    by_cases hz : text.toList.contains (Char.ofNat 0) = true
    · rw [if_pos hz] at h
      cases h
      exact ⟨by simp, fun _ _ => rfl⟩
    rw [if_neg hz] at h
    by_cases hl : v.loops (v.resolve (Path.ofText text)) = true
    · rw [if_pos hl] at h
      cases h
      exact ⟨by simp, fun _ _ => rfl⟩
    · rw [if_neg hl] at h
      cases h
      constructor
      · rintro s ⟨⟩
        exact ⟨rfl, rfl, resolve_rooted v _, hq, fun _ => rfl, by simp⟩
      · simp

/-- Where no directory can be had, nothing is made, whatever fails on the way. -/
theorem create_untouched {problem : Problem} (h : create given v = (.error problem, v')) :
    v'.tree = v.tree := by
  simp only [create, place] at h
  cases hg : given.filter (· ≠ "") with
  | none =>
    cases ht : v.makeTemporary directoryStem with
    | mk found w =>
      rw [hg, ht] at h
      cases found with
      | ok path => cases h
      | error e =>
        cases h
        exact makeTemporary_failed ht
  | some text =>
    rw [hg] at h
    dsimp only at h
    by_cases hz : text.toList.contains (Char.ofNat 0) = true
    · rw [if_pos hz] at h
      cases h
      rfl
    · rw [if_neg hz] at h
      by_cases hl : v.loops (v.resolve (Path.ofText text)) = true
      · rw [if_pos hl] at h
        cases h
        rfl
      · rw [if_neg hl] at h
        cases h

theorem create_new (hg : given.filter (· ≠ "") = none) (h : create given v = (.ok s, v')) :
    s.owned = true ∧ s.path.isAbsolute = true ∧ Appears v.tree s.path v'.tree := by
  simp only [create, place] at h
  cases ht : v.makeTemporary directoryStem with
  | mk found w =>
    rw [hg, ht] at h
    cases found with
    | error e => cases h
    | ok path =>
      cases h
      obtain ⟨hp, ha⟩ := makeTemporary_made ht
      exact ⟨rfl, hp, ha⟩

theorem create_rooted (h : create given v = (.ok s, v')) : s.path.isAbsolute = true := by
  cases hg : given.filter (· ≠ "") with
  | none => exact (create_new hg h).2.1
  | some text =>
    simp only [create, place, hg] at h
    by_cases hz : text.toList.contains (Char.ofNat 0) = true
    · rw [if_pos hz] at h
      cases h
    · rw [if_neg hz] at h
      by_cases hl : v.loops (v.resolve (Path.ofText text)) = true
      · rw [if_pos hl] at h
        cases h
      · rw [if_neg hl] at h
        cases h
        exact resolve_rooted v _

structure Returns (s : Scratch) (b after : Volume) : Prop where
  owned : s.owned = true →
    b.examine s.path = (.ok true, b) ∧ b.removeAll s.path = (.ok (), after)
  given : s.owned = false → s.files b = ([], b) ∧ after = b

/-- There are no files of an instance where its token is in no name. -/
theorem files_none (hq : b.schedule = .quiet) (ht : b.tree.Lacks s.token) :
    s.files b = ([], b) := by
  have hnone : (b.namesIn s.path).filter s.owns = [] := by
    apply List.filter_eq_nil_iff.mpr
    intro name hn ho
    simp only [namesIn] at hn
    split at hn
    · cases hn
    · split at hn
      · obtain ⟨e, he, hname⟩ := List.mem_filterMap.mp hn
        split at hname
        · exact unnamed_of_lacks ht ho e he hname
        · cases hname
      · cases hn
  simp only [files, Volume.list, guarded_quiet hq, hnone, List.map_nil]

/-- A directory that has appeared is where its path leads, and where it led before to nothing. -/
theorem Appears.located {p : Path} {t' : Tree} (h : Appears t p t') :
    ∃ q, (∀ through, t'.locate through [] p.parts = .ok q) ∧
      (∀ through, t.locate through [] p.parts = .ok q) ∧ t.node? q = none ∧
      t' = t.put q .directory := by
  obtain ⟨dir, name, q, hparts, hn, -, hl, hq, rfl⟩ := h
  rw [hparts] at hl ⊢
  -- No walk ends at a link: there was nothing at the place, and now there is a directory.
  have hwalk : ∀ (t' : Tree) (through : Bool), Tree.Passes t t' →
      (∀ target, t'.node? q ≠ some (.link target)) →
      t'.locate through [] (dir ++ [name]) = .ok q := by
    intro t' through hp hlink
    obtain ⟨d, rfl, hd⟩ := Tree.walk_last ⟨none, false, false⟩ ⟨none, through, false⟩ hp rfl hn hn
      (Nat.le_refl _) (Or.inl rfl) (fun d he => Or.inr fun target => by
        rw [← he]
        exact hlink target) _ dir [] hl
    exact hd
  refine ⟨q, fun through => hwalk _ through (Tree.passes_put_directory hq) ?_,
    fun through => hwalk _ through (.refl t) ?_, hq, rfl⟩
  · intro target
    rw [Tree.node_put _ (Tree.ne_nil_of_absent hq), if_pos rfl]
    simp
  · intro target
    rw [hq]
    simp

theorem Appears.exists? {p : Path} (h : Appears v.tree p v'.tree) (hp : p.isAbsolute = true) :
    v.exists? p = false ∧ v'.exists? p = true := by
  obtain ⟨q, hafter, hbefore, hq, hv⟩ := h.located
  have hdir : v'.tree.node? q = some .directory := by
    rw [hv, Tree.node_put _ (Tree.ne_nil_of_absent hq), if_pos rfl]
  constructor
  · simp only [Volume.exists?, start_rooted _ hp, Tree.exists?, hbefore, hq, Option.isSome_none]
  · simp only [Volume.exists?, start_rooted _ hp, Tree.exists?, hafter, hdir, Option.isSome_some]

theorem Made.removes (h : Made v s v') (hc : v.tree.Connected) (ho : s.owned = true) :
    v'.examine s.path = (.ok true, v') ∧
      v'.removeAll s.path = (.ok (), { v' with tree := v.tree }) := by
  constructor
  · rw [examine, guarded_quiet h.quiet, ((h.owned ho).exists? h.rooted).2]
  · obtain ⟨q, hl, -, hq, hv⟩ := (h.owned ho).located
    have hdir : v'.tree.node? q = some .directory := by
      rw [hv, Tree.node_put _ (Tree.ne_nil_of_absent hq), if_pos rfl]
    rw [removeAll, guarded_quiet h.quiet]
    simp only [start_rooted _ h.rooted, Tree.removeAll, hl, hdir]
    rw [hv, hc.prune_put hq]

/-- What an instance keeps is in the way of no run, and cleaning up gives back the rest. -/
theorem Made.keeps (h : Made v s v') (hc : v.tree.Connected) (ht : v.tree.Lacks s.token)
    (hi : IsToken s.token) :
    (∀ tree, tree = v.tree ∨ tree = v'.tree → s.Untaken 0 tree) ∧
      s.Returns v' { v' with tree := v.tree } := by
  have hnames : ∀ slot id stream, v.tree.Unnamed (s.slotName id slot stream) :=
    fun slot id stream => unnamed_of_lacks ht (owns_slotName s id slot stream)
  constructor
  · rintro tree (rfl | rfl)
    · exact ⟨hi, h.rooted, fun slot _ id stream => hnames slot id stream⟩
    · refine ⟨hi, h.rooted, fun slot _ id stream => ?_⟩
      cases ho : s.owned with
      | false => exact h.given ho ▸ hnames slot id stream
      | true =>
        obtain ⟨dir, name, q, hparts, hn, hw, hl, hq, hv⟩ := h.owned ho
        intro e he hlast
        rw [hv, Tree.entries_put hq] at he
        rcases List.mem_append.mp he with he | he
        · exact hnames slot id stream e he hlast
        · obtain rfl := List.mem_singleton.mp he
          -- The names of stream files and of owned directories begin differently.
          rw [hparts] at hl
          obtain ⟨d, rfl, -⟩ := Tree.walk_last ⟨none, false, false⟩
            ⟨none, false, false⟩ (.refl v.tree) rfl hn hn (Nat.le_refl _) (Or.inl rfl)
            (fun _ _ => Or.inl rfl) _ dir [] hl
          have hname : name = s.slotName id slot stream := by simpa using hlast
          have hhead : name.toList.head? = some 't' := by
            rw [hname, slotName, toList_streamName, toList_fileStem]
            rfl
          rw [hw] at hhead
          cases hhead
  · constructor
    · exact h.removes hc
    · intro ho
      have hv := h.given ho
      refine ⟨files_none h.quiet (hv ▸ ht), ?_⟩
      rw [← hv]

end Scratch

end GuestRunner
