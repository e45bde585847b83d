import GuestRunner.Proofs.Files.Removal
import GuestRunner.Proofs.Scratch.Untaken
import GuestRunner.Scratch.Cleanup

/-!
# Cleaning up a directory of the caller

In a directory that is not owned a cleanup asks for one file after another, in the order of the
listing, until one cannot be removed. What is left to ask for shows what it has done at any step:
everything else that has a name of the instance is gone, or was said to be missing. So it does not
matter where a cleanup stopped when the next one begins.
-/

set_option autoImplicit false

namespace GuestRunner

open Files Files.Volume

/-! ### The names of the instance -/

/-- What follows the last dot of a name is at its end. -/
theorem Path.suffix_ends {name : String} (h : suffix name ≠ "") :
    ∃ front, name.toList = front ++ (suffix name).toList := by
  let before := name.toList.reverse.dropWhile (· ≠ '.')
  have hsplit : name.toList = before.reverse ++
    (name.toList.reverse.takeWhile (· ≠ '.')).reverse := by
    rw [← List.reverse_append, List.takeWhile_append_dropWhile, List.reverse_reverse]
  unfold suffix at h ⊢
  dsimp only at h ⊢
  generalize (name.toList.reverse.takeWhile (· ≠ '.')).reverse = tail at *
  by_cases hno : tail.length = name.toList.length ∨ tail.length + 1 = name.toList.length ∨
      tail.isEmpty = true
  · rw [if_pos hno] at h
    exact absurd rfl h
  · have hne : before ≠ [] := by
      intro he
      rw [he] at hsplit
      exact hno (Or.inl (congrArg List.length hsplit).symm)
    have hdot : before.head hne = '.' :=
      Decidable.not_not.mp (of_decide_eq_false
        (List.head_dropWhile_not (fun c => decide (c ≠ '.')) hne))
    refine ⟨before.tail.reverse, ?_⟩
    rw [if_neg hno, String.toList_ofList, hsplit, ← List.cons_head_tail hne, hdot]
    simp

namespace Scratch

variable {s : Scratch}

/-- The names of the instance are those of its stream files, for any run. -/
theorem owns_iff {name : String} :
    s.owns name = true ↔ ∃ label stream, name = s.streamName label stream := by
  constructor
  · intro h
    obtain ⟨rest, hrest⟩ := stem_of_owns h
    obtain ⟨stream, hsuffix⟩ : ∃ stream : Stream, Path.suffix name = stream.suffix := by
      rw [owns, Bool.and_eq_true] at h
      have hmem : Path.suffix name = ".stdout" ∨ Path.suffix name = ".stderr" := by
        simpa [suffixes, Stream.suffix] using h.2
      rcases hmem with he | he
      · exact ⟨.stdout, he⟩
      · exact ⟨.stderr, he⟩
    have hne : stream.suffix ≠ "" ∧ '-' ∉ stream.suffix.toList := by cases stream <;> decide
    obtain ⟨front, hfront⟩ := Path.suffix_ends (hsuffix ▸ hne.1)
    rw [hsuffix] at hfront
    -- The stem ends with a dash, and no suffix has one, so the two do not overlap.
    have hlabel : ∃ label, rest = label ++ stream.suffix.toList := by
      rcases List.append_eq_append_iff.mp (hrest.trans hfront) with
        ⟨label, -, hl⟩ | ⟨common, hc, hs⟩
      · exact ⟨label, hl⟩
      · rcases List.eq_nil_or_concat common with rfl | ⟨init, last, rfl⟩
        · exact ⟨[], by simpa using hs.symm⟩
        · rw [toList_fileStem, ← List.append_assoc, List.concat_eq_append, ← List.append_assoc]
            at hc
          have hlast : last = '-' := by simpa using (List.append_inj' hc rfl).2.symm
          exact absurd (by rw [hs, hlast]; simp) hne.2
    obtain ⟨label, rfl⟩ := hlabel
    refine ⟨String.ofList label, stream, String.toList_inj.mp ?_⟩
    rw [toList_streamName, String.toList_ofList, hrest]
  · rintro ⟨label, stream, rfl⟩
    exact owns_streamName s label stream

end Scratch

/-! ### To the end of a cleanup -/

namespace Cleanup

variable {s : Scratch} {c : Cleanup} {v w : Volume}

theorem steps_succ (s : Scratch) (n : Nat) (state : Cleanup × Volume) :
    steps s (n + 1) state = step s (steps s n state).1 (steps s n state).2 := rfl

theorem steps_add (s : Scratch) (m n : Nat) (state : Cleanup × Volume) :
    steps s (m + n) state = steps s n (steps s m state) := by
  induction n with
  | zero => rfl
  | succ n ih => rw [← Nat.add_assoc, steps_succ, ih, steps_succ]

theorem steps_finished (s : Scratch) (n : Nat) (result : Except Problem (Option String))
    (v : Volume) : steps s n (.finished result, v) = (.finished result, v) := by
  induction n with
  | zero => rfl
  | succ n ih => rw [steps_succ, ih, step_finished]

/-- Each step takes one file, and one more ends the cleanup. -/
theorem removing_ends (s : Scratch) (files : List Path) (removed : Bool) (v : Volume) :
    ∃ result w, steps s (files.length + 1) (.removeFiles files removed, v) =
      (.finished result, w) := by
  induction files generalizing removed v with
  | nil => exact ⟨_, _, rfl⟩
  | cons file rest ih =>
    have hfirst : steps s ((file :: rest).length + 1) (.removeFiles (file :: rest) removed, v) =
        steps s (rest.length + 1) (step s (.removeFiles (file :: rest) removed) v) := by
      rw [List.length_cons, Nat.add_comm, steps_add]
      rfl
    rw [hfirst]
    simp only [step]
    split
    · exact ih true _
    · split
      · exact ih removed _
      · exact ⟨_, _, steps_finished s _ _ _⟩

/-- All the steps in a row come to the end. -/
theorem run_ends (s : Scratch) (v : Volume) : ∃ n result w,
    steps s n (start s, v) = (.finished result, w) ∧ s.cleanup v = (result, w) := by
  have hend : ∃ result w, run s (start s) v = (.finished result, w) := by
    unfold run start
    cases s.owned with
    | true =>
      rw [if_pos rfl]
      simp only [step]
      split
      · split
        · simp only [left, steps, Nat.repeat, step]
          split <;> exact ⟨_, _, rfl⟩
        · exact ⟨_, _, rfl⟩
      · exact ⟨_, _, rfl⟩
    | false =>
      simp only [Bool.false_eq_true, if_false, step]
      exact removing_ends s _ false _
  obtain ⟨result, w, hr⟩ := hend
  refine ⟨1 + (step s (start s) v).1.left, result, w, ?_, ?_⟩
  · rw [← hr, steps_add]
    rfl
  · rw [Scratch.cleanup, hr]
    rfl

theorem cleanup_of_steps {n : Nat} {result : Except Problem (Option String)}
    (h : steps s n (start s, v) = (.finished result, w)) : s.cleanup v = (result, w) := by
  obtain ⟨m, result', w', hm, hc⟩ := run_ends s v
  rw [hc]
  have hn := steps_add s n m (start s, v)
  have hm' := steps_add s m n (start s, v)
  rw [h, steps_finished] at hn
  rw [hm, steps_finished, Nat.add_comm, hn] at hm'
  cases hm'
  rfl

end Cleanup

/-! ### What a cleanup has done so far -/

namespace Scratch

variable {s : Scratch} {v w z : Volume} {dir : Place} {file : Path}

def Asks (s : Scratch) (v : Volume) (file : Path) (answer : Except OsError Unit) : Prop :=
  ∃ n rest removed w, Cleanup.steps s n (.start s, v) = (.removeFiles (file :: rest) removed, w) ∧
    (w.unlink file).1 = answer

def RemovalsWork (s : Scratch) (v : Volume) : Prop :=
  ∀ file answer, s.Asks v file answer → answer = .ok ()

structure Listable (s : Scratch) (v : Volume) (dir : Place) : Prop where
  leads : v.place? s.path = some dir
  directory : v.tree.node? dir = some .directory
  faultless : v.Faultless .list 1

/-- Nothing has changed but that entries with names of the instance are gone, none of them a
directory. -/
structure CleanedUp (s : Scratch) (dir : Place) (v w : Volume) : Prop where
  home : w.home = v.home
  shed : ∀ q, w.tree.node? q = v.tree.node? q ∨
    w.tree.node? q = none ∧ v.tree.node? q ≠ some .directory ∧
      ∃ name, s.owns name = true ∧ q = dir ++ [name]

/-- Where a cleanup stands that began with a volume. An entry with a name of the instance that is
still there is left to be asked for, or was said to be missing. -/
inductive CleaningUp (s : Scratch) (dir : Place) (v : Volume) : Cleanup → Volume → Prop
  | listing : CleaningUp s dir v .list v
  | removing {left : List Path} {removed : Bool} {w : Volume} (h : s.CleanedUp dir v w)
    (hl : ∀ file ∈ left, ∃ name, s.owns name = true ∧ file = s.path.child name)
    (hr : removed = true ↔ ∃ q, w.tree.node? q ≠ v.tree.node? q)
    (hm : ∀ name, s.owns name = true → w.tree.node? (dir ++ [name]) ≠ none →
      s.path.child name ∈ left ∨
        ∃ e, s.Asks v (s.path.child name) (.error e) ∧ e.isMissing = true) :
    CleaningUp s dir v (.removeFiles left removed) w
  | cleanedUp {removed : Bool} {w : Volume} (h : CleaningUp s dir v (.removeFiles [] removed) w) :
    CleaningUp s dir v (.finished (.ok (Cleanup.ending s removed))) w
  | stuck {file : Path} {e : OsError} {w : Volume} (h : s.CleanedUp dir v w)
    (ha : s.Asks v file (.error e)) (hm : e.isMissing = false) :
    CleaningUp s dir v (.finished (.error (.failure (.scratch (.removeFile file.text e))))) w

theorem CleanedUp.within (h : s.CleanedUp dir v w) : w.tree.Within v.tree := fun q =>
  (h.shed q).imp_right And.left

theorem Listable.located (h : s.Listable v dir) :
    v.tree.locate true (v.start s.path) s.path.parts = .ok dir := by
  have hl := h.leads
  unfold place? at hl
  cases hp : v.tree.locate true (v.start s.path) s.path.parts with
  | error code =>
    rw [hp] at hl
    cases hl
  | ok place =>
    rw [hp] at hl
    cases hl
    rfl

theorem Listable.sameTree (h : s.Listable v dir) (ht : v.SameTree w) (hs : w.Faultless .list 1) :
    s.Listable w dir where
  leads := by
    have hp := h.located
    rw [← ht.start] at hp
    have hw := Tree.walk_within (fun q => Or.inl (ht.2 q).symm) _
      (Or.inr (by simp [h.directory])) _ _ _ hp
    rw [place?, Tree.locate, hw]
    rfl
  directory := (ht.2 dir).trans h.directory
  faultless := hs

theorem Listable.namesIn (h : s.Listable v dir) : v.namesIn s.path = v.tree.names dir := by
  simp [Volume.namesIn, h.located, Tree.isDirectory, h.directory]

/-- What a removal of an own name comes to: nothing is done, or the entry with this name is gone. -/
theorem CleanedUp.unlink {name : String} {answer : Except OsError Unit} {w' : Volume}
    (h : s.CleanedUp dir v w) (hl : s.Listable v dir) (hn : s.owns name = true)
    (hu : w.unlink (s.path.child name) = (answer, w')) :
    w'.home = v.home ∧ ((∃ e, answer = .error e ∧ w'.tree = w.tree) ∨
      answer = .ok () ∧ w.tree.node? (dir ++ [name]) ≠ none ∧
        v.tree.node? (dir ++ [name]) ≠ some .directory ∧
        ∀ q, w'.tree.node? q = if q = dir ++ [name] then none else w.tree.node? q) := by
  obtain ⟨hhome, he | ⟨ho, q, n, hq, hnode, hd, ht⟩⟩ := unlink_cases hu
  · exact ⟨hhome.trans h.home, Or.inl he⟩
  · have hstart : w.start (s.path.child name) = v.start s.path := by
      unfold Volume.start
      rw [h.home]
      rfl
    rw [hstart] at hq
    obtain rfl := Tree.locate_name h.within (ordinary_of_owns hn) hl.directory hl.located hq
    refine ⟨hhome.trans h.home, Or.inr ⟨ho, by simp [hnode], ?_, fun q => ?_⟩⟩
    · rw [h.within.node hnode]
      simpa using hd
    · rw [ht, Tree.node_erase _ (by simp)]

theorem child_inj {path : Path} {name name' : String} (h : path.child name = path.child name') :
    name = name' := by
  simpa [Path.child] using h

theorem files_faultless (s : Scratch) (h : v.Faultless .list 1) : s.files v =
    (((v.namesIn s.path).filter s.owns).map s.path.child, v.after .list) := by
  simp only [files, Volume.list, guarded_faultless h]
  rfl

theorem files_fails (s : Scratch) {e : OsError} (h : v.Fails .list e) :
    s.files v = ([], v.after .list) := by
  simp only [files, Volume.list, guarded_fails h]

theorem CleaningUp.listed (s : Scratch) (dir : Place) (v : Volume) : s.CleaningUp dir v
    (.removeFiles (((v.tree.names dir).filter s.owns).map s.path.child) false) (v.after .list) := by
  refine .removing ⟨rfl, fun _ => Or.inl rfl⟩ (fun file hf => ?_)
    (iff_of_false nofun fun ⟨q, hq⟩ => hq rfl) fun name hname hnode => ?_
  · simp only [List.mem_map, List.mem_filter] at hf
    obtain ⟨name, ⟨-, hname⟩, rfl⟩ := hf
    exact ⟨name, hname, rfl⟩
  · refine Or.inl (List.mem_map.mpr ⟨name, List.mem_filter.mpr ⟨?_, hname⟩, rfl⟩)
    exact Tree.mem_names.mpr hnode

section

variable {name : String} {rest : List Path} {removed : Bool} {w' : Volume}

/-- What was said to be missing is passed over. -/
theorem CleaningUp.missed {e : OsError}
    (h : s.CleaningUp dir v (.removeFiles (s.path.child name :: rest) removed) w)
    (hs : s.CleanedUp dir v w') (ht : w'.tree = w.tree)
    (ha : s.Asks v (s.path.child name) (.error e))
    (he : e.isMissing = true) : s.CleaningUp dir v (.removeFiles rest removed) w' := by
  cases h with
  | removing _ hleft hr hm =>
    refine .removing hs (fun file hf => hleft file (List.mem_cons_of_mem _ hf))
      (by rw [ht]; exact hr) fun other hother hnode => ?_
    rw [ht] at hnode
    rcases hm other hother hnode with hmem | hmiss
    · rcases List.mem_cons.mp hmem with hc | hmem
      · exact Or.inr ⟨e, hc ▸ ha, he⟩
      · exact Or.inl hmem
    · exact Or.inr hmiss

/-- What has been removed is gone, and so something has changed. -/
theorem CleaningUp.gone
    (h : s.CleaningUp dir v (.removeFiles (s.path.child name :: rest) removed) w)
    (hhome : w'.home = v.home) (hname : s.owns name = true)
    (hthere : w.tree.node? (dir ++ [name]) ≠ none)
    (hfile : v.tree.node? (dir ++ [name]) ≠ some .directory)
    (hnode : ∀ q, w'.tree.node? q = if q = dir ++ [name] then none else w.tree.node? q) :
    s.CleaningUp dir v (.removeFiles rest true) w' := by
  have hgone : w'.tree.node? (dir ++ [name]) = none := by rw [hnode, if_pos rfl]
  cases h with
  | removing hs hleft _ hm =>
    refine .removing ⟨hhome, fun q => ?_⟩ (fun file hf => hleft file (List.mem_cons_of_mem _ hf)) ?_
      fun other hother hleft => ?_
    · by_cases hq : q = dir ++ [name]
      · subst hq
        exact Or.inr ⟨hgone, hfile, name, hname, rfl⟩
      · rw [hnode, if_neg hq]
        exact hs.shed q
    · refine iff_of_true rfl ⟨dir ++ [name], ?_⟩
      rw [hgone]
      intro he
      rcases hs.within (dir ++ [name]) with hw | hw
      · exact hthere (hw.trans he.symm)
      · exact hthere hw
    · by_cases he : other = name
      · rw [he] at hleft
        exact absurd hgone hleft
      · rw [hnode, if_neg (by simpa using he)] at hleft
        rcases hm other hother hleft with hmem | hmiss
        · refine Or.inl ((List.mem_cons.mp hmem).resolve_left fun hc => ?_)
          exact he (child_inj hc)
        · exact Or.inr hmiss

end

theorem cleaningUp_step {c : Cleanup} (hl : s.Listable v dir) {n : Nat}
    (hn : Cleanup.steps s n (.start s, v) = (c, w)) (h : s.CleaningUp dir v c w) :
    s.CleaningUp dir v (c.step s w).1 (c.step s w).2 := by
  cases h with
  | listing =>
    simp only [Cleanup.step, files_faultless s hl.faultless, hl.namesIn]
    exact .listed s dir v
  | cleanedUp h => exact .cleanedUp h
  | stuck h ha hm => exact .stuck h ha hm
  | @removing left removed _ h hleft hr hm =>
    cases left with
    | nil => exact .cleanedUp (.removing h hleft hr hm)
    | cons file rest =>
      obtain ⟨name, hname, rfl⟩ := hleft file List.mem_cons_self
      have hnow := CleaningUp.removing h hleft hr hm
      obtain ⟨⟨answer, w'⟩, hu⟩ : ∃ r, w.unlink (s.path.child name) = r := ⟨_, rfl⟩
      have hasks : s.Asks v (s.path.child name) answer :=
        ⟨n, rest, removed, w, hn, congrArg Prod.fst hu⟩
      obtain ⟨hhome, ⟨e, rfl, ht⟩ | ⟨rfl, hthere, hfile, hnode⟩⟩ := h.unlink hl hname hu
      · have hs : s.CleanedUp dir v w' := ⟨hhome, by rw [ht]; exact h.shed⟩
        simp only [Cleanup.step, hu]
        split <;> rename_i hmissing
        · exact hnow.missed hs ht hasks hmissing
        · exact .stuck hs hasks (by simpa using hmissing)
      · simp only [Cleanup.step, hu]
        exact hnow.gone hhome hname hthere hfile hnode

theorem cleaningUp_steps (ho : s.owned = false) (hl : s.Listable v dir) (n : Nat) :
    s.CleaningUp dir v (Cleanup.steps s n (.start s, v)).1 (Cleanup.steps s n (.start s, v)).2 := by
  induction n with
  | zero =>
    have hstart : Cleanup.start s = .list := by simp [Cleanup.start, ho]
    show s.CleaningUp dir v (Cleanup.start s) v
    rw [hstart]
    exact .listing
  | succ n ih => exact cleaningUp_step hl rfl ih

theorem cleanup_cleaningUp (ho : s.owned = false) (hl : s.Listable v dir) :
    s.CleaningUp dir v (.finished (s.cleanup v).1) (s.cleanup v).2 := by
  obtain ⟨n, result, w, hn, hc⟩ := Cleanup.run_ends s v
  have h := cleaningUp_steps ho hl n
  rw [hn] at h
  rw [hc]
  exact h

theorem cleanup_cleanedUp (ho : s.owned = false) (hl : s.Listable v dir) :
    s.CleanedUp dir v (s.cleanup v).2 := by
  have h := cleanup_cleaningUp ho hl
  revert h
  generalize (s.cleanup v).1 = result
  intro h
  cases h with
  | cleanedUp h =>
    cases h with
    | removing h => exact h
  | stuck h => exact h

/-- The answer names the directory if anything is gone, and whatever is left was said to be
missing. -/
theorem cleanup_ok {answer : Option String} (ho : s.owned = false) (hl : s.Listable v dir)
    (h : (s.cleanup v).1 = .ok answer) :
    (∃ removed, answer = Cleanup.ending s removed ∧
      (removed = true ↔ ∃ q, (s.cleanup v).2.tree.node? q ≠ v.tree.node? q)) ∧
    ∀ name, s.owns name = true → (s.cleanup v).2.tree.node? (dir ++ [name]) ≠ none →
      ∃ e, s.Asks v (s.path.child name) (.error e) ∧ e.isMissing = true := by
  have hs := cleanup_cleaningUp ho hl
  rw [h] at hs
  cases hs with
  | @cleanedUp removed _ hs =>
    cases hs with
    | removing _ _ hr hm =>
      exact ⟨⟨removed, rfl, hr⟩, fun name hname hnode =>
        (hm name hname hnode).resolve_left List.not_mem_nil⟩

theorem cleanup_error (ho : s.owned = false) (hl : s.Listable v dir) {problem : Problem}
    (h : (s.cleanup v).1 = .error problem) :
    ∃ file e, s.Asks v file (.error e) ∧ e.isMissing = false ∧
      problem = .failure (.scratch (.removeFile file.text e)) := by
  have hs := cleanup_cleaningUp ho hl
  rw [h] at hs
  cases hs with
  | stuck _ ha hm => exact ⟨_, _, ha, hm, rfl⟩

theorem cleanup_stuck {e : OsError} (ha : s.Asks v file (.error e)) (hm : e.isMissing = false) :
    (s.cleanup v).1 = .error (.failure (.scratch (.removeFile file.text e))) := by
  obtain ⟨n, rest, removed, w, hn, hu⟩ := ha
  have hstep : Cleanup.steps s (n + 1) (.start s, v) =
      (.finished (.error (.failure (.scratch (.removeFile file.text e)))), (w.unlink file).2) := by
    obtain ⟨w', hw⟩ : ∃ w', w.unlink file = (.error e, w') := ⟨_, Prod.ext hu rfl⟩
    rw [Cleanup.steps_succ, hn, hw]
    simp only [Cleanup.step, hw, hm, Bool.false_eq_true, if_false]
  rw [Cleanup.cleanup_of_steps hstep]

theorem cleanup_removalsWork (ho : s.owned = false) (hl : s.Listable v dir)
    (hs : s.RemovalsWork v) :
    (∃ answer, (s.cleanup v).1 = .ok answer) ∧
      ∀ name, s.owns name = true → (s.cleanup v).2.tree.node? (dir ++ [name]) = none := by
  cases hr : (s.cleanup v).1 with
  | error f =>
    obtain ⟨file, e, ha, -, -⟩ := cleanup_error ho hl hr
    cases hs file _ ha
  | ok answer =>
    refine ⟨⟨answer, rfl⟩, fun name hname => ?_⟩
    by_cases hnode : (s.cleanup v).2.tree.node? (dir ++ [name]) = none
    · exact hnode
    · obtain ⟨e, ha, -⟩ := (cleanup_ok ho hl hr).2 name hname hnode
      cases hs _ _ ha

theorem removalsWork_node (ho : s.owned = false) (hl : s.Listable v dir) (hs : s.RemovalsWork v)
    (q : Place) :
    ((∃ name, s.owns name = true ∧ q = dir ++ [name]) → (s.cleanup v).2.tree.node? q = none) ∧
      ((¬ ∃ name, s.owns name = true ∧ q = dir ++ [name]) →
        (s.cleanup v).2.tree.node? q = v.tree.node? q) := by
  constructor
  · rintro ⟨name, hname, rfl⟩
    exact (cleanup_removalsWork ho hl hs).2 name hname
  · intro hno
    exact ((cleanup_cleanedUp ho hl).shed q).resolve_right fun h => hno h.2.2

theorem cleanup_nothing {w' : Volume} (ho : s.owned = false) (hf : s.files w = ([], w')) :
    s.cleanup w = (.ok none, w') := by
  have hsteps : Cleanup.steps s 2 (.start s, w) = (.finished (.ok none), w') := by
    have hstart : Cleanup.start s = .list := by simp [Cleanup.start, ho]
    rw [hstart, Cleanup.steps_succ, Cleanup.steps_succ]
    simp only [Cleanup.steps, Nat.repeat, Cleanup.step, hf]
    rfl
  exact Cleanup.cleanup_of_steps hsteps

/-- Where no entry has a name of the instance, there is nothing to remove, also when the path leads
to no directory any more. -/
theorem cleanup_idle (ho : s.owned = false) (hl : s.Listable v dir) (hw : w.home = v.home)
    (hi : w.tree.Within v.tree)
    (hn : ∀ name, s.owns name = true → w.tree.node? (dir ++ [name]) = none) :
    (s.cleanup w).1 = .ok none ∧ (s.cleanup w).2.tree = w.tree := by
  have hnames : ∀ name ∈ w.namesIn s.path, ¬ s.owns name = true := by
    intro name hmem hname
    have hstart : w.start s.path = v.start s.path := by rw [Volume.start, hw]; rfl
    unfold Volume.namesIn at hmem
    rw [hstart] at hmem
    split at hmem
    · cases hmem
    · rename_i place hp
      split at hmem <;> rename_i hd
      · have hdir : w.tree.node? place = some .directory := by simpa [Tree.isDirectory] using hd
        have hp' := Tree.walk_within hi _ (Or.inr (by simp [hdir])) _ _ _ hp
        obtain rfl := Except.ok.inj (hl.located.symm.trans hp')
        exact Tree.mem_names.mp hmem (hn name hname)
      · cases hmem
  have hfiles : s.files w = ([], w.after .list) := by
    rcases w.faultless_or_fails .list with hs | ⟨e, hf⟩
    · rw [files_faultless s hs, List.filter_eq_nil_iff.mpr hnames]
      rfl
    · exact files_fails s hf
  rw [cleanup_nothing ho hfiles]
  exact ⟨rfl, rfl⟩

theorem removalsWork_of_steps {n : Nat} {result : Except Problem (Option String)}
    (h : Cleanup.steps s n (.start s, v) = (.finished result, w))
    (hok : ∀ m < n, ∀ file rest removed w',
      Cleanup.steps s m (.start s, v) = (.removeFiles (file :: rest) removed, w') →
        (w'.unlink file).1 = .ok ()) : s.RemovalsWork v := by
  rintro file answer ⟨m, rest, removed, w', hm, rfl⟩
  by_cases hlt : m < n
  · exact hok m hlt file rest removed w' hm
  · obtain ⟨k, rfl⟩ := Nat.exists_eq_add_of_le (Nat.not_lt.mp hlt)
    rw [Cleanup.steps_add, h, Cleanup.steps_finished] at hm
    cases hm

theorem cleanup_found (ho : s.owned = false) (hl : s.Listable v dir) (hs : s.RemovalsWork v)
    {name : String} (hname : s.owns name = true) (hnode : v.tree.node? (dir ++ [name]) ≠ none) :
    (s.cleanup v).1 = .ok (some s.path.text) := by
  obtain ⟨⟨answer, hr⟩, hgone⟩ := cleanup_removalsWork ho hl hs
  obtain ⟨⟨removed, rfl, hremoved⟩, -⟩ := cleanup_ok ho hl hr
  have hchange : removed = true := by
    refine hremoved.mpr ⟨dir ++ [name], ?_⟩
    rw [hgone name hname]
    exact hnode.symm
  rw [hr, hchange]
  rfl

theorem cleanup_unneeded (ho : s.owned = false) (hl : s.Listable v dir) (hs : s.RemovalsWork v)
    (hnone : ∀ name, s.owns name = true → v.tree.node? (dir ++ [name]) = none) :
    (s.cleanup v).1 = .ok none := by
  obtain ⟨⟨answer, hr⟩, -⟩ := cleanup_removalsWork ho hl hs
  obtain ⟨⟨removed, rfl, hremoved⟩, -⟩ := cleanup_ok ho hl hr
  have hsame : removed = false := by
    rw [Bool.eq_false_iff, ne_eq, hremoved]
    rintro ⟨q, hq⟩
    obtain ⟨hgone, -, name, hname, rfl⟩ := ((cleanup_cleanedUp ho hl).shed q).resolve_left hq
    exact hq (hgone.trans (hnone name hname).symm)
  rw [hr, hsame]
  rfl

/-- A cleanup whose removals work comes to the same after another one as on what was there at first.
-/
theorem cleanup_resumed (ho : s.owned = false) (hl : s.Listable v dir)
    (ht : (s.cleanup v).2.SameTree w)
    (hw : s.Listable w dir) (hws : s.RemovalsWork w) (ht' : v.SameTree z)
    (hfaultless : z.Faultless .list 1)
    (hzs : s.RemovalsWork z) : (s.cleanup w).2.SameTree (s.cleanup z).2 := by
  have hz := hl.sameTree ht' hfaultless
  obtain ⟨hhome, hnodes⟩ := ht
  obtain ⟨hhome', hnodes'⟩ := ht'
  have hclean := cleanup_cleanedUp ho hl
  refine ⟨?_, fun q => ?_⟩
  · rw [(cleanup_cleanedUp ho hz).home, (cleanup_cleanedUp ho hw).home, hhome', hhome, hclean.home]
  · obtain ⟨hin, hout⟩ := removalsWork_node ho hw hws q
    obtain ⟨hin', hout'⟩ := removalsWork_node ho hz hzs q
    by_cases hq : ∃ name, s.owns name = true ∧ q = dir ++ [name]
    · rw [hin hq, hin' hq]
    · rw [hout hq, hout' hq, hnodes, hnodes']
      exact ((hclean.shed q).resolve_right fun h => hq h.2.2).symm

end Scratch

/-- What a cleanup makes of a directory of the caller with any entries, whatever the coming calls
do. It takes away nothing but entries with names of its own stream files, and it fails exactly with
the reason of a removal that failed for another one than absence. If all removals work, nothing with
such a name is left, the answer names the directory if there was something, and another cleanup
finds nothing to do. Wherever a cleanup stopped, a later one whose removals work leaves the
directory as a single one would have. -/
theorem cleanup_exact {s : Scratch} {v : Volume} {dir : Place} (ho : s.owned = false)
    (hl : s.Listable v dir) :
    (s.cleanup v).2.home = v.home ∧
    (∀ q, (s.cleanup v).2.tree.node? q ≠ v.tree.node? q →
      (s.cleanup v).2.tree.node? q = none ∧ v.tree.node? q ≠ some .directory ∧
        ∃ label stream, q = dir ++ [s.streamName label stream]) ∧
    (∀ problem, (s.cleanup v).1 = .error problem ↔ ∃ file e, s.Asks v file (.error e) ∧
      e.isMissing = false ∧ problem = .failure (.scratch (.removeFile file.text e))) ∧
    (s.RemovalsWork v →
      (∀ label stream, (s.cleanup v).2.tree.node? (dir ++ [s.streamName label stream]) = none) ∧
      ((∃ label stream, v.tree.node? (dir ++ [s.streamName label stream]) ≠ none) →
        (s.cleanup v).1 = .ok (some s.path.text)) ∧
      ((∀ label stream, v.tree.node? (dir ++ [s.streamName label stream]) = none) →
        (s.cleanup v).1 = .ok none) ∧
      ∀ w, (s.cleanup v).2.SameTree w →
        (s.cleanup w).1 = .ok none ∧ (s.cleanup w).2.tree = w.tree) ∧
    ∀ w z, (s.cleanup v).2.SameTree w → s.Listable w dir → s.RemovalsWork w →
      v.SameTree z → z.Faultless .list 1 → s.RemovalsWork z →
        (s.cleanup w).2.SameTree (s.cleanup z).2 := by
  have hclean := Scratch.cleanup_cleanedUp ho hl
  refine ⟨hclean.home, fun q hq => ?_, fun problem => ⟨Scratch.cleanup_error ho hl, ?_⟩,
    fun hs => ⟨fun label stream => ?_, ?_, fun hnone => ?_, ?_⟩, ?_⟩
  · obtain ⟨hnone, hfile, name, hname, rfl⟩ := (hclean.shed q).resolve_left hq
    obtain ⟨label, stream, rfl⟩ := Scratch.owns_iff.mp hname
    exact ⟨hnone, hfile, label, stream, rfl⟩
  · rintro ⟨file, e, ha, hm, rfl⟩
    exact Scratch.cleanup_stuck ha hm
  · exact (Scratch.cleanup_removalsWork ho hl hs).2 _ (Scratch.owns_streamName s label stream)
  · rintro ⟨label, stream, hnode⟩
    exact Scratch.cleanup_found ho hl hs (Scratch.owns_streamName s label stream) hnode
  · refine Scratch.cleanup_unneeded ho hl hs fun name hname => ?_
    obtain ⟨label, stream, rfl⟩ := Scratch.owns_iff.mp hname
    exact hnone label stream
  · rintro w ⟨hhome, hnodes⟩
    refine Scratch.cleanup_idle ho hl (hhome.trans hclean.home) (fun q => ?_) fun name hname => ?_
    · rw [hnodes]
      exact hclean.within q
    · rw [hnodes]
      exact (Scratch.cleanup_removalsWork ho hl hs).2 name hname
  · intro w z ht hw hws ht' hfaultless hzs
    exact Scratch.cleanup_resumed ho hl ht hw hws ht' hfaultless hzs

namespace Sample

def guest : Scratch := ⟨⟨.single, ["box"]⟩, false, "000000000001"⟩

def shared (schedule : Schedule) : Volume where
  tree := ⟨[(["box"], .directory), (["box", "tmp-000000000001-2-1.stderr"], .file [2]),
    (["box", "tmp-000000000002-1-0.stdout"], .file [3]),
    (["box", "tmp-000000000001-1.log"], .file []),
    (["box", "tmp-000000000001-1-0.stdout"], .file [1]), (["box", "1.stdout"], .file [])]⟩
  home := []
  temporary := []
  schedule := schedule
  namesTried := 0
  tokensDrawn := 2

def refusing : Schedule := fun call => if call = .unlink then [none, some 13] else []

theorem shared_removalsWork : guest.RemovalsWork (shared .quiet) := by
  refine Scratch.removalsWork_of_steps (n := 4) rfl fun m hm file rest removed w' h => ?_
  rcases m with _ | _ | _ | _ | m
  · cases h
  · cases h
    rfl
  · cases h
    rfl
  · cases h
  · omega

end Sample

/-- The first cleanup removes one file and is stuck at the other one, and the next one does what was
left. -/
theorem cleanup_exact_sample :
    (Sample.guest.cleanup (Sample.shared Sample.refusing)).1 =
      .error (.failure (.scratch
        (.removeFile "/box/tmp-000000000001-1-0.stdout" (.coded 13 none)))) ∧
    (Sample.guest.cleanup (Sample.guest.cleanup (Sample.shared Sample.refusing)).2).2.SameTree
      (Sample.guest.cleanup (Sample.shared .quiet)).2 ∧
    (Sample.guest.cleanup (Sample.shared .quiet)).1 = .ok (some "/box") := by
  have hl : Sample.guest.Listable (Sample.shared Sample.refusing) ["box"] :=
    ⟨by decide +kernel, by decide +kernel, nofun⟩
  have hw : Sample.guest.RemovalsWork (Sample.guest.cleanup (Sample.shared Sample.refusing)).2 := by
    refine Scratch.removalsWork_of_steps (n := 3) rfl fun m hm file rest removed w' h => ?_
    rcases m with _ | _ | _ | m
    · cases h
    · cases h
      rfl
    · cases h
    · omega
  obtain ⟨-, -, herror, -, hagain⟩ := cleanup_exact rfl hl
  refine ⟨(herror _).mpr ⟨_, _, ⟨2, _, _, _, rfl, rfl⟩, rfl, rfl⟩, ?_, rfl⟩
  exact hagain _ _ ⟨rfl, fun _ => rfl⟩ ⟨by decide +kernel, by decide +kernel, nofun⟩ hw
    ⟨rfl, fun _ => rfl⟩ nofun Sample.shared_removalsWork

end GuestRunner
