import GuestRunner.Proofs.Files.Walks

/-!
# Paths that lead to files

A path leads to a file at a place if a file is or may be made there; it leads there directly if no
link is on the way. The calls that a sink makes with such a path work as long as no fault is
scheduled for them. They change nothing but the file there, so that every other such path leads to
the same place as before.
-/

set_option autoImplicit false

namespace GuestRunner

theorem Path.rootOf_slash (cs : List Char) : Path.rootOf ('/' :: cs) ≠ .relative := by
  unfold Path.rootOf
  split <;> simp_all

theorem Path.ofText_text_isAbsolute {p : Path} (h : p.isAbsolute = true) :
    (Path.ofText p.text).isAbsolute = true := by
  have hr : p.root ≠ .relative := by simpa [Path.isAbsolute] using h
  have ht : ∃ cs, p.text.toList = '/' :: cs := by
    rw [Path.text, if_neg (fun hc => hr hc.1), String.toList_append]
    cases hp : p.root with
    | relative => exact absurd hp hr
    | single => exact ⟨_, rfl⟩
    | double => exact ⟨_, rfl⟩
  obtain ⟨cs, ht⟩ := ht
  simp only [Path.isAbsolute, Path.ofText, ht, bne_iff_ne, ne_eq]
  exact Path.rootOf_slash cs

namespace Files

namespace Volume

def Faultless (v : Volume) (call : Call) (n : Nat) : Prop :=
  ∀ x ∈ (v.schedule call).take n, x = none

def after (v : Volume) (call : Call) : Volume := { v with schedule := (v.schedule.next call).2 }

theorem guarded_faultless {α : Type} {v : Volume} {call : Call} (h : v.Faultless call 1)
    (act : Volume → Except OsError α × Volume) : v.guarded call act = act (v.after call) := by
  unfold guarded after Schedule.next
  unfold Faultless at h
  cases hs : v.schedule call with
  | nil => rfl
  | cons x later =>
    have hx : x = none := h x (by simp [hs])
    subst hx
    rfl

theorem after_schedule (v : Volume) (call c : Call) :
    (v.after call).schedule c = (v.schedule c).drop ([call].count c) := by
  unfold after Schedule.next
  cases hs : v.schedule call with
  | nil =>
    by_cases hc : c = call
    · simp [hc, hs]
    · simp [Ne.symm hc]
  | cons x later =>
    by_cases hc : c = call
    · simp [hc, hs]
    · simp [hc, Ne.symm hc]

def Fails (v : Volume) (call : Call) (e : OsError) : Prop :=
  ∃ code, (v.schedule call).head? = some (some code) ∧ e = .coded code none

def Faulty (v : Volume) (e : OsError) : Prop :=
  ∃ call code, some code ∈ v.schedule call ∧ e = .coded code none

theorem guarded_fails {α : Type} {v : Volume} {call : Call} {e : OsError} (h : v.Fails call e)
    (act : Volume → Except OsError α × Volume) :
    v.guarded call act = (.error e, v.after call) := by
  obtain ⟨code, hc, rfl⟩ := h
  unfold guarded after Schedule.next
  cases hs : v.schedule call with
  | nil => simp [hs] at hc
  | cons x later =>
    rw [hs] at hc
    cases hc
    rfl

theorem faultless_or_fails (v : Volume) (call : Call) :
    v.Faultless call 1 ∨ ∃ e, v.Fails call e := by
  unfold Faultless Fails
  cases v.schedule call with
  | nil => exact Or.inl fun x hx => by simp at hx
  | cons x later =>
    cases x with
    | none => exact Or.inl fun x hx => by simpa using hx
    | some code => exact Or.inr ⟨_, code, rfl, rfl⟩

theorem Faultless.not_fails {v : Volume} {call : Call} (h : v.Faultless call 1) (e : OsError) :
    ¬ v.Fails call e := by
  rintro ⟨code, hc, -⟩
  unfold Faultless at h
  cases hs : v.schedule call with
  | nil => simp [hs] at hc
  | cons x later =>
    rw [hs] at hc h
    cases hc
    exact absurd (h (some code) (by simp)) (by simp)

theorem Fails.faulty {v : Volume} {call : Call} {e : OsError} (h : v.Fails call e) :
    v.Faulty e := by
  obtain ⟨code, hc, rfl⟩ := h
  exact ⟨call, code, List.mem_of_mem_head? hc, rfl⟩

theorem Faultless.mono {v : Volume} {call : Call} {m n : Nat} (h : v.Faultless call n)
    (hm : m ≤ n) :
    v.Faultless call m := fun x hx => h x (List.take_subset_take_left _ hm hx)

structure TouchesOnly (here : Place → Prop) (calls : List Call) (v v' : Volume) : Prop where
  home : v'.home = v.home
  tree : v.tree.SameBut here v'.tree
  faults : ∀ call, ∃ n ≤ calls.count call, v'.schedule call = (v.schedule call).drop n

theorem TouchesOnly.faultless {here : Place → Prop} {calls : List Call} {v v' : Volume}
    (h : TouchesOnly here calls v v') (call : Call) (n : Nat)
    (hs : v.Faultless call (n + calls.count call)) : v'.Faultless call n := by
  obtain ⟨m, hm, hd⟩ := h.faults call
  intro x hx
  rw [hd, List.take_drop] at hx
  exact hs x (List.take_subset_take_left _ (by omega) (List.mem_of_mem_drop hx))

theorem TouchesOnly.faulty {here : Place → Prop} {calls : List Call} {v v' : Volume} {e : OsError}
    (h : TouchesOnly here calls v v') (he : v'.Faulty e) : v.Faulty e := by
  obtain ⟨call, code, hx, rfl⟩ := he
  obtain ⟨m, -, hd⟩ := h.faults call
  rw [hd] at hx
  exact ⟨call, code, List.mem_of_mem_drop hx, rfl⟩

theorem TouchesOnly.refl (here : Place → Prop) (v : Volume) : TouchesOnly here [] v v :=
  ⟨rfl, .refl here _, fun _ => ⟨0, Nat.le_refl 0, rfl⟩⟩

theorem TouchesOnly.mono {here there : Place → Prop} {calls : List Call} {v v' : Volume}
    (h : TouchesOnly here calls v v') (hm : ∀ q, here q → there q) : TouchesOnly there calls v v' :=
  ⟨h.home, h.tree.mono hm, h.faults⟩

theorem TouchesOnly.trans {here : Place → Prop} {calls calls' : List Call} {v v' v'' : Volume}
    (h : TouchesOnly here calls v v') (h' : TouchesOnly here calls' v' v'') :
    TouchesOnly here (calls ++ calls') v v'' := by
  refine ⟨h'.home.trans h.home, h.tree.trans h'.tree, fun call => ?_⟩
  obtain ⟨m, hm, hd⟩ := h.faults call
  obtain ⟨n, hn, hd'⟩ := h'.faults call
  refine ⟨m + n, ?_, by rw [hd', hd, List.drop_drop]⟩
  rw [List.count_append]
  exact Nat.add_le_add hm hn

theorem TouchesOnly.leads {here : Place → Prop} {calls : List Call} {v v' : Volume} {w : Tree.Walk}
    {path : Path} {place : Place} (h : TouchesOnly here calls v v')
    (hl : v.tree.walk w Tree.linkLimit (v.start path) path.parts = .ok place) :
    v'.tree.walk w Tree.linkLimit (v'.start path) path.parts = .ok place := by
  have hs : v'.start path = v.start path := by simp only [start, h.home]
  rw [hs]
  exact Tree.walk_passes h.tree.passes w _ _ _ hl

theorem after_touches (here : Place → Prop) (v : Volume) (call : Call) :
    TouchesOnly here [call] v (v.after call) :=
  ⟨rfl, .refl here _, fun c => ⟨[call].count c, Nat.le_refl _, after_schedule v call c⟩⟩

/-- A path leads, through links or not, to a place where a file is or may be made. -/
structure LeadsToFile (v : Volume) (path : Path) (place : Place) : Prop where
  rooted : path.isAbsolute = true
  usable : unusable? path.text = none
  leads : ∀ w, w.confinedTo = none →
    v.tree.walk w Tree.linkLimit (v.start path) path.parts = .ok place
  below : place ≠ []
  free : v.tree.Free place

/-- No link is on the way, so that the path leads there wherever a walk is confined. -/
structure LeadsDirectly (v : Volume) (path : Path) (place : Place) : Prop where
  rooted : path.isAbsolute = true
  usable : unusable? path.text = none
  leads : ∀ w, v.tree.walk w Tree.linkLimit (v.start path) path.parts = .ok place
  below : place ≠ []
  free : v.tree.Free place

variable {v v' : Volume} {path : Path} {place : Place}

namespace LeadsToFile

theorem touches {here : Place → Prop} {calls : List Call} (b : LeadsToFile v path place)
    (h : TouchesOnly here calls v v') : LeadsToFile v' path place :=
  ⟨b.rooted, b.usable, fun w hw => h.leads (b.leads w hw), b.below, h.tree.free b.free⟩

theorem after (b : LeadsToFile v path place) (call : Call) :
    LeadsToFile (v.after call) path place :=
  b.touches (after_touches (fun _ => False) v call)

theorem place_eq (b : LeadsToFile v path place) : v.place? path = some place := by
  simp only [place?, Tree.locate, b.leads, Except.toOption]

theorem put_touches (b : LeadsToFile v path place) (c : Bytes) :
    TouchesOnly (· = place) [] v { v with tree := v.tree.put place (.file c) } :=
  ⟨rfl, Tree.put_file_sameBut _ b.below b.free c, fun _ => ⟨0, Nat.le_refl 0, rfl⟩⟩

theorem erase_touches (b : LeadsToFile v path place) :
    TouchesOnly (· = place) [] v { v with tree := v.tree.erase place } :=
  ⟨rfl, Tree.erase_sameBut _ b.below b.free, fun _ => ⟨0, Nat.le_refl 0, rfl⟩⟩

theorem truncate (b : LeadsToFile v path place) (h : v.Faultless .truncate 1) :
    ((v.truncate path).1 = .ok () ∨ ∃ e, (v.truncate path).1 = .error e ∧ e.isMissing = true) ∧
      (v.truncate path).2.tree.content place = [] ∧
      TouchesOnly (· = place) [.truncate] v (v.truncate path).2 := by
  have b' := b.after .truncate
  have ht := after_touches (· = place) v .truncate
  rw [Volume.truncate, guarded_faultless h]
  simp only [onTree, b.usable, Tree.truncate, Tree.locate, b'.leads, bind, Except.bind]
  rcases b'.free with hn | ⟨c, hn⟩ <;> simp only [hn]
  · exact ⟨Or.inr ⟨_, rfl, rfl⟩, Tree.content_absent hn, ht⟩
  · exact ⟨Or.inl trivial, Tree.content_put _ b.below [], ht.trans (b'.put_touches [])⟩

theorem refill (b : LeadsToFile v path place) (f : Bytes → Bytes) :
    (v.onTree path (v.tree.refill f)).1 = .ok () ∧
      (v.onTree path (v.tree.refill f)).2.tree.content place = f (v.tree.content place) ∧
      TouchesOnly (· = place) [] v (v.onTree path (v.tree.refill f)).2 := by
  simp only [onTree, b.usable, Tree.refill, Tree.locateNew, b.leads, bind, Except.bind]
  rcases b.free with hn | ⟨c, hn⟩ <;> simp only [hn]
  · refine ⟨trivial, ?_, b.put_touches _⟩
    rw [Tree.content_put _ b.below, Tree.content_absent hn]
  · refine ⟨trivial, ?_, b.put_touches _⟩
    rw [Tree.content_put _ b.below, Tree.content_file hn]

theorem append (b : LeadsToFile v path place) (chunk : Bytes) :
    (v.append path chunk).1 = .ok () ∧
      (v.append path chunk).2.tree.content place = v.tree.content place ++ chunk ∧
      TouchesOnly (· = place) [] v (v.append path chunk).2 :=
  b.refill (· ++ chunk)

theorem writeAt_end (b : LeadsToFile v path place) (chunk : Bytes) :
    (v.writeAt path (v.tree.content place).length chunk).1 = .ok () ∧
      (v.writeAt path (v.tree.content place).length chunk).2.tree.content place =
        v.tree.content place ++ chunk ∧
      TouchesOnly (· = place) [] v (v.writeAt path (v.tree.content place).length chunk).2 := by
  have h := b.refill (·.overlaid (v.tree.content place).length chunk)
  rwa [Bytes.overlaid_length_self] at h

theorem readStream (b : LeadsToFile v path place) (h : v.Faultless .open 1) :
    (v.readStream path).2 = v.after .open ∧
      ((v.readStream path).1 = .ok (v.tree.content place) ∨
        v.tree.content place = [] ∧
          ∃ e, (v.readStream path).1 = .error e ∧ e.isMissing = true) := by
  rw [Volume.readStream, guarded_faultless h]
  refine ⟨rfl, ?_⟩
  have hs : (v.after .open).start (Path.ofText path.text) = v.start path := by
    simp only [start, Path.ofText_text_isAbsolute b.rooted, b.rooted]
    rfl
  simp only [read, readAs, b.usable, hs, Tree.read, Tree.locate, bind, Except.bind]
  rw [show (v.after .open).tree = v.tree from rfl, b.leads _ rfl]
  rcases b.free with hn | ⟨c, hn⟩ <;> simp only [hn]
  · exact Or.inr ⟨Tree.content_absent hn, _, rfl, rfl⟩
  · exact Or.inl (by rw [Tree.content_file hn])

theorem unlink_tree (b : LeadsToFile v path place) :
    ((v.onTree path v.tree.unlink).1 = .ok () ∨
        ∃ e, (v.onTree path v.tree.unlink).1 = .error e ∧ e.isMissing = true) ∧
      (v.onTree path v.tree.unlink).2.tree.content place = [] ∧
      TouchesOnly (· = place) [] v (v.onTree path v.tree.unlink).2 := by
  simp only [onTree, b.usable, Tree.unlink, Tree.locate, b.leads, bind, Except.bind]
  rcases b.free with hn | ⟨c, hn⟩ <;> simp only [hn]
  · exact ⟨Or.inr ⟨_, rfl, rfl⟩, Tree.content_absent hn, .refl _ v⟩
  · exact ⟨Or.inl trivial, Tree.content_erase _ b.below, b.erase_touches⟩

theorem unlink (b : LeadsToFile v path place) (h : v.Faultless .unlink 1) :
    ((v.unlink path).1 = .ok () ∨ ∃ e, (v.unlink path).1 = .error e ∧ e.isMissing = true) ∧
      (v.unlink path).2.tree.content place = [] ∧
      TouchesOnly (· = place) [.unlink] v (v.unlink path).2 := by
  obtain ⟨hd, hc, ht⟩ := (b.after .unlink).unlink_tree
  rw [Volume.unlink, guarded_faultless h]
  exact ⟨hd, hc, (after_touches _ v .unlink).trans ht⟩

end LeadsToFile

namespace LeadsDirectly

theorem leadsToFile (b : LeadsDirectly v path place) : LeadsToFile v path place :=
  ⟨b.rooted, b.usable, fun w _ => b.leads w, b.below, b.free⟩

theorem touches {here : Place → Prop} {calls : List Call} (b : LeadsDirectly v path place)
    (h : TouchesOnly here calls v v') : LeadsDirectly v' path place :=
  ⟨b.rooted, b.usable, fun w => h.leads (b.leads w), b.below, h.tree.free b.free⟩

end LeadsDirectly

end Volume

end Files

end GuestRunner
