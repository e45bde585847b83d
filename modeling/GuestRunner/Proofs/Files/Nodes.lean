import GuestRunner.Files.Volume

/-!
# What is where

What a tree has at a place after one of its operations, and what it means that two trees differ in
the files at some places only. Directories and links are the same in both then, so that every path
that led somewhere still leads there.
-/

set_option autoImplicit false

namespace GuestRunner.Files.Tree

theorem lookup_cons_ite (p q : Place) (n : Node) (es : List (Place × Node)) :
    ((p, n) :: es).lookup q = if q = p then some n else es.lookup q := by
  by_cases h : q = p
  · subst h
    simp
  · have hb : (q == p) = false := beq_false_of_ne h
    simp [List.lookup_cons, hb, h]

theorem lookup_set (p q : Place) (n : Node) (es : List (Place × Node)) :
    (set p n es).lookup q = if q = p then some n else es.lookup q := by
  induction es with
  | nil => rw [set, lookup_cons_ite]
  | cons e rest ih =>
    obtain ⟨r, m⟩ := e
    rw [set]
    by_cases hr : r = p
    · subst hr
      simp only [if_pos, lookup_cons_ite]
      split <;> rfl
    · simp only [if_neg hr, lookup_cons_ite, ih]
      by_cases hq : q = r
      · subst hq
        simp [hr]
      · simp [hq]

theorem lookup_kept (keep : Place → Bool) (q : Place) (es : List (Place × Node)) :
    (es.filter fun e => keep e.1).lookup q = if keep q then es.lookup q else none := by
  induction es with
  | nil => simp
  | cons e rest ih =>
    obtain ⟨r, m⟩ := e
    rw [List.filter_cons, lookup_cons_ite]
    by_cases hq : q = r
    · rw [hq] at ih ⊢
      cases hk : keep r <;> simp [hk, ih]
    · cases keep r <;> simp [hq, ih, lookup_cons_ite]

theorem node_put (t : Tree) {p : Place} (hp : p ≠ []) (n : Node) (q : Place) :
    (t.put p n).node? q = if q = p then some n else t.node? q := by
  unfold node? put
  rw [lookup_set]
  by_cases hq : q = []
  · subst hq
    simp [hp.symm]
  · simp [hq]

theorem node_erase (t : Tree) {p : Place} (hp : p ≠ []) (q : Place) :
    (t.erase p).node? q = if q = p then none else t.node? q := by
  have h := lookup_kept (fun r => r ≠ p) q t.entries
  unfold node? erase
  rw [show (t.entries.filter fun e => e.1 ≠ p).lookup q = _ from h]
  by_cases hq : q = []
  · subst hq
    simp [hp.symm]
  · by_cases hqp : q = p <;> simp [hqp, hq, hp]

theorem node_prune (t : Tree) (p q : Place) :
    (t.prune p).node? q = if q ≠ [] ∧ p.isPrefixOf q then none else t.node? q := by
  have h := lookup_kept (fun r => !p.isPrefixOf r) q t.entries
  unfold node? prune
  rw [show (t.entries.filter fun e => !p.isPrefixOf e.1).lookup q = _ from h]
  by_cases hq : q = [] <;> by_cases hp : p.isPrefixOf q <;> simp [hq, hp]

def Free (t : Tree) (p : Place) : Prop :=
  t.node? p = none ∨ ∃ content, t.node? p = some (.file content)

theorem Free.no_directory {t : Tree} {p : Place} (h : t.Free p) : t.node? p ≠ some .directory := by
  rcases h with h | ⟨c, h⟩ <;> simp [h]

theorem Free.no_link {t : Tree} {p : Place} (h : t.Free p) (target : String) :
    t.node? p ≠ some (.link target) := by
  rcases h with h | ⟨c, h⟩ <;> simp [h]

def SameBut (here : Place → Prop) (t t' : Tree) : Prop :=
  ∀ q, t'.node? q = t.node? q ∨ here q ∧ t.Free q ∧ t'.Free q

theorem SameBut.refl (here : Place → Prop) (t : Tree) : SameBut here t t := fun _ => Or.inl rfl

theorem SameBut.mono {here there : Place → Prop} {t t' : Tree} (h : SameBut here t t')
    (hm : ∀ q, here q → there q) : SameBut there t t' := by
  intro q
  rcases h q with h | ⟨hq, hf⟩
  · exact Or.inl h
  · exact Or.inr ⟨hm q hq, hf⟩

theorem SameBut.free {here : Place → Prop} {t t' : Tree} (h : SameBut here t t') {p : Place}
    (hp : t.Free p) : t'.Free p := by
  rcases h p with hn | ⟨_, _, hf⟩
  · simpa only [Free, hn] using hp
  · exact hf

theorem SameBut.trans {here : Place → Prop} {t t' t'' : Tree} (h : SameBut here t t')
    (h' : SameBut here t' t'') : SameBut here t t'' := by
  intro q
  rcases h q with hn | ⟨hq, hf, hf'⟩
  · rcases h' q with hn' | ⟨hq, hf', hf''⟩
    · exact Or.inl (hn'.trans hn)
    · exact Or.inr ⟨hq, by simpa only [Free, hn] using hf', hf''⟩
  · exact Or.inr ⟨hq, hf, h'.free hf'⟩

theorem SameBut.node {here : Place → Prop} {t t' : Tree} (h : SameBut here t t') {p : Place}
    (hp : ¬ here p) : t'.node? p = t.node? p := by
  rcases h p with hn | ⟨hq, _⟩
  · exact hn
  · exact absurd hq hp

theorem SameBut.content {here : Place → Prop} {t t' : Tree} (h : SameBut here t t') {p : Place}
    (hp : ¬ here p) : t'.content p = t.content p := by
  simp only [Tree.content, h.node hp]

theorem SameBut.directory {here : Place → Prop} {t t' : Tree} (h : SameBut here t t') {p : Place}
    (hp : t.node? p = some .directory) : t'.node? p = some .directory := by
  rcases h p with hn | ⟨_, hf, _⟩
  · rw [hn, hp]
  · exact absurd hp hf.no_directory

theorem put_file_sameBut (t : Tree) {p : Place} (hp : p ≠ []) (hf : t.Free p) (c : Bytes) :
    SameBut (· = p) t (t.put p (.file c)) := by
  intro q
  rw [node_put t hp]
  by_cases hq : q = p
  · subst hq
    exact Or.inr ⟨rfl, hf, Or.inr ⟨c, by rw [node_put t hp, if_pos rfl]⟩⟩
  · exact Or.inl (if_neg hq)

theorem erase_sameBut (t : Tree) {p : Place} (hp : p ≠ []) (hf : t.Free p) :
    SameBut (· = p) t (t.erase p) := by
  intro q
  rw [node_erase t hp]
  by_cases hq : q = p
  · subst hq
    exact Or.inr ⟨rfl, hf, Or.inl (by rw [node_erase t hp, if_pos rfl])⟩
  · exact Or.inl (if_neg hq)

theorem content_put (t : Tree) {p : Place} (hp : p ≠ []) (c : Bytes) :
    (t.put p (.file c)).content p = c := by
  simp [content, node_put t hp]

theorem content_erase (t : Tree) {p : Place} (hp : p ≠ []) : (t.erase p).content p = [] := by
  simp [content, node_erase t hp]

theorem content_absent {t : Tree} {p : Place} (h : t.node? p = none) : t.content p = [] := by
  simp [content, h]

theorem content_file {t : Tree} {p : Place} {c : Bytes} (h : t.node? p = some (.file c)) :
    t.content p = c := by
  simp [content, h]

def Loss (t t' : Tree) : Prop := ∀ p, t'.content p = t.content p ∨ t'.content p = []

theorem Loss.refl (t : Tree) : Loss t t := fun _ => Or.inl rfl

theorem erase_loss (t : Tree) {p : Place} (hp : p ≠ []) : Loss t (t.erase p) := by
  intro q
  by_cases hq : q = p
  · subst hq
    exact Or.inr (content_erase t hp)
  · exact Or.inl (by simp only [content, node_erase t hp, if_neg hq])

theorem prune_loss (t : Tree) (p : Place) : Loss t (t.prune p) := by
  intro q
  by_cases hq : q ≠ [] ∧ p.isPrefixOf q = true
  · exact Or.inr (by simp only [content, node_prune, if_pos hq])
  · exact Or.inl (by simp only [content, node_prune, if_neg hq])

end GuestRunner.Files.Tree
