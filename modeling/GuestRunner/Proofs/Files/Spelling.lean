import GuestRunner.Proofs.Files.Walks

/-!
# Spellings

A path can be spelled in many ways. The system looks up name after name, while `Path.normal` works
on the text alone: it drops single dots and cancels each `..` against the name before it. Where
there are no links, whatever the system finds is at the place that the text says.
-/

set_option autoImplicit false

namespace GuestRunner

namespace Path

def isKept (part : String) : Bool := part != "" && part != "."

theorem lookupParts_kept (text : String) :
    (lookupParts text).filter isKept = (ofText text).parts := by
  have hslash : (if (components text).getLast? = some "" then [""] else []).filter isKept = [] := by
    split <;> rfl
  rw [lookupParts, List.filter_append, hslash, List.append_nil, List.filter_filter]
  refine List.filter_congr fun part _ => ?_
  by_cases hp : part = "" <;> simp [isKept, hp]

section

variable {kept : List String} {part : String}

theorem pushNormal_name (absolute : Bool) (h : part ≠ "..") :
    pushNormal absolute kept part = kept ++ [part] := if_pos h

theorem pushNormal_up (h : ".." ∉ kept) : pushNormal true kept ".." = kept.dropLast := by
  rw [pushNormal, if_neg (by simp)]
  split
  · rename_i hlast
    rw [List.getLast?_eq_none_iff.mp hlast]
    rfl
  · rename_i last hlast
    exact if_neg fun he : last = ".." => h (he ▸ List.mem_of_getLast? hlast)

theorem foldl_names (absolute : Bool) (parts : List String) (h : ".." ∉ parts) :
    parts.foldl (pushNormal absolute) kept = kept ++ parts := by
  induction parts generalizing kept with
  | nil => exact (List.append_nil kept).symm
  | cons part rest ih =>
    obtain ⟨hp, hr⟩ := List.ne_and_not_mem_of_not_mem_cons h
    rw [List.foldl_cons, pushNormal_name absolute hp.symm, ih hr, List.append_assoc]
    rfl

end

end Path

namespace Files.Tree

def Linkless (t : Tree) : Prop := ∀ p target, t.node? p ≠ some (.link target)

variable {t : Tree} {w : Walk} {q : Place}

theorem linkless_of_entries (h : ∀ entry ∈ t.entries, ∀ target, entry.2 ≠ .link target) :
    t.Linkless := by
  intro p target hp
  unfold node? at hp
  split at hp
  · cases hp
  · obtain ⟨before, after, he, -⟩ := List.lookup_eq_some_iff.mp hp
    exact h (p, .link target) (by simp [he]) target rfl

/-- Without links the walk leads where the text of the path says. -/
theorem descend_spelled {onLink : Place → List String → Except Nat Place} (hl : t.Linkless)
    (parts : List String) (a : Place) (ha : ".." ∉ a) (h : descend t w onLink a parts = .ok q) :
    q = (parts.filter Path.isKept).foldl (Path.pushNormal true) a := by
  induction parts generalizing a with
  | nil =>
    cases h
    rfl
  | cons part rest ih =>
    obtain ⟨-, nameStep, hleads, harr⟩ := descend_cons.mp h
    cases hleads with
    | stay hdot =>
      have hkept : Path.isKept part = false := by rcases hdot with rfl | rfl <;> rfl
      rw [List.filter_cons_of_neg (by simp [hkept])]
      exact ih a ha harr
    | up hup _ =>
      subst hup
      rw [List.filter_cons_of_pos rfl, List.foldl_cons, Path.pushNormal_up ha]
      exact ih _ (fun hm => ha (List.dropLast_subset _ hm)) harr
    | name hn _ =>
      have hkept : Path.isKept part = true := by simp [Path.isKept, hn.ordinary.1, hn.ordinary.2.1]
      rw [List.filter_cons_of_pos hkept, List.foldl_cons, Path.pushNormal_name true hn.ordinary.2.2]
      exact ih _ (by simp [ha, hn.ordinary.2.2.symm]) harr
    | relative target _ hlink => exact absurd hlink (hl _ target)
    | absolute target _ hlink => exact absurd hlink (hl _ target)

theorem walk_spelled (hl : t.Linkless) (links : Nat) (parts : List String) (a : Place)
    (ha : ".." ∉ a) (h : walk t w links a parts = .ok q) :
    q = (parts.filter Path.isKept).foldl (Path.pushNormal true) a := by
  cases links <;> exact descend_spelled hl parts a ha h

end Files.Tree

namespace Files.Volume

variable {v : Volume}

theorem start_invariant (hh : ".." ∉ v.home) (p : Path) : ".." ∉ v.start p := by
  unfold start
  split
  · exact List.not_mem_nil
  · exact hh

theorem normal_under (hh : ".." ∉ v.home) {p : Path} (hp : p.root ≠ .double) :
    (p.under (absolute v.home)).normal =
      absolute (p.parts.foldl (Path.pushNormal true) (v.start p)) := by
  obtain ⟨root, parts⟩ := p
  cases root with
  | relative =>
    have hhome : v.home.foldl (Path.pushNormal true) [] = v.home := Path.foldl_names true _ hh
    calc ((⟨.relative, parts⟩ : Path).under (absolute v.home)).normal
      _ = absolute ((v.home ++ parts).foldl (Path.pushNormal true) []) := rfl
      _ = absolute (parts.foldl (Path.pushNormal true) v.home) := by
        rw [List.foldl_append, hhome]
  | single => rfl
  | double => exact absurd rfl hp

end Files.Volume

end GuestRunner
