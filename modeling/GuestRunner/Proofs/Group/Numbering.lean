import Mathlib.Data.Fintype.Card
import Mathlib.Order.Interval.Finset.Nat

/-!
# Numbers in order

Each of several owners hands out numbers from a counter, one after the other. Then the numbers of an
owner are different, and they are all the numbers that its counter has passed.
-/

set_option autoImplicit false

namespace GuestRunner

structure Numbering {ι κ : Type} (owner : κ → ι) (low high : ι → Nat) (number : κ → Option Nat) :
    Prop where
  le : ∀ i, low i ≤ high i
  bound : ∀ k n, number k = some n → low (owner k) < n ∧ n ≤ high (owner k)
  inj : ∀ k k' n, owner k = owner k' → number k = some n → number k' = some n → k = k'
  all : ∀ i n, low i < n → n ≤ high i → ∃ k, owner k = i ∧ number k = some n

namespace Numbering

variable {ι κ : Type} {owner : κ → ι} {low high high' : ι → Nat} {number number' : κ → Option Nat}

theorem start (hn : ∀ k, number k = none) : Numbering owner low low number where
  le i := Nat.le_refl _
  bound k n h := absurd h (by simp [hn])
  inj k k' n _ h := absurd h (by simp [hn])
  all i n h h' := absurd h (Nat.not_lt.mpr h')

theorem congr (h : Numbering owner low high number) (hh : ∀ i, high' i = high i)
    (hn : ∀ k, number' k = number k) : Numbering owner low high' number' := by
  rw [funext hh, funext hn]
  exact h

/-- Who has no number yet takes the next one. -/
theorem take (h : Numbering owner low high number) {k : κ} (hk : number k = none)
    (hk' : number' k = some (high (owner k) + 1)) (hn : ∀ j, j ≠ k → number' j = number j)
    (hh : high' (owner k) = high (owner k) + 1)
    (hi : ∀ i, i ≠ owner k → high' i = high i) : Numbering owner low high' number' := by
  have hmono : ∀ i, high i ≤ high' i := by
    intro i
    by_cases he : i = owner k
    · subst he
      omega
    · rw [hi i he]
  refine ⟨fun i => Nat.le_trans (h.le i) (hmono i), ?_, ?_, ?_⟩
  · intro j n hj
    by_cases he : j = k
    · subst he
      have hle := h.le (owner j)
      rw [hk'] at hj
      cases hj
      omega
    · rw [hn j he] at hj
      have hb := h.bound j n hj
      have hm := hmono (owner j)
      omega
  · intro j j' n ho hj hj'
    by_cases he : j = k <;> by_cases he' : j' = k
    · rw [he, he']
    · subst he
      rw [hk'] at hj
      cases hj
      rw [hn j' he'] at hj'
      have hb := h.bound j' _ hj'
      rw [← ho] at hb
      omega
    · subst he'
      rw [hk'] at hj'
      cases hj'
      rw [hn j he] at hj
      have hb := h.bound j _ hj
      rw [ho] at hb
      omega
    · rw [hn j he] at hj
      rw [hn j' he'] at hj'
      exact h.inj j j' n ho hj hj'
  · intro i n hl hu
    by_cases he : i = owner k ∧ n = high (owner k) + 1
    · exact ⟨k, he.1.symm, by rw [hk', he.2]⟩
    · have hold : n ≤ high i := by
        by_cases hik : i = owner k
        · subst hik
          have hne : n ≠ high (owner k) + 1 := fun hc => he ⟨rfl, hc⟩
          omega
        · rwa [hi i hik] at hu
      obtain ⟨j, hj, hjn⟩ := h.all i n hl hold
      have hjk : j ≠ k := by
        rintro rfl
        rw [hk] at hjn
        cases hjn
      exact ⟨j, hj, by rw [hn j hjk, hjn]⟩

theorem high_le [Fintype κ] (h : Numbering owner low high number) (i : ι) :
    high i ≤ low i + Fintype.card κ := by
  classical
  have hsub : Finset.Ioc (low i) (high i) ⊆
      Finset.univ.image fun k => (number k).getD 0 := by
    intro n hn
    rw [Finset.mem_Ioc] at hn
    obtain ⟨k, -, hk⟩ := h.all i n hn.1 hn.2
    exact Finset.mem_image.mpr ⟨k, Finset.mem_univ k, by rw [hk, Option.getD_some]⟩
  have hcard := (Finset.card_le_card hsub).trans Finset.card_image_le
  rw [Nat.card_Ioc, Finset.card_univ] at hcard
  omega

end Numbering

end GuestRunner
