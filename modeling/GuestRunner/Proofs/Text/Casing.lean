import GuestRunner.Text.Casing
import Mathlib.Data.List.Infix

/-!
# Words in a text in lower case

In lower case an ASCII letter is an ASCII letter again, at the same place. What a letter outside
ASCII becomes is outside ASCII too, but for two: the sign for kelvin becomes a `k`, and the capital
with a dot becomes an `i` with a mark behind it. So a word without a `k` that does not end in `i`
stands in the lower case of a text just where it stands in the text itself, up to the case of ASCII
letters, although the two need not be of one length.
-/

set_option autoImplicit false

namespace GuestRunner.Text.Casing

variable {word image more text before rest : List Char} {c : Char}

structure Plain (word : List Char) : Prop where
  ascii : ∀ c ∈ word, c.toNat < 0x80 ∧ c ≠ 'k'
  ending : word.getLast? ≠ some 'i'

def Foreign (image : List Char) : Prop :=
  image = ['i', '\u0307'] ∨ ∃ d, image = [d] ∧ (0x80 ≤ d.toNat ∨ d = 'k')

theorem Plain.tail (h : Plain (c :: word)) : Plain word where
  ascii d hd := h.ascii d (List.mem_cons_of_mem c hd)
  ending := by
    cases word with
    | nil => simp
    | cons d word => simpa using h.ending

/-! ### Letter by letter -/

theorem lowerChar_ascii (h : c.toNat < 0x80) : lowerChar c = [c.toLower] := by
  have hall : ∀ n < 0x80, lowerChar (Char.ofNat n) = [(Char.ofNat n).toLower] := by decide +kernel
  simpa using hall c.toNat h

theorem small_foreign : ∀ s ∈ stretches, s.last < 0x80 ∨ s.first = s.last ∧ s.small = 0x6B ∨
    0x80 ≤ s.small ∧ (s.small + (s.last - s.first) < 0xD800 ∨
      0xDFFF < s.small ∧ s.small + (s.last - s.first) < 0x110000) := by
  decide +kernel

theorem lowerChar_foreign (h : 0x80 ≤ c.toNat) : Foreign (lowerChar c) := by
  unfold lowerChar
  split
  · exact Or.inl rfl
  · refine Or.inr ?_
    split
    · rename_i s hs
      have hmem := List.mem_of_find?_eq_some hs
      have hholds := List.find?_some hs
      simp only [Stretch.holds, Bool.and_eq_true, decide_eq_true_eq] at hholds
      refine ⟨_, rfl, ?_⟩
      rcases small_foreign s hmem with hlast | ⟨hone, hsmall⟩ | ⟨hlow, hvalid⟩
      · omega
      · right
        rw [show c.toNat - s.first + s.small = 0x6B by omega]
      · left
        have hv : (c.toNat - s.first + s.small).isValidChar := by
          rcases hvalid with hv | ⟨hl, hv⟩
          · exact Or.inl (by omega)
          · exact Or.inr ⟨by omega, by omega⟩
        have hn : (Char.ofNat (c.toNat - s.first + s.small)).toNat =
          c.toNat - s.first + s.small := by
          rw [Char.ofNat, dif_pos hv]
          rfl
        omega
    · exact ⟨c, rfl, Or.inl h⟩

theorem toLower_foreign (h : 0x80 ≤ c.toNat) : c.toLower = c := by
  unfold Char.toLower
  rw [dif_neg]
  rintro ⟨-, hz⟩
  have hz' : c.toNat ≤ 0x5A := hz
  omega

theorem lowerAfter_cons (before : List Char) (c : Char) (rest : List Char) :
    ∃ image, lowerAfter before (c :: rest) = image ++ lowerAfter (c :: before) rest ∧
      (c.toNat < 0x80 → image = [c.toLower]) ∧ (0x80 ≤ c.toNat → Foreign image) := by
  by_cases hc : c = 'Σ'
  · subst hc
    refine ⟨[if endsWord before rest then 'ς' else 'σ'], by rw [lowerAfter]; rfl,
      fun h => absurd h (by decide), fun _ => Or.inr ⟨_, rfl, Or.inl ?_⟩⟩
    split <;> decide
  · refine ⟨lowerChar c, ?_, lowerChar_ascii, lowerChar_foreign⟩
    rw [lowerAfter]
    exact hc

/-! ### Words -/

theorem Foreign.no_start (hi : Foreign image) (hw : Plain word) (hne : word ≠ []) :
    ¬ word <+: image ++ more := by
  intro h
  cases word with
  | nil => exact hne rfl
  | cons d word =>
    have hd := hw.ascii d (by simp)
    rcases hi with rfl | ⟨e, rfl, he⟩
    · obtain ⟨rfl, htail⟩ := List.cons_prefix_cons.mp h
      cases word with
      | nil => exact hw.ending rfl
      | cons e word =>
        obtain ⟨rfl, -⟩ := List.cons_prefix_cons.mp htail
        exact absurd (hw.ascii '\u0307' (by simp)).1 (by decide)
    · obtain ⟨rfl, -⟩ := List.cons_prefix_cons.mp h
      rcases he with he | he
      · omega
      · exact hd.2 he

theorem Foreign.infix_append (hi : Foreign image) (hw : Plain word) (hne : word ≠ []) :
    word <:+: image ++ more ↔ word <:+: more := by
  have hstart := @Foreign.no_start word image more hi hw hne
  rcases hi with rfl | ⟨e, rfl, he⟩
  · have hmark : Foreign ['\u0307'] := Or.inr ⟨_, rfl, Or.inl (by decide)⟩
    have hnext := @Foreign.no_start word ['\u0307'] more hmark hw hne
    simp only [List.cons_append, List.nil_append] at hstart hnext ⊢
    rw [List.infix_cons_iff, List.infix_cons_iff, or_iff_right hstart, or_iff_right hnext]
  · simp only [List.cons_append, List.nil_append] at hstart ⊢
    rw [List.infix_cons_iff, or_iff_right hstart]

theorem no_prefix_foreign (hc : 0x80 ≤ c.toNat) (hw : Plain word) (hne : word ≠ []) :
    ¬ word <+: (c :: rest).map Char.toLower := by
  have hi : Foreign [c.toLower] := Or.inr ⟨_, rfl, Or.inl (by rwa [toLower_foreign hc])⟩
  exact hi.no_start hw hne

theorem prefix_lowerAfter (hw : Plain word) (before text : List Char) :
    word <+: lowerAfter before text ↔ word <+: text.map Char.toLower := by
  induction text generalizing before word with
  | nil => simp [lowerAfter]
  | cons c rest ih =>
    obtain ⟨image, hlower, hascii, hforeign⟩ := lowerAfter_cons before c rest
    rw [hlower]
    cases word with
    | nil => simp
    | cons d word =>
      rcases Nat.lt_or_ge c.toNat 0x80 with hc | hc
      · rw [hascii hc, List.map_cons, List.singleton_append, List.cons_prefix_cons,
          List.cons_prefix_cons, ih hw.tail]
      · have hl := @Foreign.no_start _ _ (lowerAfter (c :: before) rest) (hforeign hc) hw nofun
        exact iff_of_false hl (no_prefix_foreign hc hw nofun)

/-- A plain word stands in the lower case of a text where it stands in the text with its ASCII
letters made small. -/
theorem infix_lowerAfter (hw : Plain word) (hne : word ≠ []) (before text : List Char) :
    word <:+: lowerAfter before text ↔ word <:+: text.map Char.toLower := by
  induction text generalizing before with
  | nil => simp [lowerAfter]
  | cons c rest ih =>
    have hstart := prefix_lowerAfter hw before (c :: rest)
    obtain ⟨image, hlower, hascii, hforeign⟩ := lowerAfter_cons before c rest
    rw [hlower] at hstart ⊢
    rcases Nat.lt_or_ge c.toNat 0x80 with hc | hc
    · rw [hascii hc, List.map_cons, List.singleton_append] at hstart ⊢
      rw [List.infix_cons_iff, List.infix_cons_iff, hstart, ih]
    · have hno := @no_prefix_foreign word rest c hc hw hne
      rw [List.map_cons] at hno ⊢
      rw [(hforeign hc).infix_append hw hne, ih, List.infix_cons_iff, or_iff_right hno]

end GuestRunner.Text.Casing
