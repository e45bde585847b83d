import GuestRunner.Text.Utf8
import Mathlib.Data.List.Forall2

/-!
# Encoded text among other bytes

Bytes are decoded piece by piece, and no piece goes on past a byte that none of its spans holds.
What a character is encoded as begins with such a byte and is one piece of its own. So encoded text
comes back as it was, wherever it stands, and what stands around it is decoded as if it were alone.
-/

set_option autoImplicit false

namespace GuestRunner.Text.Utf8

/-! ### Where byte strings can be cut -/

variable {b : UInt8} {ss : List Span} {bytes rest : Bytes}

theorem holds_mono {s t : Span} (hl : t.low ≤ s.low) (hh : s.high ≤ t.high)
    (h : t.holds b = false) : s.holds b = false := by
  simp only [Span.holds, Bool.and_eq_false_iff, decide_eq_false_iff_not, UInt8.le_iff_toNat_le]
    at *
  omega

theorem spans_tail (h : spans b = some ss) {s : Span} (hs : s ∈ ss) :
    tail.low ≤ s.low ∧ s.high ≤ tail.high := by
  unfold spans at h
  repeat' split at h
  all_goals cases h <;> revert s hs <;> decide

theorem fitting_length (ss : List Span) (bytes : Bytes) :
    (fitting ss bytes).length ≤ bytes.length := by
  induction bytes generalizing ss with
  | nil => cases ss <;> simp [fitting]
  | cons b rest ih =>
    cases ss with
    | nil => simp [fitting]
    | cons s ss =>
      have hr := ih ss
      simp only [fitting]
      split <;> simp [hr]

theorem fitting_append (h : ∀ s ∈ ss, s.holds b = false) :
    fitting ss (bytes ++ b :: rest) = fitting ss bytes := by
  induction bytes generalizing ss with
  | nil =>
    cases ss with
    | nil => rfl
    | cons s ss => simp [fitting, h s (by simp)]
  | cons c bytes ih =>
    cases ss with
    | nil => rfl
    | cons s ss =>
      have hs : fitting ss (bytes ++ b :: rest) = fitting ss bytes :=
        ih fun s hs => h s (by simp [hs])
      simp only [List.cons_append, fitting, hs]

theorem firstPiece_length (b : UInt8) (rest : Bytes) :
    (firstPiece b rest).bytes.length - 1 ≤ rest.length := by
  unfold firstPiece
  split
  · simp
  · rename_i expected _
    have hl := fitting_length expected rest
    dsimp only
    split <;> simpa using hl

theorem firstPiece_append (h : tail.holds b = false) (c : UInt8) :
    firstPiece c (bytes ++ b :: rest) = firstPiece c bytes := by
  unfold firstPiece
  split
  · rfl
  · rename_i ss hs
    have hf : fitting ss (bytes ++ b :: rest) = fitting ss bytes := by
      apply fitting_append
      intro s hm
      have ht := spans_tail hs hm
      exact holds_mono ht.1 ht.2 h
    rw [hf]

theorem pieces_cons (b : UInt8) (rest : Bytes) : pieces (b :: rest) =
    firstPiece b rest :: pieces (rest.drop ((firstPiece b rest).bytes.length - 1)) := by
  rw [pieces]

theorem pieces_append (h : tail.holds b = false) (bytes : Bytes) :
    pieces (bytes ++ b :: rest) = pieces bytes ++ pieces (b :: rest) := by
  fun_induction pieces bytes with
  | case1 => rfl
  | case2 c more piece ih =>
    have hl : piece.bytes.length - 1 ≤ more.length := firstPiece_length c more
    rw [List.cons_append, pieces_cons, firstPiece_append h,
      List.drop_append_of_le_length hl, ih]
    rfl

/-! ### What a character is encoded as -/

theorem toNat_ofNat {m : Nat} (hm : m < 256) : (UInt8.ofNat m).toNat = m := by
  simp
  omega

theorem holds_ofNat (s : Span) {m : Nat} (hm : m < 256) :
    s.holds (UInt8.ofNat m) = true ↔ s.low.toNat ≤ m ∧ m ≤ s.high.toNat := by
  simp only [Span.holds, Bool.and_eq_true, decide_eq_true_eq, UInt8.le_iff_toNat_le,
    toNat_ofNat hm]

theorem tail_ofNat {m : Nat} (hm : m < 256) :
    tail.holds (UInt8.ofNat m) = true ↔ 0x80 ≤ m ∧ m ≤ 0xBF :=
  holds_ofNat tail hm

theorem not_tail {m : Nat} (hm : m < 256) (h : m < 0x80 ∨ 0xBF < m) :
    tail.holds (UInt8.ofNat m) = false := by
  rw [Bool.eq_false_iff, ne_eq, tail_ofNat hm]
  omega

theorem tail_six (n : Nat) : tail.holds (UInt8.ofNat (0x80 + n % 64)) = true := by
  rw [tail_ofNat (by omega)]
  omega

theorem spans_ofNat {m : Nat} (hm : m < 256) : spans (UInt8.ofNat m) =
    if m ≤ 0x7F then some []
    else if m < 0xC2 then none
    else if m ≤ 0xDF then some [tail]
    else if m = 0xE0 then some [⟨0xA0, 0xBF⟩, tail]
    else if m = 0xED then some [⟨0x80, 0x9F⟩, tail]
    else if m ≤ 0xEF then some [tail, tail]
    else if m = 0xF0 then some [⟨0x90, 0xBF⟩, tail, tail]
    else if m ≤ 0xF3 then some [tail, tail, tail]
    else if m = 0xF4 then some [⟨0x80, 0x8F⟩, tail, tail]
    else none := by
  simp only [spans, UInt8.le_iff_toNat_le, UInt8.lt_iff_toNat_lt, ← UInt8.toNat_inj,
    toNat_ofNat hm]
  rfl

theorem fitting_all {following : Bytes}
    (h : List.Forall₂ (fun s b => s.holds b = true) ss following)
    (rest : Bytes) : fitting ss (following ++ rest) = following := by
  induction h with
  | nil => rfl
  | cons hb _ ih => simp only [List.cons_append, fitting, hb, if_true, ih]

theorem pieces_sequence {following : Bytes} (hs : spans b = some ss)
    (hf : List.Forall₂ (fun s b => s.holds b = true) ss following) (rest : Bytes) :
    pieces (b :: following ++ rest) =
      ⟨b :: following, some (scalar b following)⟩ :: pieces rest := by
  have hp : firstPiece b (following ++ rest) = ⟨b :: following, some (scalar b following)⟩ := by
    simp only [firstPiece, hs, fitting_all hf, hf.length_eq, if_true]
  rw [List.cons_append, pieces_cons, hp]
  simp

theorem toNat_range (c : Char) :
    c.toNat < 0xD800 ∨ 0xDFFF < c.toNat ∧ c.toNat < 0x110000 := c.valid

structure Sequence (c : Char) (b : UInt8) (following : Bytes) : Prop where
  encoded : encodeChar c = b :: following
  first : tail.holds b = false
  fits : ∃ ss, spans b = some ss ∧ List.Forall₂ (fun s b => s.holds b = true) ss following
  scalar : scalar b following = c

theorem toNat_six (n : Nat) : (UInt8.ofNat (0x80 + n % 64)).toNat % 64 = n % 64 := by
  rw [toNat_ofNat (by omega)]
  omega

theorem sequence_one {c : Char} (h : c.toNat < 0x80) :
    Sequence c (UInt8.ofNat c.toNat) [] where
  encoded := by rw [encodeChar, if_pos h]
  first := not_tail (by omega) (by omega)
  fits := ⟨[], by rw [spans_ofNat (by omega), if_pos (by omega)], .nil⟩
  scalar := by
    have hb : (UInt8.ofNat c.toNat).toNat = c.toNat := toNat_ofNat (by omega)
    simp only [scalar, List.foldl_nil, List.length_nil, leadBits, hb, Char.ofNat_toNat]

theorem sequence_two {c : Char} (h : 0x80 ≤ c.toNat) (h' : c.toNat < 0x800) :
    Sequence c (UInt8.ofNat (0xC0 + c.toNat / 64)) [UInt8.ofNat (0x80 + c.toNat % 64)] where
  encoded := by rw [encodeChar, if_neg (by omega), if_pos h']
  first := not_tail (by omega) (by omega)
  fits := by
    refine ⟨[tail], ?_, .cons (tail_six _) .nil⟩
    rw [spans_ofNat (by omega), if_neg (by omega), if_neg (by omega), if_pos (by omega)]
  scalar := by
    have hb : (UInt8.ofNat (0xC0 + c.toNat / 64)).toNat % 32 * 64 + c.toNat % 64 = c.toNat := by
      rw [toNat_ofNat (by omega)]
      omega
    simp only [scalar, List.foldl_cons, List.foldl_nil, List.length_singleton, leadBits,
      toNat_six, hb, Char.ofNat_toNat]

/-- Three bytes stand for no surrogate: the second byte after `0xED` ends before theirs. -/
theorem sequence_three {c : Char} (h : 0x800 ≤ c.toNat) (h' : c.toNat < 0x10000) :
    Sequence c (UInt8.ofNat (0xE0 + c.toNat / 4096))
      [UInt8.ofNat (0x80 + c.toNat / 64 % 64), UInt8.ofNat (0x80 + c.toNat % 64)] where
  encoded := by rw [encodeChar, if_neg (by omega), if_neg (by omega), if_pos h']
  first := not_tail (by omega) (by omega)
  fits := by
    have hv := toNat_range c
    rw [spans_ofNat (by omega), if_neg (by omega), if_neg (by omega), if_neg (by omega)]
    split
    · refine ⟨_, rfl, .cons ?_ (.cons (tail_six _) .nil)⟩
      exact (holds_ofNat _ (by omega)).mpr
        (show 0xA0 ≤ 0x80 + c.toNat / 64 % 64 ∧ 0x80 + c.toNat / 64 % 64 ≤ 0xBF by omega)
    · split
      · refine ⟨_, rfl, .cons ?_ (.cons (tail_six _) .nil)⟩
        exact (holds_ofNat _ (by omega)).mpr
          (show 0x80 ≤ 0x80 + c.toNat / 64 % 64 ∧ 0x80 + c.toNat / 64 % 64 ≤ 0x9F by omega)
      · rw [if_pos (by omega)]
        exact ⟨_, rfl, .cons (tail_six _) (.cons (tail_six _) .nil)⟩
  scalar := by
    have hb : (UInt8.ofNat (0xE0 + c.toNat / 4096)).toNat % 16 * 64 + c.toNat / 64 % 64 =
        c.toNat / 64 := by
      rw [toNat_ofNat (by omega)]
      omega
    have hc : c.toNat / 64 * 64 + c.toNat % 64 = c.toNat := by omega
    simp only [scalar, List.foldl_cons, List.foldl_nil, List.length_cons, List.length_nil,
      leadBits, toNat_six, hb, hc, Char.ofNat_toNat]

/-- Four bytes stand for nothing above U+10FFFF. -/
theorem sequence_four {c : Char} (h : 0x10000 ≤ c.toNat) :
    Sequence c (UInt8.ofNat (0xF0 + c.toNat / 262144))
      [UInt8.ofNat (0x80 + c.toNat / 4096 % 64), UInt8.ofNat (0x80 + c.toNat / 64 % 64),
        UInt8.ofNat (0x80 + c.toNat % 64)] where
  encoded := by rw [encodeChar, if_neg (by omega), if_neg (by omega), if_neg (by omega)]
  first := by
    have hv := toNat_range c
    exact not_tail (by omega) (by omega)
  fits := by
    have hv := toNat_range c
    rw [spans_ofNat (by omega), if_neg (by omega), if_neg (by omega), if_neg (by omega),
      if_neg (by omega), if_neg (by omega), if_neg (by omega)]
    split
    · refine ⟨_, rfl, .cons ?_ (.cons (tail_six _) (.cons (tail_six _) .nil))⟩
      exact (holds_ofNat _ (by omega)).mpr
        (show 0x90 ≤ 0x80 + c.toNat / 4096 % 64 ∧ 0x80 + c.toNat / 4096 % 64 ≤ 0xBF by omega)
    · split
      · exact ⟨_, rfl, .cons (tail_six _) (.cons (tail_six _) (.cons (tail_six _) .nil))⟩
      · rw [if_pos (by omega)]
        refine ⟨_, rfl, .cons ?_ (.cons (tail_six _) (.cons (tail_six _) .nil))⟩
        exact (holds_ofNat _ (by omega)).mpr
          (show 0x80 ≤ 0x80 + c.toNat / 4096 % 64 ∧ 0x80 + c.toNat / 4096 % 64 ≤ 0x8F by omega)
  scalar := by
    have hv := toNat_range c
    have hb : (UInt8.ofNat (0xF0 + c.toNat / 262144)).toNat % 8 * 64 + c.toNat / 4096 % 64 =
        c.toNat / 4096 := by
      rw [toNat_ofNat (by omega)]
      omega
    have hc : c.toNat / 4096 * 64 + c.toNat / 64 % 64 = c.toNat / 64 := by omega
    have hd : c.toNat / 64 * 64 + c.toNat % 64 = c.toNat := by omega
    simp only [scalar, List.foldl_cons, List.foldl_nil, List.length_cons, List.length_nil,
      leadBits, toNat_six, hb, hc, hd, Char.ofNat_toNat]

theorem sequence_exists (c : Char) : ∃ b following, Sequence c b following := by
  by_cases h₁ : c.toNat < 0x80
  · exact ⟨_, _, sequence_one h₁⟩
  by_cases h₂ : c.toNat < 0x800
  · exact ⟨_, _, sequence_two (by omega) h₂⟩
  by_cases h₃ : c.toNat < 0x10000
  · exact ⟨_, _, sequence_three (by omega) h₃⟩
  · exact ⟨_, _, sequence_four (by omega)⟩

/-! ### Encoded text among other bytes -/

theorem decodeChars_sequence {c : Char} {following : Bytes} (h : Sequence c b following)
    (rest : Bytes) : decodeChars (encodeChar c ++ rest) = c :: decodeChars rest := by
  obtain ⟨ss, hs, hf⟩ := h.fits
  rw [h.encoded, decodeChars, pieces_sequence hs hf, List.map_cons, Piece.char]
  simp [h.scalar, decodeChars]

theorem decodeChars_encode (chars : List Char) (rest : Bytes) :
    decodeChars (encodeChars chars ++ rest) = chars ++ decodeChars rest := by
  induction chars with
  | nil => rfl
  | cons c chars ih =>
    obtain ⟨b, following, h⟩ := sequence_exists c
    calc decodeChars (encodeChars (c :: chars) ++ rest)
        = decodeChars (encodeChar c ++ (encodeChars chars ++ rest)) := by
          simp [encodeChars]
      _ = c :: decodeChars (encodeChars chars ++ rest) := decodeChars_sequence h _
      _ = c :: chars ++ decodeChars rest := by rw [ih]; rfl

theorem decodeChars_append {c : Char} {chars : List Char} (bytes rest : Bytes) :
    decodeChars (bytes ++ (encodeChars (c :: chars) ++ rest)) =
      decodeChars bytes ++ (c :: chars ++ decodeChars rest) := by
  obtain ⟨b, following, h⟩ := sequence_exists c
  have he : encodeChars (c :: chars) ++ rest =
      b :: (following ++ encodeChars chars ++ rest) := by
    simp [encodeChars, h.encoded]
  rw [← decodeChars_encode, decodeChars, he, pieces_append h.first, List.map_append]
  rfl

theorem decode_encode (text : String) : decode (encode text) = text := by
  have h := decodeChars_encode text.toList []
  simp only [List.append_nil] at h
  rw [decode, encode, h]
  simp [decodeChars, pieces]

theorem decode_between {text : String} (h : text ≠ "") (before after : Bytes) :
    decode (before ++ encode text ++ after) = decode before ++ text ++ decode after := by
  cases hc : text.toList with
  | nil => exact absurd (String.toList_eq_nil_iff.mp hc) h
  | cons c chars =>
    have hd := @decodeChars_append c chars before after
    have ht : String.ofList (c :: chars) = text := by rw [← hc, String.ofList_toList]
    simp only [decode, encode, hc, List.append_assoc] at *
    rw [hd]
    simp [String.ofList_append, ← ht, String.append_assoc]

end GuestRunner.Text.Utf8
