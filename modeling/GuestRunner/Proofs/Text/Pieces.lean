import GuestRunner.Invocation.Payload
import GuestRunner.Proofs.Text.Utf8
import Mathlib.Data.List.Infix

/-!
# The one way to cut a byte string

A byte string can be cut from the left into pieces of two kinds: the sequence of a scalar value, or,
where none begins, the longest sequence there that lacks its end, which is a single byte where
nothing is lacking but the whole. There is one way to do so for every byte string, and decoding
follows it. The spans after a first byte are what makes this computable: the bytes that fit them are
just the starts of sequences.
-/

set_option autoImplicit false

namespace GuestRunner.Text.Utf8

def Truncated (part : Bytes) : Prop :=
  ∃ c, part <+: String.utf8EncodeChar c ∧ part ≠ String.utf8EncodeChar c

inductive Subpart (bytes : Bytes) : Bytes → Prop
  | longest {part : Bytes} (hp : part <+: bytes) (hne : part ≠ []) (ht : Truncated part)
    (hmax : ∀ other, other <+: bytes → Truncated other → other.length ≤ part.length) :
    Subpart bytes part
  | single {b : UInt8} (hp : [b] <+: bytes)
    (hnone : ∀ other, other <+: bytes → Truncated other → other = []) : Subpart bytes [b]

/-- The ways to cut a byte string into sequences and ill-formed subparts. -/
inductive Cut : Bytes → List Piece → Prop
  | done : Cut [] []
  | sequence (c : Char) {rest : Bytes} {cut : List Piece} (h : Cut rest cut) :
    Cut (String.utf8EncodeChar c ++ rest) (⟨String.utf8EncodeChar c, some c⟩ :: cut)
  | subpart {part rest : Bytes} {cut : List Piece}
    (hno : ∀ c, ¬ String.utf8EncodeChar c <+: part ++ rest) (hp : Subpart (part ++ rest) part)
    (h : Cut rest cut) : Cut (part ++ rest) (⟨part, none⟩ :: cut)

variable {b : UInt8} {ss : List Span} {bytes rest part following : Bytes} {cut : List Piece}

/-! ### Bytes that fit the spans -/

inductive Fits : List Span → Bytes → Prop
  | nil (ss : List Span) : Fits ss []
  | cons {s : Span} {ss : List Span} {b : UInt8} {bytes : Bytes} (hb : s.holds b = true)
    (h : Fits ss bytes) : Fits (s :: ss) (b :: bytes)

theorem fitting_fits (ss : List Span) (bytes : Bytes) :
    Fits ss (fitting ss bytes) ∧ fitting ss bytes <+: bytes := by
  induction bytes generalizing ss with
  | nil => cases ss <;> exact ⟨.nil _, List.nil_prefix⟩
  | cons b rest ih =>
    cases ss with
    | nil => exact ⟨.nil _, List.nil_prefix⟩
    | cons s ss =>
      rw [fitting]
      split
      · rename_i hb
        exact ⟨.cons hb (ih ss).1, List.cons_prefix_cons.mpr ⟨rfl, (ih ss).2⟩⟩
      · exact ⟨.nil _, List.nil_prefix⟩

theorem Fits.prefix_fitting (h : Fits ss part) (hp : part <+: bytes) :
    part <+: fitting ss bytes := by
  induction h generalizing bytes with
  | nil => exact List.nil_prefix
  | cons hb _ ih =>
    obtain ⟨rest, rfl⟩ := hp
    rw [List.cons_append, fitting, if_pos hb, List.cons_prefix_cons]
    exact ⟨rfl, ih (List.prefix_append _ _)⟩

theorem Fits.length_le (h : Fits ss part) : part.length ≤ ss.length := by
  induction h with
  | nil => simp
  | cons _ _ ih => simpa using ih

theorem Fits.whole (h : Fits ss part) (hl : part.length = ss.length) :
    List.Forall₂ (fun s b => s.holds b = true) ss part := by
  induction h with
  | nil ss =>
    obtain rfl := List.eq_nil_of_length_eq_zero hl.symm
    exact .nil
  | cons hb _ ih => exact .cons hb (ih (by simpa using hl))

theorem fits_start (h : List.Forall₂ (fun s b => s.holds b = true) ss following)
    (hp : part <+: following) : Fits ss part := by
  induction h generalizing part with
  | nil => rw [List.prefix_nil.mp hp]; exact .nil _
  | cons hb _ ih =>
    cases part with
    | nil => exact .nil _
    | cons c part =>
      obtain ⟨rfl, htail⟩ := List.cons_prefix_cons.mp hp
      exact .cons hb (ih htail)

theorem Fits.completed (h : Fits ss part) (hs : ∀ s ∈ ss, s.holds s.low = true) :
    ∃ following, part <+: following ∧
      List.Forall₂ (fun s b => s.holds b = true) ss following := by
  induction h with
  | nil ss =>
    refine ⟨ss.map Span.low, List.nil_prefix, ?_⟩
    rw [List.forall₂_map_right_iff, List.forall₂_same]
    exact hs
  | cons hb _ ih =>
    obtain ⟨following, hp, hf⟩ := ih fun s hm => hs s (List.mem_cons_of_mem _ hm)
    exact ⟨_, List.cons_prefix_cons.mpr ⟨rfl, hp⟩, .cons hb hf⟩

/-! ### What fits is the sequence of a scalar value -/

theorem holds_iff (s : Span) (b : UInt8) :
    s.holds b = true ↔ s.low.toNat ≤ b.toNat ∧ b.toNat ≤ s.high.toNat := by
  simpa using holds_ofNat s b.toNat_lt

/-- Characters are encoded as everywhere else. -/
theorem encodeChar_eq (c : Char) : encodeChar c = String.utf8EncodeChar c := by
  have hv := toNat_range c
  have hc : c.val.toNat = c.toNat := rfl
  unfold encodeChar String.utf8EncodeChar
  simp only [hc]
  by_cases h₁ : c.toNat < 0x80
  · rw [if_pos h₁, if_pos (by omega)]
  by_cases h₂ : c.toNat < 0x800
  · rw [if_neg h₁, if_pos h₂, if_neg (by omega), if_pos (by omega),
      show 0xC0 + c.toNat / 64 = c.toNat / 64 % 32 + 192 by omega]
    simp only [Nat.add_comm 0x80]
  by_cases h₃ : c.toNat < 0x10000
  · rw [if_neg h₁, if_neg h₂, if_pos h₃, if_neg (by omega), if_neg (by omega), if_pos (by omega),
      show 0xE0 + c.toNat / 4096 = c.toNat / 4096 % 16 + 224 by omega]
    simp only [Nat.add_comm 0x80]
  · rw [if_neg h₁, if_neg h₂, if_neg h₃, if_neg (by omega), if_neg (by omega), if_neg (by omega),
      show 0xF0 + c.toNat / 262144 = c.toNat / 262144 % 8 + 240 by omega]
    simp only [Nat.add_comm 0x80]

theorem exists_char {n : Nat} (h : n < 0xD800 ∨ 0xDFFF < n ∧ n < 0x110000) :
    ∃ c : Char, c.toNat = n := by
  refine ⟨Char.ofNat n, ?_⟩
  rw [Char.ofNat, dif_pos h]
  rfl

theorem ofNat_eq {m : Nat} (h : m = b.toNat) : UInt8.ofNat m = b := by
  rw [h, UInt8.ofNat_toNat]

variable {t u v : UInt8}

theorem encoded_one (hb : b.toNat ≤ 0x7F) : ∃ c, encodeChar c = [b] := by
  obtain ⟨c, hc⟩ := exists_char (n := b.toNat) (by omega)
  refine ⟨c, ?_⟩
  rw [encodeChar, if_pos (by omega), ofNat_eq hc]

theorem encoded_two (hb : 0xC2 ≤ b.toNat ∧ b.toNat ≤ 0xDF) (ht : 0x80 ≤ t.toNat ∧ t.toNat ≤ 0xBF) :
    ∃ c, encodeChar c = [b, t] := by
  obtain ⟨c, hc⟩ := exists_char (n := (b.toNat - 0xC0) * 64 + (t.toNat - 0x80)) (by omega)
  refine ⟨c, ?_⟩
  rw [encodeChar, if_neg (by omega), if_pos (by omega), ofNat_eq (b := b) (by omega),
    ofNat_eq (b := t) (by omega)]

theorem encoded_three (hb : 0xE0 ≤ b.toNat ∧ b.toNat ≤ 0xEF)
    (ht : 0x80 ≤ t.toNat ∧ t.toNat ≤ 0xBF) (hu : 0x80 ≤ u.toNat ∧ u.toNat ≤ 0xBF)
    (hlong : b.toNat = 0xE0 → 0xA0 ≤ t.toNat) (hpair : b.toNat = 0xED → t.toNat ≤ 0x9F) :
    ∃ c, encodeChar c = [b, t, u] := by
  obtain ⟨c, hc⟩ := exists_char
    (n := (b.toNat - 0xE0) * 4096 + (t.toNat - 0x80) * 64 + (u.toNat - 0x80)) (by omega)
  refine ⟨c, ?_⟩
  rw [encodeChar, if_neg (by omega), if_neg (by omega), if_pos (by omega),
    ofNat_eq (b := b) (by omega), ofNat_eq (b := t) (by omega), ofNat_eq (b := u) (by omega)]

theorem encoded_four (hb : 0xF0 ≤ b.toNat ∧ b.toNat ≤ 0xF4)
    (ht : 0x80 ≤ t.toNat ∧ t.toNat ≤ 0xBF) (hu : 0x80 ≤ u.toNat ∧ u.toNat ≤ 0xBF)
    (hv : 0x80 ≤ v.toNat ∧ v.toNat ≤ 0xBF) (hlong : b.toNat = 0xF0 → 0x90 ≤ t.toNat)
    (hhigh : b.toNat = 0xF4 → t.toNat ≤ 0x8F) : ∃ c, encodeChar c = [b, t, u, v] := by
  obtain ⟨c, hc⟩ := exists_char (n := (b.toNat - 0xF0) * 262144 + (t.toNat - 0x80) * 4096 +
    (u.toNat - 0x80) * 64 + (v.toNat - 0x80)) (by omega)
  refine ⟨c, ?_⟩
  rw [encodeChar, if_neg (by omega), if_neg (by omega), if_neg (by omega),
    ofNat_eq (b := b) (by omega), ofNat_eq (b := t) (by omega), ofNat_eq (b := u) (by omega),
    ofNat_eq (b := v) (by omega)]

/-- What the spans after a first byte are. The first of them leaves out what has a shorter form,
the halves of surrogate pairs and what is above the last scalar value. -/
theorem spans_cases (h : spans b = some ss) :
    ss = [] ∧ b.toNat ≤ 0x7F ∨ ss = [tail] ∧ 0xC2 ≤ b.toNat ∧ b.toNat ≤ 0xDF ∨
    (∃ s, ss = [s, tail] ∧ (0xE0 ≤ b.toNat ∧ b.toNat ≤ 0xEF) ∧
      (0x80 ≤ s.low.toNat ∧ s.low.toNat ≤ s.high.toNat ∧ s.high.toNat ≤ 0xBF) ∧
      (b.toNat = 0xE0 → 0xA0 ≤ s.low.toNat) ∧ (b.toNat = 0xED → s.high.toNat ≤ 0x9F)) ∨
    ∃ s, ss = [s, tail, tail] ∧ (0xF0 ≤ b.toNat ∧ b.toNat ≤ 0xF4) ∧
      (0x80 ≤ s.low.toNat ∧ s.low.toNat ≤ s.high.toNat ∧ s.high.toNat ≤ 0xBF) ∧
      (b.toNat = 0xF0 → 0x90 ≤ s.low.toNat) ∧ (b.toNat = 0xF4 → s.high.toNat ≤ 0x8F) := by
  have hspans := spans_ofNat b.toNat_lt
  rw [UInt8.ofNat_toNat, h] at hspans
  repeat' split at hspans
  all_goals cases hspans
  · exact Or.inl ⟨rfl, by omega⟩
  · exact Or.inr (Or.inl ⟨rfl, by omega, by omega⟩)
  · exact Or.inr (Or.inr (Or.inl ⟨_, rfl, by omega, by decide, fun _ => by decide, by omega⟩))
  · exact Or.inr (Or.inr (Or.inl ⟨_, rfl, by omega, by decide, by omega, fun _ => by decide⟩))
  · exact Or.inr (Or.inr (Or.inl ⟨_, rfl, by omega, by decide, by omega, by omega⟩))
  · exact Or.inr (Or.inr (Or.inr ⟨_, rfl, by omega, by decide, fun _ => by decide, by omega⟩))
  · exact Or.inr (Or.inr (Or.inr ⟨_, rfl, by omega, by decide, by omega, by omega⟩))
  · exact Or.inr (Or.inr (Or.inr ⟨_, rfl, by omega, by decide, by omega, fun _ => by decide⟩))

/-- What fits all the spans after a first byte is the sequence of a character. -/
theorem encoded_of_fits (hs : spans b = some ss)
    (hf : List.Forall₂ (fun s b => s.holds b = true) ss following) :
    ∃ c, encodeChar c = b :: following := by
  have htail : ∀ {b : UInt8}, tail.holds b = true → 0x80 ≤ b.toNat ∧ b.toNat ≤ 0xBF :=
    fun h => (holds_iff tail _).mp h
  rcases spans_cases hs with ⟨rfl, hb⟩ | ⟨rfl, hb⟩ | ⟨s, rfl, hb, hrange, hlong, hpair⟩ |
    ⟨s, rfl, hb, hrange, hlong, hhigh⟩
  · cases hf
    exact encoded_one hb
  · rcases hf with _ | ⟨ht, _ | _⟩
    exact encoded_two hb (htail ht)
  · rcases hf with _ | ⟨ht, _ | ⟨hu, _ | _⟩⟩
    have hin := (holds_iff s _).mp ht
    exact encoded_three hb (by omega) (htail hu) (by omega) (by omega)
  · rcases hf with _ | ⟨ht, _ | ⟨hu, _ | ⟨hv, _ | _⟩⟩⟩
    have hin := (holds_iff s _).mp ht
    exact encoded_four hb (by omega) (htail hu) (htail hv) (by omega) (by omega)

theorem fits_of_encoded {c : Char} (h : encodeChar c = b :: following) : ∃ ss, spans b = some ss ∧
    List.Forall₂ (fun s b => s.holds b = true) ss following := by
  obtain ⟨b', following', hseq⟩ := sequence_exists c
  rw [hseq.encoded] at h
  cases h
  exact hseq.fits

theorem Truncated.fits (h : Truncated (b :: part)) :
    ∃ ss, spans b = some ss ∧ Fits ss part ∧ part.length < ss.length := by
  obtain ⟨c, hp, hne⟩ := h
  rw [← encodeChar_eq] at hp hne
  obtain ⟨following, he⟩ : ∃ following, encodeChar c = b :: following := by
    obtain ⟨more, hm⟩ := hp
    exact ⟨_, hm.symm⟩
  rw [he] at hp hne
  obtain ⟨-, htail⟩ := List.cons_prefix_cons.mp hp
  obtain ⟨ss, hs, hf⟩ := fits_of_encoded he
  refine ⟨ss, hs, fits_start hf htail, ?_⟩
  rw [hf.length_eq]
  refine lt_of_le_of_ne htail.length_le fun hl => hne ?_
  rw [htail.eq_of_length hl]

theorem spans_nonempty (h : spans b = some ss) : ∀ s ∈ ss, s.holds s.low = true := by
  unfold spans at h
  repeat' split at h
  all_goals cases h <;> decide

theorem Fits.truncated (h : Fits ss part) (hs : spans b = some ss) (hl : part.length < ss.length) :
    Truncated (b :: part) := by
  obtain ⟨following, hp, hf⟩ := h.completed (spans_nonempty hs)
  obtain ⟨c, hc⟩ := encoded_of_fits hs hf
  refine ⟨c, ?_, fun he => ?_⟩
  · rw [← encodeChar_eq, hc]
    exact List.cons_prefix_cons.mpr ⟨rfl, hp⟩
  · rw [← encodeChar_eq, hc] at he
    have hfull := congrArg List.length he
    rw [List.length_cons, List.length_cons, ← hf.length_eq] at hfull
    omega

theorem encoded_start {c : Char} (h : encodeChar c <+: b :: rest) :
    ∃ following ss, encodeChar c = b :: following ∧ following <+: rest ∧ spans b = some ss ∧
      List.Forall₂ (fun s b => s.holds b = true) ss following := by
  obtain ⟨b', following, hseq⟩ := sequence_exists c
  rw [hseq.encoded] at h ⊢
  obtain ⟨rfl, htail⟩ := List.cons_prefix_cons.mp h
  obtain ⟨ss, hs, hf⟩ := hseq.fits
  exact ⟨following, ss, rfl, htail, hs, hf⟩

/-- The first piece is a sequence, or else an ill-formed subpart. -/
theorem firstPiece_cases (b : UInt8) (rest : Bytes) :
    (∃ c, firstPiece b rest = ⟨encodeChar c, some c⟩ ∧ encodeChar c <+: b :: rest) ∨
    ∃ part, firstPiece b rest = ⟨part, none⟩ ∧ (∀ c, ¬ encodeChar c <+: b :: rest) ∧
      Subpart (b :: rest) part := by
  unfold firstPiece
  split <;> rename_i hs
  · refine Or.inr ⟨[b], rfl, fun c hp => ?_, .single ⟨rest, rfl⟩ fun other hp ht => ?_⟩
    · obtain ⟨-, ss, -, -, hs', -⟩ := encoded_start hp
      rw [hs] at hs'
      cases hs'
    · cases other with
      | nil => rfl
      | cons c other =>
        obtain ⟨rfl, -⟩ := List.cons_prefix_cons.mp hp
        obtain ⟨ss, hs', -⟩ := ht.fits
        rw [hs] at hs'
        cases hs'
  · rename_i ss
    obtain ⟨hfits, hfound⟩ := fitting_fits ss rest
    dsimp only
    split <;> rename_i hl
    · obtain ⟨c, hc⟩ := encoded_of_fits hs (hfits.whole hl)
      obtain ⟨b', following, hseq⟩ := sequence_exists c
      have hsame := hseq.encoded.symm.trans hc
      have hscalar := hseq.scalar
      cases hsame
      exact Or.inl ⟨c, by rw [hc, hscalar], 
        by rw [hc]; exact List.cons_prefix_cons.mpr ⟨rfl, hfound⟩⟩
    · have hshort : (fitting ss rest).length < ss.length := lt_of_le_of_ne hfits.length_le hl
      refine Or.inr ⟨_, rfl, fun c hp => ?_,
        .longest (List.cons_prefix_cons.mpr ⟨rfl, hfound⟩) nofun
        (hfits.truncated hs hshort) fun other hp ht => ?_⟩
      · obtain ⟨following, ss', -, hp', hs', hf⟩ := encoded_start hp
        rw [hs] at hs'
        cases hs'
        have hin := (fits_start hf (List.prefix_refl _)).prefix_fitting hp'
        have hle := hin.length_le
        rw [← hf.length_eq] at hle
        omega
      · cases other with
        | nil => simp
        | cons c other =>
          obtain ⟨rfl, hp'⟩ := List.cons_prefix_cons.mp hp
          obtain ⟨ss', hs', hf, -⟩ := ht.fits
          rw [hs] at hs'
          cases hs'
          have hle := (hf.prefix_fitting hp').length_le
          simpa using hle

/-! ### The cut -/

theorem Subpart.unique {part' : Bytes} (h : Subpart bytes part) (h' : Subpart bytes part') :
    part = part' := by
  cases h with
  | longest hp hne ht hmax =>
    cases h' with
    | longest hp' _ ht' hmax' =>
      have hle := hmax _ hp' ht'
      have hge := hmax' _ hp ht
      exact (List.prefix_of_prefix_length_le hp hp' hge).eq_of_length (by omega)
    | single _ hnone => exact absurd (hnone _ hp ht) hne
  | single hp hnone =>
    cases h' with
    | longest hp' hne' ht' _ => exact absurd (hnone _ hp' ht') hne'
    | single hp' _ =>
      exact (List.prefix_of_prefix_length_le hp hp' (by simp)).eq_of_length (by simp)

theorem Subpart.ne_nil (h : Subpart bytes part) : part ≠ [] := by
  cases h with
  | longest _ hne => exact hne
  | single => simp

theorem encodeChar_ne_nil (c : Char) : encodeChar c ≠ [] := by
  obtain ⟨b, following, h⟩ := sequence_exists c
  rw [h.encoded]
  nofun

theorem drop_part {more : Bytes} (h : part ++ rest = b :: more) (hne : part ≠ []) :
    more.drop (part.length - 1) = rest := by
  cases part with
  | nil => exact absurd rfl hne
  | cons c part =>
    cases h
    simp

theorem pieces_cut (bytes : Bytes) : Cut bytes (pieces bytes) := by
  fun_induction pieces bytes with
  | case1 => exact .done
  | case2 b more piece ih =>
    rcases firstPiece_cases b more with ⟨c, hpiece, rest, hrest⟩ | ⟨part, hpiece, hno, hpart⟩
    · have hleft := drop_part hrest (encodeChar_ne_nil c)
      rw [show piece = _ from hpiece] at ih ⊢
      rw [hleft] at ih ⊢
      rw [← hrest, encodeChar_eq]
      exact .sequence c ih
    · have hp : part <+: b :: more := by cases hpart <;> assumption
      obtain ⟨rest, hrest⟩ := hp
      have hleft := drop_part hrest hpart.ne_nil
      rw [show piece = _ from hpiece] at ih ⊢
      rw [hleft] at ih ⊢
      rw [← hrest] at hno hpart ⊢
      exact .subpart (by simpa only [encodeChar_eq] using hno) hpart ih

/-- There is no other way to cut a byte string. -/
theorem Cut.unique (h : Cut bytes cut) : cut = pieces bytes := by
  induction h with
  | done => rw [pieces]
  | sequence c _ ih =>
    obtain ⟨b, following, hseq⟩ := sequence_exists c
    obtain ⟨ss, hs, hf⟩ := hseq.fits
    rw [← encodeChar_eq, hseq.encoded, pieces_sequence hs hf, hseq.scalar, ih]
  | @subpart part rest cut hno hpart _ ih =>
    obtain ⟨b, more, hmore⟩ := List.exists_cons_of_ne_nil
      (List.append_ne_nil_of_left_ne_nil hpart.ne_nil rest)
    have hleft := drop_part hmore hpart.ne_nil
    rw [hmore] at hno hpart ⊢
    rw [pieces_cons]
    rcases firstPiece_cases b more with ⟨c, -, hc⟩ | ⟨part', hpiece, -, hpart'⟩
    · exact absurd hc (by rw [encodeChar_eq]; exact hno c)
    · cases hpart.unique hpart'
      rw [hpiece, hleft, ih]

theorem Cut.joined (h : Cut bytes cut) : cut.flatMap Piece.bytes = bytes := by
  induction h with
  | done => rfl
  | sequence c _ ih => rw [List.flatMap_cons, ih]
  | subpart _ _ _ ih => rw [List.flatMap_cons, ih]

theorem Cut.length_le (h : Cut bytes cut) : cut.length ≤ bytes.length := by
  induction h with
  | done => simp
  | sequence c _ ih =>
    have hpos := List.length_pos_iff.mpr (encodeChar_ne_nil c)
    rw [encodeChar_eq] at hpos
    rw [List.length_cons, List.length_append]
    omega
  | subpart _ hpart _ ih =>
    have hpos := List.length_pos_iff.mpr hpart.ne_nil
    rw [List.length_cons, List.length_append]
    omega

end GuestRunner.Text.Utf8

namespace GuestRunner

open Text.Utf8

/-- The text of a payload has a character for each piece of the one way to cut it: the scalar value
of a sequence, or the replacement character for an ill-formed subpart. What a guest reports is read
in the same way. -/
theorem text_piecewise (content : Bytes) :
    ∃ cut, Cut content cut ∧ (∀ cut', Cut content cut' → cut' = cut) ∧
      cut.flatMap Piece.bytes = content ∧
      Payload.text content = String.ofList (cut.map fun piece => piece.scalar?.getD '\uFFFD') ∧
      (Payload.text content).length ≤ content.length ∧
      (∀ c ∈ (Payload.text content).toList, ¬ (0xD800 ≤ c.toNat ∧ c.toNat ≤ 0xDFFF)) ∧
      Failure.guestText content = Payload.text content ∧
      ∀ code id, (Failure.guestReported content code id).message =
        "wasi stderr: " ++ Payload.text content := by
  have hcut := pieces_cut content
  have htext : Payload.text content =
      String.ofList ((pieces content).map fun piece => piece.scalar?.getD '\uFFFD') := rfl
  refine ⟨pieces content, hcut, fun _ h => h.unique, hcut.joined, htext, ?_, fun c _ => ?_, rfl,
    fun _ _ => rfl⟩
  · rw [htext, String.length_ofList, List.length_map]
    exact hcut.length_le
  · have hrange := toNat_range c
    omega

/-- A sequence that breaks off is one piece, half of a surrogate pair is three. -/
example : Payload.text [0xF0, 0x9F, 0x41, 0xED, 0xA0, 0x80, 0xC3, 0xA9] =
    "\uFFFDA\uFFFD\uFFFD\uFFFDé" := by cbv

end GuestRunner
