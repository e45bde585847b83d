import GuestRunner.Capture.Basic

/-!
# Names of stream files

The name of a stream file has the token of its instance, the number of the invocation and the count
of sinks so far in it. So no name is used twice by an instance, and no two instances with different
tokens have a name in common: neither makes, lists or removes a file of the other.
-/

set_option autoImplicit false

namespace GuestRunner

theorem Path.splitOn_absent {sep : Char} {cs : List Char} (h : sep ∉ cs) :
    splitOn sep cs = [cs] := by
  induction cs with
  | nil => rfl
  | cons c rest ih =>
    have hc : c ≠ sep := fun he => h (by simp [he])
    have hr : sep ∉ rest := fun he => h (List.mem_cons_of_mem c he)
    simp only [splitOn, if_neg hc, ih hr]

def Path.Reserved (c : Char) : Prop := c = '/' ∨ c = Char.ofNat 0

theorem Path.parts_of_name {name : String} (hs : '/' ∉ name.toList) (he : name ≠ "")
    (hd : name ≠ ".") : (ofText name).parts = [name] := by
  simp [ofText, components, splitOn_absent hs, he, hd]

/-- What follows the last dot is the suffix, with the dot. -/
theorem Path.suffix_of_dot {name : String} {before after : List Char}
    (h : name.toList = before ++ '.' :: after) (hb : before ≠ []) (ha : after ≠ [])
    (hd : '.' ∉ after) : suffix name = String.ofList ('.' :: after) := by
  have hw : ∀ c ∈ after.reverse, decide (c ≠ '.') = true := by
    intro c hc
    have hne : c ≠ '.' := fun he => hd (he ▸ List.mem_reverse.mp hc)
    simp [hne]
  have ht : (name.toList.reverse.takeWhile (· ≠ '.')).reverse = after := by
    have hr : name.toList.reverse = after.reverse ++ '.' :: before.reverse := by simp [h]
    rw [hr, List.takeWhile_append_of_pos hw]
    simp
  have hl : after.length + 1 < name.toList.length := by
    have hp := List.length_pos_iff.mpr hb
    simp [h]
    omega
  unfold suffix
  simp only [ht]
  rw [if_neg]
  rintro (h1 | h1 | h1)
  · omega
  · omega
  · exact ha (by simpa using h1)

namespace Capture

theorem toList_toString_nat (n : Nat) : (toString n).toList = Nat.toDigits 10 n := by
  rw [Nat.toString_eq_repr, Nat.toList_repr]

theorem toString_nat_inj {m n : Nat} (h : toString m = toString n) : m = n := by
  have hd : Nat.toDigits 10 m = Nat.toDigits 10 n := by
    rw [← toList_toString_nat, ← toList_toString_nat, h]
  have hp := congrArg (fun digits => Nat.ofDigitChars 10 digits 0) hd
  simpa using hp

theorem digits_isDigit {n : Nat} {c : Char} (h : c ∈ (toString n).toList) : c.isDigit = true := by
  rw [toList_toString_nat] at h
  exact Nat.isDigit_of_mem_toDigits (by decide) (by decide) h

theorem plain_int_digits {n : Int} {c : Char} (h : c ∈ ((Value.int n).plain).toList) :
    c = '-' ∨ c.isDigit = true := by
  have hp : (Value.int n).plain = n.repr := rfl
  rw [hp, Int.repr_eq_if] at h
  split at h
  · right
    exact digits_isDigit (n := n.toNat) (by rwa [Nat.toString_eq_repr])
  · rw [String.toList_append, List.mem_append] at h
    rcases h with h | h
    · left
      simpa using h
    · right
      exact digits_isDigit (n := (-n).toNat) (by rwa [Nat.toString_eq_repr])

theorem length_le_size (cs : List Char) : cs.length ≤ (String.ofList cs).utf8ByteSize := by
  induction cs with
  | nil => exact Nat.zero_le _
  | cons c cs ih =>
    have hc := c.utf8Size_pos
    rw [String.ofList_cons, String.utf8ByteSize_append, String.utf8ByteSize_singleton,
      List.length_cons]
    omega

theorem digits_le_plain (n : Int) :
    (Nat.toDigits 10 n.natAbs).length ≤ ((Value.int n).plain).utf8ByteSize := by
  have hp : (Value.int n).plain = n.repr := rfl
  refine Nat.le_trans (length_le_size _) ?_
  rw [← Nat.repr_eq_ofList_toDigits, hp, Int.repr_eq_if]
  split
  · exact Nat.le_of_eq (by rw [show n.natAbs = n.toNat by omega])
  · rw [show n.natAbs = (-n).toNat by omega, String.utf8ByteSize_append]
    omega

/-- The count in the label of a run tells it apart, whatever its number. -/
theorem runLabel_inj {m n : Int} {j k : Nat}
    (h : runLabel (.int m) j = runLabel (.int n) k) : j = k := by
  have hl := congrArg (fun text => (text.toList.reverse.takeWhile (· ≠ '-')).reverse) h
  have hcut : ∀ (n : Int) (k : Nat),
      ((runLabel (.int n) k).toList.reverse.takeWhile (· ≠ '-')).reverse =
        (toString k).toList := by
    intro n k
    have hd : ∀ c ∈ (toString k).toList.reverse, (decide (c ≠ '-')) = true := by
      intro c hc
      have hdig := digits_isDigit (List.mem_reverse.mp hc)
      by_cases he : c = '-'
      · subst he
        exact absurd hdig (by decide)
      · simp [he]
    have hr : (runLabel (.int n) k).toList.reverse =
        (toString k).toList.reverse ++ '-' :: (Value.int n).plain.toList.reverse := by
      simp [runLabel, String.toList_append]
    rw [hr, List.takeWhile_append_of_pos hd]
    simp
  have ht : (toString j).toList = (toString k).toList := by
    rw [← hcut m j, ← hcut n k]
    exact hl
  exact toString_nat_inj (String.toList_inj.mp ht)

theorem runLabel_unreserved (n : Int) (k : Nat) {c : Char} (hc : Path.Reserved c) :
    c ∉ (runLabel (.int n) k).toList := by
  intro h
  simp only [runLabel, String.toList_append, List.mem_append] at h
  rcases h with (h | h) | h
  · rcases hc with rfl | rfl <;> rcases plain_int_digits h with h | h <;>
      exact absurd h (by decide)
  · rcases hc with rfl | rfl <;> exact absurd h (by decide)
  · rcases hc with rfl | rfl <;> exact absurd (digits_isDigit h) (by decide)

end Capture

namespace Scratch

def IsToken (token : String) : Prop :=
  token.toList.length = 12 ∧ ∀ c ∈ token.toList, c ∈ Bytes.hexDigits

instance (token : String) : Decidable (IsToken token) :=
  @instDecidableAnd _ _ _ (List.decidableBAll (· ∈ Bytes.hexDigits) token.toList)

theorem drawToken_isToken (v : Files.Volume) : IsToken v.drawToken.1 := by
  have hx : ∀ n, Bytes.hexDigit (n % 16) ∈ Bytes.hexDigits := by
    intro n
    have hl : n % 16 < 16 := Nat.mod_lt _ (by decide)
    generalize n % 16 = k at hl
    revert hl
    revert k
    decide
  constructor
  · simp [Files.Volume.drawToken, Bytes.lastDigits]
  · intro c hc
    simp only [Files.Volume.drawToken, Bytes.lastDigits, String.toList_ofList, List.map_map,
      List.mem_map] at hc
    obtain ⟨i, -, rfl⟩ := hc
    exact hx _

theorem tryNames_inside {stem : String} {tries : Nat} {v v' : Files.Volume} {p : Path}
    (h : Files.Volume.tryNames stem tries v = (.ok p, v')) : p.parts ≠ [] := by
  induction tries generalizing v with
  | zero => cases h
  | succ tries ih =>
    simp only [Files.Volume.tryNames] at h
    split at h
    · cases h
      simp [Path.child]
    · split at h
      · exact ih h
      · cases h

theorem place_inside {given : Option String} {v v' : Files.Volume} {p : Path}
    (h : place given v = (.ok (p, true), v')) : p.parts ≠ [] := by
  unfold place at h
  split at h
  · split at h <;> rename_i hm
    · cases h
      unfold Files.Volume.makeTemporary Files.Volume.guarded at hm
      split at hm
      · cases hm
      · exact tryNames_inside hm
    · cases h
  · split at h
    · cases h
    · simp only at h
      split at h <;> cases h

structure WellFormed (s : Scratch) : Prop where
  token : IsToken s.token
  inside : s.owned = true → s.path.parts ≠ []

theorem create_wellFormed {given : Option String} {v v' : Files.Volume} {scratch : Scratch}
    (h : create given v = (.ok scratch, v')) : scratch.WellFormed := by
  unfold create at h
  split at h <;> rename_i hp
  · cases h
  · cases h
    refine ⟨drawToken_isToken _, fun ho => ?_⟩
    dsimp only at ho
    subst ho
    exact place_inside hp

theorem IsToken.unreserved {token : String} (h : IsToken token) {c : Char}
    (hc : Path.Reserved c) : c ∉ token.toList := by
  intro hs
  rcases hc with rfl | rfl <;> exact absurd (h.2 _ hs) (by decide)

def streamName (s : Scratch) (label : String) (stream : Stream) : String :=
  fileStem s.token ++ label ++ stream.suffix

variable {s s' : Scratch} {label label' : String} {stream stream' : Stream}

theorem toList_fileStem (token : String) :
    (fileStem token).toList = ['t', 'm', 'p', '-'] ++ (token.toList ++ ['-']) := by
  simp [fileStem, String.toList_append]

theorem toList_streamName (s : Scratch) (label : String) (stream : Stream) :
    (s.streamName label stream).toList =
      (fileStem s.token).toList ++ (label.toList ++ stream.suffix.toList) := by
  simp [streamName, String.toList_append]

theorem streamName_unreserved (ht : IsToken s.token) {c : Char} (hc : Path.Reserved c)
    (hl : c ∉ label.toList) : c ∉ (s.streamName label stream).toList := by
  rw [toList_streamName, toList_fileStem]
  intro h
  simp only [List.mem_append] at h
  rcases h with (h | h | h) | h | h
  · rcases hc with rfl | rfl <;> exact absurd h (by decide)
  · exact ht.unreserved hc h
  · rcases hc with rfl | rfl <;> exact absurd h (by decide)
  · exact hl h
  · rcases hc with rfl | rfl <;> cases stream <;> exact absurd h (by decide)

theorem streamName_ne {text : String} (h : text.toList.head? ≠ some 't') :
    s.streamName label stream ≠ text := by
  intro he
  apply h
  rw [← he, toList_streamName, toList_fileStem]
  rfl

theorem streamPath_child (ht : IsToken s.token) (hl : '/' ∉ label.toList) :
    s.streamPath label stream = s.path.child (s.streamName label stream) := by
  have hn : '/' ∉ (s.streamName label stream).toList := streamName_unreserved ht (Or.inl rfl) hl
  have hp := Path.parts_of_name hn (streamName_ne (by decide)) (streamName_ne (by decide))
  unfold streamPath Path.child
  rw [← hp]
  rfl

theorem suffix_length (stream : Stream) : stream.suffix.toList.length = 7 := by
  cases stream <;> rfl

theorem streamName_inj (h : s.streamName label stream = s.streamName label' stream') :
    label = label' ∧ stream = stream' := by
  have hl := congrArg String.toList h
  rw [toList_streamName, toList_streamName] at hl
  obtain ⟨ha, hb⟩ := List.append_inj' (List.append_cancel_left hl)
    (by rw [suffix_length, suffix_length])
  refine ⟨String.toList_inj.mp ha, ?_⟩
  cases stream <;> cases stream' <;> first | rfl | exact absurd hb (by decide)

theorem stem_of_owns {name : String} (h : s.owns name = true) :
    (fileStem s.token).toList <+: name.toList := by
  rw [owns, Bool.and_eq_true] at h
  exact List.isPrefixOf_iff_prefix.mp h.1

theorem token_of_owns {name : String} (ht : IsToken s.token) (ht' : IsToken s'.token)
    (h : s.owns name = true) (h' : s'.owns name = true) : s.token = s'.token := by
  obtain ⟨rest, hr⟩ := stem_of_owns h
  obtain ⟨rest', hr'⟩ := stem_of_owns h'
  rw [← hr', toList_fileStem, toList_fileStem] at hr
  simp only [List.append_assoc] at hr
  have hc := List.append_cancel_left hr
  exact String.toList_inj.mp (List.append_inj hc (by rw [ht.1, ht'.1])).1

theorem owns_streamName (s : Scratch) (label : String) (stream : Stream) :
    s.owns (s.streamName label stream) = true := by
  have hp : (fileStem s.token).toList.isPrefixOf (s.streamName label stream).toList = true := by
    rw [List.isPrefixOf_iff_prefix, toList_streamName]
    exact List.prefix_append _ _
  have hs : Path.suffix (s.streamName label stream) = stream.suffix := by
    have hn := toList_streamName s label stream
    rw [← List.append_assoc] at hn
    cases stream <;> exact Path.suffix_of_dot hn (by simp [toList_fileStem]) (by decide) (by decide)
  simp only [owns, hp, hs, Bool.true_and]
  cases stream <;> decide

end Scratch

end GuestRunner
