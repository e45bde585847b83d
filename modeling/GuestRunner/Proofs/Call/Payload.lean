import GuestRunner.Proofs.Text.Pieces

/-!
# What payloads denote

The bytes that a payload denotes, said without the way in which they are found: a text denotes its
sequences, and a member of a closed choice is a text; a number denotes that many zeros, and a list
the bytes that its items are. Reading a payload gives just these bytes, and refuses what denotes
none.
-/

set_option autoImplicit false

namespace GuestRunner

inductive Value.IsByte : Value → UInt8 → Prop
  | number (b : UInt8) : IsByte (.int b.toNat) b
  | truth (b : Bool) : IsByte (.bool b) (if b then 1 else 0)

def Text.sequences (text : String) : Bytes := text.toList.flatMap String.utf8EncodeChar

namespace Payload

inductive Denotes : Value → Bytes → Prop
  | text (s : String) : Denotes (.text s) (Text.sequences s)
  | capture (kind : CaptureKind) : Denotes (.capture kind) (Text.sequences kind.label)
  | engine (kind : EngineKind) : Denotes (.engine kind) (Text.sequences kind.label)
  | path (p : Path) : Denotes (.path p) (Text.sequences p.text)
  | bytes (kind : ByteKind) (content : Bytes) : Denotes (.bytes kind content) content
  | count (n : Nat) (h : n ≤ 9223372036854775807) : Denotes (.int n) (List.replicate n 0)
  | truth (b : Bool) : Denotes (.bool b) (if b then [0] else [])
  | list {items : List Value} {content : Bytes} (h : List.Forall₂ Value.IsByte items content) :
    Denotes (.list items) content
  | tuple {items : List Value} {content : Bytes} (h : List.Forall₂ Value.IsByte items content) :
    Denotes (.tuple items) content
  | table {entries : List (Value × Value)} {content : Bytes}
    (h : List.Forall₂ Value.IsByte (entries.map Prod.fst) content) :
      Denotes (.table entries) content

theorem encode_sequences (text : String) : Text.Utf8.encode text = Text.sequences text :=
  List.flatMap_congr fun c _ => Text.Utf8.encodeChar_eq c

variable {v : Value} {content : Bytes}

theorem byteOf_ok {n : Int} {b : UInt8} : byteOf n = .ok b ↔ n = b.toNat := by
  unfold byteOf
  constructor
  · intro h
    split at h <;> rename_i hn
    · cases h
      rw [UInt8.toNat_ofNat']
      omega
    · cases h
  · rintro rfl
    rw [if_pos ⟨by omega, by have := b.toNat_lt; omega⟩, Int.toNat_natCast, UInt8.ofNat_toNat]

theorem itemByte_ok {b : UInt8} : itemByte v = .ok b ↔ v.IsByte b := by
  constructor
  · intro h
    cases v with
    | int n =>
      obtain rfl := byteOf_ok.mp h
      exact .number b
    | bool truth =>
      cases truth <;> cases h
      · exact .truth false
      · exact .truth true
    | _ => cases h
  · intro h
    cases h with
    | number b => exact byteOf_ok.mpr rfl
    | truth truth => cases truth <;> rfl

theorem mapM_itemByte {α : Type} {f : α → Value} {items : List α} :
    items.mapM (fun a => itemByte (f a)) = .ok content ↔
      List.Forall₂ Value.IsByte (items.map f) content := by
  induction items generalizing content with
  | nil =>
    rw [List.mapM_nil, List.map_nil, List.forall₂_nil_left_iff]
    exact ⟨fun h => (Except.ok.inj h).symm, fun h => congrArg Except.ok h.symm⟩
  | cons a rest ih =>
    rw [List.mapM_cons, List.map_cons, List.forall₂_cons_left_iff]
    constructor
    · intro h
      cases ha : itemByte (f a) with
      | error refusal =>
        rw [ha] at h
        cases h
      | ok b =>
        cases hr : rest.mapM fun a => itemByte (f a) with
        | error refusal =>
          rw [ha, hr] at h
          cases h
        | ok bs =>
          rw [ha, hr] at h
          cases h
          exact ⟨b, bs, itemByte_ok.mp ha, ih.mp hr, rfl⟩
    · rintro ⟨b, bs, hb, hbs, rfl⟩
      rw [itemByte_ok.mpr hb, ih.mpr hbs]
      rfl

theorem zeros_ok {n : Int} : zeros n = .ok content ↔
    ∃ k : Nat, n = k ∧ k ≤ 9223372036854775807 ∧ content = List.replicate k 0 := by
  unfold zeros longest
  constructor
  · intro h
    split at h
    · cases h
    · split at h
      · cases h
      · cases h
        exact ⟨n.toNat, by omega, by omega, rfl⟩
  · rintro ⟨k, rfl, hk, rfl⟩
    rw [if_neg (by omega), if_neg (by omega), Int.toNat_natCast]

theorem bytes_ok : bytes v = .ok content ↔ Denotes v content := by
  constructor
  · intro h
    cases v with
    | text s =>
      cases h
      exact encode_sequences s ▸ .text s
    | capture kind =>
      cases h
      exact encode_sequences kind.label ▸ .capture kind
    | engine kind =>
      cases h
      exact encode_sequences kind.label ▸ .engine kind
    | path p =>
      cases h
      exact encode_sequences p.text ▸ .path p
    | bytes kind b =>
      cases h
      exact .bytes kind content
    | int n =>
      obtain ⟨k, rfl, hk, rfl⟩ := zeros_ok.mp h
      exact .count k hk
    | bool b => cases b <;> cases h <;> exact .truth _
    | list items => exact .list (List.map_id items ▸ mapM_itemByte.mp h)
    | tuple items => exact .tuple (List.map_id items ▸ mapM_itemByte.mp h)
    | table entries => exact .table (mapM_itemByte.mp h)
    | _ => cases h
  · intro h
    cases h with
    | text s => exact congrArg Except.ok (encode_sequences s)
    | capture kind => exact congrArg Except.ok (encode_sequences kind.label)
    | engine kind => exact congrArg Except.ok (encode_sequences kind.label)
    | path p => exact congrArg Except.ok (encode_sequences p.text)
    | bytes kind => rfl
    | count n h => exact zeros_ok.mpr ⟨n, rfl, h, rfl⟩
    | truth b => cases b <;> rfl
    | list h => exact mapM_itemByte.mpr ((List.map_id _).symm ▸ h)
    | tuple h => exact mapM_itemByte.mpr ((List.map_id _).symm ▸ h)
    | table h => exact mapM_itemByte.mpr h

theorem bytes_error : (∃ refusal, bytes v = .error refusal) ↔ ∀ content, ¬ Denotes v content := by
  constructor
  · rintro ⟨refusal, h⟩ content hd
    rw [bytes_ok.mpr hd] at h
    cases h
  · intro h
    cases hb : bytes v with
    | error refusal => exact ⟨refusal, rfl⟩
    | ok content => exact absurd (bytes_ok.mp hb) (h content)

end Payload

end GuestRunner
