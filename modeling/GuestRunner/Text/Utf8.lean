import GuestRunner.Bytes

/-!
# UTF-8 with replacement

A byte string is cut from the left into pieces. A piece is either one well-formed sequence, which
stands for its scalar value, or a maximal ill-formed subpart, which stands for U+FFFD: the longest
proper start of a well-formed sequence that is found there, or one byte where none starts. The
ranges that a first byte allows after it leave out overlong forms, surrogates and everything above
U+10FFFF.
-/

set_option autoImplicit false

namespace GuestRunner.Text.Utf8

structure Span where
  low : UInt8
  high : UInt8
  deriving DecidableEq, Repr

def Span.holds (s : Span) (b : UInt8) : Bool := s.low ≤ b && b ≤ s.high

def tail : Span := ⟨0x80, 0xBF⟩

def spans (b : UInt8) : Option (List Span) :=
  if b ≤ 0x7F then some []
  else if b < 0xC2 then none
  else if b ≤ 0xDF then some [tail]
  else if b = 0xE0 then some [⟨0xA0, 0xBF⟩, tail]
  else if b = 0xED then some [⟨0x80, 0x9F⟩, tail]
  else if b ≤ 0xEF then some [tail, tail]
  else if b = 0xF0 then some [⟨0x90, 0xBF⟩, tail, tail]
  else if b ≤ 0xF3 then some [tail, tail, tail]
  else if b = 0xF4 then some [⟨0x80, 0x8F⟩, tail, tail]
  else none

def fitting : List Span → Bytes → Bytes
  | s :: spans, b :: rest => if s.holds b then b :: fitting spans rest else []
  | _, _ => []

def leadBits (b : UInt8) (following : Nat) : Nat :=
  match following with
  | 0 => b.toNat
  | 1 => b.toNat % 32
  | 2 => b.toNat % 16
  | _ => b.toNat % 8

def scalar (b : UInt8) (following : Bytes) : Char :=
  Char.ofNat (following.foldl (fun n c => n * 64 + c.toNat % 64) (leadBits b following.length))

def replacement : Char := '\uFFFD'

structure Piece where
  bytes : Bytes
  scalar? : Option Char
  deriving DecidableEq, Repr

def Piece.char (p : Piece) : Char := p.scalar?.getD replacement

def firstPiece (b : UInt8) (rest : Bytes) : Piece :=
  match spans b with
  | none => ⟨[b], none⟩
  | some expected =>
    let found := fitting expected rest
    if found.length = expected.length then ⟨b :: found, some (scalar b found)⟩
    else ⟨b :: found, none⟩

def pieces : Bytes → List Piece
  | [] => []
  | b :: rest =>
    let piece := firstPiece b rest
    piece :: pieces (rest.drop (piece.bytes.length - 1))
  termination_by bytes => bytes.length
  decreasing_by simp only [List.length_drop, List.length_cons]; omega

def decodeChars (bytes : Bytes) : List Char := (pieces bytes).map Piece.char

def decode (bytes : Bytes) : String := String.ofList (decodeChars bytes)

def decode? (bytes : Bytes) : Option String :=
  ((pieces bytes).mapM Piece.scalar?).map String.ofList

def encodeChar (c : Char) : Bytes :=
  let n := c.toNat
  if n < 0x80 then [UInt8.ofNat n]
  else if n < 0x800 then [UInt8.ofNat (0xC0 + n / 64), UInt8.ofNat (0x80 + n % 64)]
  else if n < 0x10000 then
    [UInt8.ofNat (0xE0 + n / 4096), UInt8.ofNat (0x80 + n / 64 % 64),
      UInt8.ofNat (0x80 + n % 64)]
  else
    [UInt8.ofNat (0xF0 + n / 262144), UInt8.ofNat (0x80 + n / 4096 % 64),
      UInt8.ofNat (0x80 + n / 64 % 64), UInt8.ofNat (0x80 + n % 64)]

def encodeChars (chars : List Char) : Bytes := chars.flatMap encodeChar

def encode (text : String) : Bytes := encodeChars text.toList

end GuestRunner.Text.Utf8
