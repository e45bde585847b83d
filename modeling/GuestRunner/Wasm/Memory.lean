import GuestRunner.Bytes

/-!
# Guest memory

A memory has a number of pages, of which only a beginning is kept; all bytes behind it are zero. An
access that does not lie within the pages is refused as a whole. Growing takes effect only up to the
most pages that are allowed.
-/

set_option autoImplicit false

namespace GuestRunner.Wasm

structure Memory where
  pages : Nat
  most : Nat
  kept : ByteArray

namespace Memory

def pageSize : Nat := 65536

def empty (pages most : Nat) : Memory := ⟨pages, most, ByteArray.empty⟩

def size (m : Memory) : Nat := m.pages * pageSize

def byteAt (m : Memory) (address : Nat) : UInt8 :=
  if h : address < m.kept.size then m.kept[address] else 0

def zeros (n : Nat) : ByteArray := ⟨Array.replicate n 0⟩

def setByte (m : Memory) (address : Nat) (b : UInt8) : Memory :=
  if h : address < m.kept.size then { m with kept := m.kept.set address b h }
  else { m with kept := (m.kept ++ zeros (address - m.kept.size)).push b }

def fits (m : Memory) (address count : Nat) : Bool := address + count ≤ m.size

def bytesAt (m : Memory) (address : Nat) : Nat → Bytes
  | 0 => []
  | n + 1 => m.byteAt address :: bytesAt m (address + 1) n

def setBytes (m : Memory) (address : Nat) : Bytes → Memory
  | [] => m
  | b :: rest => setBytes (m.setByte address b) (address + 1) rest

def read? (m : Memory) (address count : Nat) : Option Bytes :=
  if m.fits address count then some (m.bytesAt address count) else none

def write? (m : Memory) (address : Nat) (content : Bytes) : Option Memory :=
  if m.fits address content.length then some (m.setBytes address content) else none

def numberOf : Bytes → Nat
  | [] => 0
  | b :: rest => b.toNat + 256 * numberOf rest

def bytesOfNumber : Nat → Nat → Bytes
  | 0, _ => []
  | width + 1, n => UInt8.ofNat (n % 256) :: bytesOfNumber width (n / 256)

def load? (m : Memory) (address width : Nat) : Option UInt32 :=
  (m.read? address width).map fun content => UInt32.ofNat (numberOf content)

def store? (m : Memory) (address width : Nat) (n : UInt32) : Option Memory :=
  m.write? address (bytesOfNumber width n.toNat)

def grow? (m : Memory) (more : Nat) : Option Memory :=
  if m.pages + more ≤ m.most then some { m with pages := m.pages + more } else none

theorem bytesOfNumber_length (width n : Nat) : (bytesOfNumber width n).length = width := by
  induction width generalizing n with
  | zero => rfl
  | succ width ih => simp [bytesOfNumber, ih]

theorem numberOf_bytesOfNumber (width n : Nat) (h : n < Nat.pow 256 width) :
    numberOf (bytesOfNumber width n) = n := by
  induction width generalizing n with
  | zero =>
    have hn : n < 1 := h
    simp only [bytesOfNumber, numberOf]
    omega
  | succ width ih =>
    have hd : n / 256 < Nat.pow 256 width := (Nat.div_lt_iff_lt_mul (by decide)).2 h
    simp only [bytesOfNumber, numberOf, ih _ hd, UInt8.toNat_ofNat']
    omega

end Memory

end GuestRunner.Wasm
