/-!
# Byte strings

Everything a guest reads or writes is a list of bytes. The hexadecimal form is the one digests
are printed in: two lower-case digits a byte.
-/

set_option autoImplicit false

namespace GuestRunner

abbrev Bytes := List UInt8

namespace Bytes

def overlaid (content : Bytes) (position : Nat) (chunk : Bytes) : Bytes :=
  content.take position ++ List.replicate (position - content.length) 0 ++ chunk ++
    content.drop (position + chunk.length)

theorem overlaid_length_self (content chunk : Bytes) :
    content.overlaid content.length chunk = content ++ chunk := by
  simp [overlaid]

def lastDigits (base width n : Nat) : List Nat :=
  (List.range width).reverse.map fun i => n / Nat.pow base i % base

def hexDigits : List Char :=
  ['0', '1', '2', '3', '4', '5', '6', '7', '8', '9', 'a', 'b', 'c', 'd', 'e', 'f']

def hexDigit (n : Nat) : Char := hexDigits.getD n '0'

def hexPair (b : UInt8) : List Char := [hexDigit (b.toNat / 16), hexDigit (b.toNat % 16)]

def toHex (bytes : Bytes) : String := String.ofList (bytes.flatMap hexPair)

def hexValue? (c : Char) : Option Nat :=
  if '0' ≤ c ∧ c ≤ '9' then some (c.toNat - 48)
  else if 'a' ≤ c ∧ c ≤ 'f' then some (c.toNat - 87)
  else if 'A' ≤ c ∧ c ≤ 'F' then some (c.toNat - 55)
  else none

def ofHexDigits? : List Char → Option Bytes
  | [] => some []
  | [_] => none
  | a :: b :: rest => do
    let high ← hexValue? a
    let low ← hexValue? b
    return UInt8.ofNat (16 * high + low) :: (← ofHexDigits? rest)

def ofHex? (text : String) : Option Bytes := ofHexDigits? text.toList

theorem length_hexDigits (bytes : Bytes) : (bytes.flatMap hexPair).length = 2 * bytes.length := by
  induction bytes with
  | nil => rfl
  | cons b rest ih => simp only [List.flatMap_cons, List.length_append, ih]; simp [hexPair]; omega

end Bytes

end GuestRunner
