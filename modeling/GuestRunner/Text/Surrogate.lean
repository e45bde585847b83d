import GuestRunner.Bytes

/-!
# Lone surrogates

A text from outside may hold halves of surrogate pairs that lack their other half. They are no
characters, so that such a text is kept with a stand-in for each, at a fixed distance in a plane
where nothing is assigned. It has no UTF-8 form. In a path a half stands for a byte that belongs to
no character, so that it is part of a name like any other.
-/

set_option autoImplicit false

namespace GuestRunner.Text.Surrogate

def first : Nat := 0xD800
def last : Nat := 0xDFFF

def distance : Nat := 0xD0000

def isStandIn (c : Char) : Bool := distance + first ≤ c.toNat && c.toNat ≤ distance + last

def standIn (half : Nat) : Char := Char.ofNat (distance + half)

def half (c : Char) : Nat := c.toNat - distance

def isWithin (text : String) : Bool := text.toList.any isStandIn

def shownHalf (c : Char) : List Char :=
  '\\' :: 'u' :: (Bytes.lastDigits 16 4 (half c)).map Bytes.hexDigit

def firstRun (text : String) : Nat × Nat :=
  let before := text.toList.takeWhile (!isStandIn ·)
  (before.length, ((text.toList.drop before.length).takeWhile isStandIn).length)

/-- What a reader of UTF-8 makes of the bytes that a text with halves of pairs was written as: each
half took three bytes, and none of them belongs to a character. -/
def replaced (text : String) : String :=
  String.ofList (text.toList.flatMap fun c =>
    if isStandIn c then List.replicate 3 '\uFFFD' else [c])

theorem half_standIn (n : Nat) (low : first ≤ n) (high : n ≤ last) : half (standIn n) = n := by
  have hf : first = 55296 := rfl
  have hl : last = 57343 := rfl
  have hd : distance = 851968 := rfl
  have hv : (distance + n).isValidChar := Or.inr ⟨by omega, by omega⟩
  have hc : (standIn n).toNat = distance + n := by
    rw [standIn, Char.ofNat, dif_pos hv]
    rfl
  rw [half, hc]
  omega

end GuestRunner.Text.Surrogate
