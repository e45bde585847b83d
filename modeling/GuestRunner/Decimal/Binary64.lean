/-!
# Double-precision numbers

A number is a signed multiple of a power of two, an infinity or not a number. A finite one is kept
in its one normal form: at most 53 binary digits, exactly 53 unless the exponent is the least one.
`nearest` rounds any ratio of natural numbers to the closest such number, a tie to the even
neighbour. All of it is integer arithmetic, so that every result can be computed in a proof.
-/

set_option autoImplicit false

namespace GuestRunner

inductive Binary64
  | finite (negative : Bool) (mantissa : Nat) (exponent : Int)
  | infinite (negative : Bool)
  | nan
  deriving DecidableEq, Repr, Inhabited

namespace Binary64

def leastExponent : Int := -1074
def greatestExponent : Int := 971

def zero : Binary64 := .finite false 0 leastExponent

def scaled (num den : Nat) (e : Int) : Nat × Nat :=
  if 0 ≤ e then (num, den * Nat.pow 2 e.toNat) else (num * Nat.pow 2 (-e).toNat, den)

def roundHalfEven (num den : Nat) : Nat :=
  let q := num / den
  let twice := 2 * (num % den)
  if twice < den then q
  else if den < twice then q + 1
  else if q % 2 = 0 then q else q + 1

def exponentOf (num den : Nat) : Int :=
  let guess : Int := (num.log2 : Int) - den.log2 - 52
  let (n, d) := scaled num den guess
  let fitted := if n < d * Nat.pow 2 52 then guess - 1 else guess
  max fitted leastExponent

def nearest (negative : Bool) (num den : Nat) : Binary64 :=
  if num = 0 then .finite negative 0 leastExponent
  else
    let e := exponentOf num den
    let (n, d) := scaled num den e
    let m := roundHalfEven n d
    let (m, e) := if m = Nat.pow 2 53 then (Nat.pow 2 52, e + 1) else (m, e)
    if greatestExponent < e then .infinite negative else .finite negative m e

def ofInt (n : Int) : Binary64 := nearest (n < 0) n.natAbs 1

/-- Rounds `digits * 10 ^ exponent`. Far outside the range the answer is known without the power. -/
def ofDecimal (negative : Bool) (digits : Nat) (exponent : Int) : Binary64 :=
  let magnitude : Int := (digits.log2 : Int) * 3 / 10 + exponent
  if digits = 0 ∨ magnitude < -400 then .finite negative 0 leastExponent
  else if 400 < magnitude then .infinite negative
  else if 0 ≤ exponent then nearest negative (digits * Nat.pow 10 exponent.toNat) 1
  else nearest negative digits (Nat.pow 10 (-exponent).toNat)

def isFinite : Binary64 → Bool
  | .finite .. => true
  | _ => false

def isPositive : Binary64 → Bool
  | .finite negative mantissa _ => !negative && mantissa != 0
  | .infinite negative => !negative
  | .nan => false

def isZero : Binary64 → Bool
  | .finite _ mantissa _ => mantissa == 0
  | _ => false

def toInt? : Binary64 → Option Int
  | .finite negative mantissa exponent =>
    let (n, d) := scaled mantissa 1 (-exponent)
    if n % d = 0 then some (if negative then -(n / d : Nat) else (n / d : Nat)) else none
  | _ => none

def timesNat (n : Nat) : Binary64 → Binary64
  | .finite negative mantissa exponent =>
    let (num, den) := scaled (mantissa * n) 1 (-exponent)
    if num = 0 then .finite negative 0 leastExponent else nearest negative num den
  | x => if n = 0 then .nan else x

example : ofInt 1 = .finite false 4503599627370496 (-52) := by decide +kernel
example : ofDecimal false 1 (-1) = .finite false 7205759403792794 (-56) := by decide +kernel
example : ofDecimal false 5 (-324) = .finite false 1 (-1074) := by decide +kernel
example : ofDecimal false 1 400 = .infinite false := by decide +kernel
example : (ofDecimal true 25 (-1)).toInt? = none := by decide +kernel
example : (ofDecimal true 250 (-1)).toInt? = some (-25) := by decide +kernel

end Binary64

end GuestRunner
