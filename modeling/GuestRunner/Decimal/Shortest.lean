import GuestRunner.Decimal.Binary64

/-!
# Shortest decimal text of a double

The digits are the fewest that read back as the same number, and of those the nearest to it; between
two equally near ones the last digit is even. A `Layout` says where positional notation ends and how
an exponent is written.
-/

set_option autoImplicit false

namespace GuestRunner.Decimal.Shortest

def pointOf (num den : Nat) : Int :=
  let guess : Int := (toString num).length - (toString den).length
  let (n, d) := if 0 ≤ guess then (num, den * Nat.pow 10 guess.toNat)
    else (num * Nat.pow 10 (-guess).toNat, den)
  if n < d then guess else guess + 1

structure Digits where
  value : Nat
  /-- The power of ten that the value is multiplied by. -/
  exponent : Int
  deriving DecidableEq, Repr

def Digits.readsBack (d : Digits) (mantissa : Nat) (exponent : Int) : Bool :=
  Binary64.ofDecimal false d.value d.exponent == .finite false mantissa exponent

/-- The neighbours of a number on the grid of `count` digits, the nearer one first and of two
equally near ones the even one. -/
def neighbours (num den : Nat) (point : Int) (count : Nat) : List Digits :=
  let e := point - count
  let (n, d) :=
    if 0 ≤ e then (num, den * Nat.pow 10 e.toNat) else (num * Nat.pow 10 (-e).toNat, den)
  let low : Digits := ⟨n / d, e⟩
  let high : Digits := ⟨n / d + 1, e⟩
  let twice := 2 * (n % d)
  if twice < d ∨ (twice = d ∧ n / d % 2 = 0) then [low, high] else [high, low]

def digits (mantissa : Nat) (exponent : Int) : Digits :=
  let (num, den) := Binary64.scaled mantissa 1 (-exponent)
  let point := pointOf num den
  let candidates := (List.range 17).flatMap fun i => neighbours num den point (i + 1)
  (candidates.find? fun d => d.readsBack mantissa exponent).getD ⟨mantissa, exponent⟩

structure Layout where
  /-- The least decimal exponent that is written positionally. -/
  least : Int
  /-- The first decimal exponent that is not. -/
  limit : Int
  exponentDigits : Nat

def Layout.standard : Layout := ⟨-4, 16, 2⟩

def padded (width n : Nat) : List Char :=
  let s := (toString n).toList
  List.replicate (width - s.length) '0' ++ s

def dropTrailingZeros (ds : List Char) : List Char :=
  (ds.reverse.dropWhile (· = '0')).reverse

def Layout.positional (ds : List Char) (point : Int) : List Char :=
  if point ≤ 0 then '0' :: '.' :: List.replicate (-point).toNat '0' ++ ds
  else
    let whole := ds.take point.toNat ++ List.replicate (point.toNat - ds.length) '0'
    let fraction := ds.drop point.toNat
    whole ++ '.' :: (if fraction.isEmpty then ['0'] else fraction)

def Layout.scientific (layout : Layout) (ds : List Char) (e : Int) : List Char :=
  let fraction := ds.drop 1
  ds.take 1 ++ (if fraction.isEmpty then [] else '.' :: fraction) ++
    'e' :: (if e < 0 then '-' else '+') :: padded layout.exponentDigits e.natAbs

def Layout.render (layout : Layout) (d : Digits) : List Char :=
  let all := (toString d.value).toList
  let point : Int := all.length + d.exponent
  let ds := dropTrailingZeros all
  if layout.least ≤ point - 1 ∧ point - 1 < layout.limit then Layout.positional ds point
  else layout.scientific ds (point - 1)

def chars : Binary64 → List Char
  | .nan => ['n', 'a', 'n']
  | .infinite negative => (if negative then ['-'] else []) ++ ['i', 'n', 'f']
  | .finite negative mantissa exponent =>
    (if negative then ['-'] else []) ++
      if mantissa = 0 then ['0', '.', '0']
      else Layout.standard.render (digits mantissa exponent)

def text (x : Binary64) : String := String.ofList (chars x)

example : text (Binary64.ofDecimal false 25 (-2)) = "0.25" := by decide +kernel
example : text (Binary64.ofDecimal true 15 15) = "-1.5e+16" := by decide +kernel

end GuestRunner.Decimal.Shortest
