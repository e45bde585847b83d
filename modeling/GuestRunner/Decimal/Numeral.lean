import GuestRunner.Decimal.Binary64

/-!
# Numerals

The texts that settings accept as numbers, besides the plain ones. An integer may have blanks around
it, a plus, zeros in front and a point with zeros behind, and one underscore between two digits. A
number may have blanks around it or underscores inside, but not both. Its plain forms have a point
and an exponent if need be, and there are the names of infinity and of not-a-number in any case.
-/

set_option autoImplicit false

namespace GuestRunner.Decimal.Numeral

def isBlank (c : Char) : Bool :=
  let n := c.toNat
  (9 ≤ n && n ≤ 13) || n == 0x20 || n == 0x85 || n == 0xA0 || n == 0x1680 ||
    (0x2000 ≤ n && n ≤ 0x200A) || n == 0x2028 || n == 0x2029 || n == 0x202F || n == 0x205F ||
    n == 0x3000

def trim (chars : List Char) : List Char :=
  ((chars.dropWhile isBlank).reverse.dropWhile isBlank).reverse

def digit? (c : Char) : Option Nat :=
  if '0' ≤ c ∧ c ≤ '9' then some (c.toNat - 48) else none

def isDigit (c : Char) : Bool := (digit? c).isSome

def digits (cs : List Char) : List Nat × List Char :=
  ((cs.takeWhile isDigit).filterMap digit?, cs.dropWhile isDigit)

def value (ds : List Nat) : Nat := ds.foldl (fun n d => n * 10 + d) 0

def sign : List Char → Bool × List Char
  | '-' :: rest => (true, rest)
  | '+' :: rest => (false, rest)
  | rest => (false, rest)

/-- The most digits of an integer that is read from a text or written as one; a minus does not
count. -/
def longestInteger : Nat := 4300

inductive IntegerReading
  | value (n : Int)
  | tooLong
  | unreadable
  deriving DecidableEq, Repr

/-- An integer without any liberties: a minus or nothing, then digits that start with a zero only if
there is no other. Where too many digits come first, it does not matter what follows. -/
def plainInteger (cs : List Char) : IntegerReading :=
  let (negative, body) :=
    match cs with
    | '-' :: rest => (true, rest)
    | rest => (false, rest)
  let (ds, left) := digits body
  match ds with
  | [] => .unreadable
  | 0 :: more => if more.isEmpty && left.isEmpty then .value 0 else .unreadable
  | ds =>
    if longestInteger < ds.length then .tooLong
    else if !left.isEmpty then .unreadable
    else .value (if negative then -(value ds : Int) else value ds)

def withoutFraction (cs : List Char) : List Char :=
  match cs.dropWhile (· ≠ '.') with
  | '.' :: zeros =>
    if !zeros.isEmpty && zeros.all (· = '0') then cs.takeWhile (· ≠ '.') else cs
  | _ => cs

def skipZeros (last : Char) : List Char → Option (List Char)
  | [] => some [last]
  | c :: rest =>
    if c = '0' ∨ c = '_' then skipZeros c rest
    else if isDigit c || c == '-' then some (c :: rest)
    else none

def withoutZeros : List Char → Option (List Char)
  | [] => none
  | c :: rest =>
    if c = '0' then skipZeros c rest
    else if isDigit c || c == '-' then some (c :: rest)
    else none

def doubled : List Char → Bool
  | '_' :: '_' :: _ => true
  | _ :: rest => doubled rest
  | [] => false

def withoutUnderscores (cs : List Char) : Option (List Char) :=
  if cs.contains '_' && cs.head? != some '_' && cs.getLast? != some '_' && !doubled cs then
    some (cs.filter (· ≠ '_'))
  else none

def simplified (cs : List Char) : Option (List Char) := do
  let (negative, body) ←
    match withoutFraction (trim cs) with
    | '+' :: '-' :: _ => none
    | '+' :: rest => some (false, rest)
    | '-' :: rest => some (true, rest)
    | rest => some (false, rest)
  let body ← withoutZeros body
  let cs := if negative then '-' :: body else body
  return (withoutUnderscores cs).getD cs

/-- Only a text that is a plain integer as it stands can be too long; one that has too many digits
once its liberties are taken away is not read as an integer at all. -/
def readInteger (text : String) : IntegerReading :=
  match plainInteger text.toList with
  | .unreadable =>
    match (simplified text.toList).map plainInteger with
    | some (.value n) => .value n
    | _ => .unreadable
  | reading => reading

def lower (chars : List Char) : List Char := chars.map Char.toLower

def exponent? : List Char → Option (Int × List Char)
  | [] => some (0, [])
  | c :: rest =>
    if c = 'e' ∨ c = 'E' then
      let (negative, body) := sign rest
      let (ds, left) := digits body
      if ds.isEmpty then none
      else some (if negative then -(value ds : Int) else value ds, left)
    else some (0, c :: rest)

def plainNumber? (cs : List Char) : Option Binary64 :=
  let (negative, body) := sign cs
  let name := String.ofList (lower body)
  if name = "inf" ∨ name = "infinity" then some (.infinite negative)
  else if name = "nan" then some .nan
  else
    let (whole, left) := digits body
    let (fraction, left) := match left with
      | '.' :: rest => digits rest
      | _ => ([], left)
    if whole.isEmpty && fraction.isEmpty then none
    else
      match exponent? left with
      | some (e, []) =>
        some (Binary64.ofDecimal negative (value (whole ++ fraction)) (e - fraction.length))
      | _ => none

def readNumber? (text : String) : Option Binary64 :=
  (plainNumber? (trim text.toList)).or ((withoutUnderscores text.toList).bind plainNumber?)

example : readInteger " -1_000.00\n" = .value (-1000) := by decide +kernel
example : readInteger "1__0" = .unreadable ∧ readInteger "1." = .unreadable := by decide +kernel
example : readInteger "-00__7" = .value (-7) ∧ readInteger "0_" = .unreadable := by decide +kernel
example : readInteger "0-5" = .value (-5) ∧ readInteger "+-5" = .unreadable := by decide +kernel
example : readNumber? "1_0.5e-_1" = readNumber? " 1.05 " := by decide +kernel
example : readNumber? " 1_0" = none ∧ readNumber? "1__0" = none := by decide +kernel
example : readNumber? "0x1p3" = none ∧ readNumber? "." = none := by decide +kernel

end GuestRunner.Decimal.Numeral
