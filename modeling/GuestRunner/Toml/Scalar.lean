import GuestRunner.Decimal.Numeral
import GuestRunner.Toml.Text
import GuestRunner.Value

/-!
# Numbers, dates and times of a TOML document

A date or time counts only if it exists in the calendar; of its value nothing but the kind is kept,
since no setting holds one. An underscore may stand between two digits of a number. A decimal
integer with too many digits is a fault of its own, which ends the reading wherever it stands.
-/

set_option autoImplicit false

namespace GuestRunner.Toml

inductive Fault
  | malformed
  | integerTooLong (digits : Nat)
  deriving DecidableEq, Repr

def orMalformed {α : Type} : Option α → Except Fault α
  | some a => .ok a
  | none => .error .malformed

instance : MonadLift Option (Except Fault) := ⟨orMalformed⟩

def fixed (width low high : Nat) (cs : List Char) : Option (Nat × List Char) := do
  let digits := cs.take width
  guard (digits.length = width)
  let values ← digits.mapM Decimal.Numeral.digit?
  let n := Decimal.Numeral.value values
  guard (low ≤ n ∧ n ≤ high)
  return (n, cs.drop width)

def exactly (c : Char) : List Char → Option (List Char)
  | d :: rest => if c = d then some rest else none
  | [] => none

def isLeapYear (y : Nat) : Bool := y % 4 == 0 && (y % 100 != 0 || y % 400 == 0)

def daysIn (year month : Nat) : Nat :=
  if month = 2 then (if isLeapYear year then 29 else 28)
  else if month ∈ [4, 6, 9, 11] then 30
  else 31

structure Date where
  year : Nat
  month : Nat
  day : Nat

def Date.exists? (d : Date) : Bool := 1 ≤ d.year && d.day ≤ daysIn d.year d.month

def date (cs : List Char) : Option (Date × List Char) := do
  let (year, cs) ← fixed 4 0 9999 cs
  let cs ← exactly '-' cs
  let (month, cs) ← fixed 2 1 12 cs
  let cs ← exactly '-' cs
  let (day, cs) ← fixed 2 1 31 cs
  return (⟨year, month, day⟩, cs)

def fraction : List Char → List Char
  | '.' :: c :: rest => if (Decimal.Numeral.digit? c).isSome then
      rest.dropWhile fun c => (Decimal.Numeral.digit? c).isSome
    else '.' :: c :: rest
  | cs => cs

def time (cs : List Char) : Option (List Char) := do
  let (_, cs) ← fixed 2 0 23 cs
  let cs ← exactly ':' cs
  let (_, cs) ← fixed 2 0 59 cs
  let cs ← exactly ':' cs
  let (_, cs) ← fixed 2 0 59 cs
  return fraction cs

def zoneOffset (cs : List Char) : Option (List Char) := do
  let (_, cs) ← fixed 2 0 23 cs
  let cs ← exactly ':' cs
  let (_, cs) ← fixed 2 0 59 cs
  return cs

def zone : List Char → List Char
  | [] => []
  | c :: rest =>
    if c = 'Z' ∨ c = 'z' then rest
    else if c = '+' ∨ c = '-' then (zoneOffset rest).getD (c :: rest)
    else c :: rest

def timeAfterDate : List Char → Option (List Char)
  | c :: rest => if c = 'T' ∨ c = 't' ∨ c = ' ' then (time rest).map zone else none
  | [] => none

inductive MomentReading
  | none
  | invalid
  | moment (kind : MomentKind) (left : List Char)

def moment (cs : List Char) : MomentReading :=
  match date cs with
  | some (d, left) =>
    if !d.exists? then .invalid
    else
      match timeAfterDate left with
      | some left => .moment .dateTime left
      | Option.none => .moment .date left
  | Option.none =>
    match time cs with
    | some left => .moment .time left
    | Option.none => .none

def digitIn? (base : Nat) (c : Char) : Option Nat :=
  (Bytes.hexValue? c).bind fun d => if d < base then some d else none

def moreDigitsIn (base : Nat) : List Char → List Nat × List Char
  | '_' :: c :: rest =>
    match digitIn? base c with
    | some d =>
      let (ds, left) := moreDigitsIn base rest
      (d :: ds, left)
    | none => ([], '_' :: c :: rest)
  | c :: rest =>
    match digitIn? base c with
    | some d =>
      let (ds, left) := moreDigitsIn base rest
      (d :: ds, left)
    | none => ([], c :: rest)
  | [] => ([], [])

def digitsIn (base : Nat) : List Char → List Nat × List Char
  | [] => ([], [])
  | c :: rest =>
    match digitIn? base c with
    | some d =>
      let (ds, left) := moreDigitsIn base rest
      (d :: ds, left)
    | none => ([], c :: rest)

def digits (cs : List Char) : List Nat × List Char := digitsIn 10 cs

def basedInteger : List Char → Option (Int × List Char)
  | '0' :: letter :: rest => do
    let base ← if letter = 'x' then some 16 else if letter = 'b' then some 2
      else if letter = 'o' then some 8 else none
    let (ds, left) := digitsIn base rest
    guard !ds.isEmpty
    return ((ds.foldl (fun n d => n * base + d) 0 : Nat), left)
  | _ => none

def wholePart : List Char → Option (List Nat × List Char)
  | '0' :: rest => some ([0], rest)
  | cs =>
    let (ds, left) := digits cs
    if ds.isEmpty then none else some (ds, left)

def fractionPart : List Char → Option (List Nat × List Char)
  | '.' :: rest =>
    let (ds, left) := digits rest
    if ds.isEmpty then none else some (ds, left)
  | _ => none

def exponentPart : List Char → Option (Int × List Char)
  | c :: rest =>
    if c = 'e' ∨ c = 'E' then
      let (negative, rest) := Decimal.Numeral.sign rest
      let (ds, left) := digits rest
      let n : Int := Decimal.Numeral.value ds
      if ds.isEmpty then none else some (if negative then -n else n, left)
    else none
  | [] => none

def decimal (cs : List Char) : Except Fault (Value × List Char) := do
  let (negative, cs) := Decimal.Numeral.sign cs
  let (whole, cs) ← wholePart cs
  let fraction? := fractionPart cs
  let (fraction, cs) := fraction?.getD ([], cs)
  let exponent? := exponentPart cs
  let (exponent, cs) := exponent?.getD (0, cs)
  if fraction?.isNone && exponent?.isNone then
    if Decimal.Numeral.longestInteger < whole.length then throw (.integerTooLong whole.length)
    let n : Int := Decimal.Numeral.value whole
    return (.int (if negative then -n else n), cs)
  else
    let digits := Decimal.Numeral.value (whole ++ fraction)
    return (.float (Binary64.ofDecimal negative digits (exponent - fraction.length)), cs)

def startsWith (word : String) (cs : List Char) : Option (List Char) :=
  if word.toList.isPrefixOf cs then some (cs.drop word.length) else none

def namedNumber (cs : List Char) : Option (Value × List Char) :=
  let (negative, body) := Decimal.Numeral.sign cs
  match startsWith "inf" body with
  | some left => some (.float (.infinite negative), left)
  | none => (startsWith "nan" body).map fun left => (.float .nan, left)

def number (cs : List Char) : Except Fault (Value × List Char) :=
  match basedInteger cs, namedNumber cs with
  | some (n, left), _ => .ok (.int n, left)
  | none, some named => .ok named
  | none, none => decimal cs

def scalar (cs : List Char) : Except Fault (Value × List Char) :=
  match moment cs with
  | .invalid => .error .malformed
  | .moment kind left => .ok (.moment kind, left)
  | .none => number cs

end GuestRunner.Toml
