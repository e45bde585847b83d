import GuestRunner.Decimal.Numeral
import GuestRunner.Settings.Defect
import GuestRunner.Text.Utf8
import GuestRunner.Value

/-!
# Lenient readers

One reader for each type a field can have. A reader takes every value that denotes one of the type
without loss, a numeral in a text for instance, and otherwise names what is wrong with the value.
-/

set_option autoImplicit false

namespace GuestRunner.Settings.Reading

inductive Carried
  | text (s : String)
  /-- A text without a UTF-8 form. -/
  | unencodable (s : String)
  /-- Bytes that are no UTF-8. -/
  | undecodable
  | none

def carried : Value → Carried
  | .brokenText s => .unencodable s
  | .bytes .fixed b | .bytes .growable b =>
    match Text.Utf8.decode? b with
    | some s => .text s
    | Option.none => .undecodable
  | v =>
    match v.text? with
    | some s => .text s
    | Option.none => .none

def carriedWord : Value → Carried
  | .bytes .growable _ => .none
  | v => carried v

/-- A field without conditions takes a text with lone surrogates as it is. -/
def text (v : Value) : Except Complaint String :=
  match carried v with
  | .text s | .unencodable s => .ok s
  | .undecodable => .error .undecodableText
  | .none => .error .notText

def encodableText (v : Value) : Except Complaint String :=
  match carried v with
  | .text s => .ok s
  | .unencodable _ | .undecodable => .error .undecodableText
  | .none => .error .notText

def bytes : Value → Except Complaint Bytes
  | .bytes .fixed b | .bytes .growable b => .ok b
  | .brokenText _ => .error .undecodableText
  | v =>
    match v.text? with
    | some s => .ok (Text.Utf8.encode s)
    | none => .error .notBytes

def integerOfText (s : String) : Except Complaint Int :=
  match Decimal.Numeral.readInteger s with
  | .value n => .ok n
  | .tooLong => .error .oversizedInteger
  | .unreadable => .error .unreadableInteger

def wordBound : Int := 9223372036854775808

def fitsWord (n : Int) : Bool := -wordBound ≤ n && n < wordBound

def integerOfNumber (x : Binary64) : Except Complaint Int :=
  if x.isFinite then
    match x.toInt? with
    | some n => if -wordBound < n ∧ n < wordBound then .ok n else .error .oversizedInteger
    | none => .error .fractionalInteger
  else .error .notFinite

def integer (v : Value) : Except Complaint Int :=
  match v with
  | .int n => .ok n
  | .bool b => .ok (if b then 1 else 0)
  | .float x => integerOfNumber x
  | v =>
    match carriedWord v with
    | .text s => integerOfText s
    | .unencodable _ => .error .undecodableText
    | .undecodable => .error .unreadableInteger
    | .none => .error .notInteger

def positiveInteger (v : Value) : Except Complaint Nat := do
  let n ← integer v
  if 0 < n then .ok n.toNat else .error .notPositive

def number (v : Value) : Except Complaint Binary64 :=
  match v with
  | .float x => .ok x
  | .int n =>
    let x := Binary64.ofInt n
    if x.isFinite then .ok x else .error .notNumber
  | .bool b => .ok (Binary64.ofInt (if b then 1 else 0))
  | v =>
    match carriedWord v with
    | .text s =>
      match Decimal.Numeral.readNumber? s with
      | some x => .ok x
      | Option.none => .error .unreadableNumber
    | .unencodable _ => .error .undecodableText
    | .undecodable => .error .unreadableNumber
    | .none => .error .notNumber

def positiveNumber (v : Value) : Except Complaint Binary64 := do
  let x ← number v
  if x.isPositive then .ok x else .error .notPositive

def falseWords : List String := ["0", "off", "f", "false", "n", "no"]
def trueWords : List String := ["1", "on", "t", "true", "y", "yes"]

def booleanOfText (s : String) : Except Complaint Bool :=
  let word := String.ofList (s.toList.map Char.toLower)
  if word ∈ trueWords then .ok true
  else if word ∈ falseWords then .ok false
  else .error .unreadableBoolean

def booleanOfInteger (n : Int) : Except Complaint Bool :=
  if n = 0 then .ok false else if n = 1 then .ok true else .error .unreadableBoolean

def boolean (v : Value) : Except Complaint Bool :=
  match v with
  | .bool b => .ok b
  | .int n => if fitsWord n then booleanOfInteger n else .error .notBoolean
  | .float x =>
    match integerOfNumber x with
    | .ok n => booleanOfInteger n
    | .error _ => .error .notBoolean
  | v =>
    match carriedWord v with
    | .text s => booleanOfText s
    | .unencodable _ => .error .undecodableText
    | .undecodable => .error .unreadableBoolean
    | .none => .error .notBoolean

def captureKind (v : Value) : Except Complaint CaptureKind :=
  let complaint := Complaint.notOneOf (CaptureKind.all.map (·.label))
  match carried v with
  | .text s => match CaptureKind.ofLabel? s with
    | some kind => .ok kind
    | Option.none => .error complaint
  | _ => .error complaint

def engineKind (v : Value) : Except Complaint EngineKind :=
  let complaint := Complaint.notOneOf (EngineKind.all.map (·.label))
  match carried v with
  | .text s => match EngineKind.ofLabel? s with
    | some kind => .ok kind
    | Option.none => .error complaint
  | _ => .error complaint

def optional {α : Type} (read : Value → Except Complaint α) : Value → Except Complaint (Option α)
  | .null => .ok none
  | v => (read v).map some

def usableName (v : Value) : Except Complaint String := do
  let s ← encodableText v
  if s = "" then .error .emptyText
  else if s.toList.contains '\x00' then .error .nulInProgramName
  else .ok s

def located {α : Type} (place : List Locator) (r : Except Complaint α) :
    Except (List Defect) α :=
  r.mapError fun complaint => [⟨place, complaint⟩]

def both {α β : Type} (a : Except (List Defect) α) (b : Except (List Defect) β) :
    Except (List Defect) (α × β) :=
  match a, b with
  | .ok a, .ok b => .ok (a, b)
  | .ok _, .error found => .error found
  | .error found, .ok _ => .error found
  | .error first, .error second => .error (first ++ second)

def all {α : Type} : List (Except (List Defect) α) → Except (List Defect) (List α)
  | [] => .ok []
  | r :: rest => (both r (all rest)).map fun (a, as) => a :: as

/-- How a place names a key: numbers by position, as far as they fit into 64 bits. -/
def keyLocator : Value → Locator
  | .text name => .key name
  | .brokenText name => .key (Text.Surrogate.replaced name)
  | .int n => if fitsWord n then .index n else .key (toString n)
  | .bool b => .index (if b then 1 else 0)
  | key => .key key.shown

def binding (field : String) (key value : Value) : Except (List Defect) (String × String) :=
  let place := [.key field, keyLocator key]
  both (located (place ++ [.key "[key]"]) (text key)) (located place (text value))

def bindings (field : String) (v : Value) : Except (List Defect) (List (String × String)) :=
  match v with
  | .table entries =>
    (all (entries.map fun (key, value) => binding field key value)).map (Value.merge [])
  | _ => .error [⟨[.key field], .notTable⟩]

def items? : Value → Option (List Value × Option Nat)
  | .list items | .tuple items => some (items, some items.length)
  | .bytes .view content => some (content.map fun b => .int b.toNat, none)
  | .settings fields => some (fields.map fun (name, v) => .tuple [.text name, v], none)
  | _ => none

def mount (place : List Locator) (v : Value) : Except (List Defect) (String × String) :=
  match items? v with
  | some ([], _) => .error [⟨place ++ [.index 0], .absent⟩, ⟨place ++ [.index 1], .absent⟩]
  | some ([host], _) =>
    both (located (place ++ [.index 0]) (text host)) (.error [⟨place ++ [.index 1], .absent⟩])
  | some ([host, guest], _) =>
    both (located (place ++ [.index 0]) (text host)) (located (place ++ [.index 1]) (text guest))
  | some (_, count) => .error [⟨place, .tooManyItems 2 count⟩]
  | none => .error [⟨place, .notTuple⟩]

def mountList (field : String) (v : Value) : Except (List Defect) (List (String × String)) :=
  match items? v with
  | some (items, _) => all (items.mapIdx fun i item => mount [.key field, .index i] item)
  | none => .error [⟨[.key field], .notList⟩]

def entry (field : String) (key value : Value) : Except (List Defect) (String × Value) :=
  located [.key field, keyLocator key, .key "[key]"] ((text key).map fun name => (name, value))

def table (field : String) (v : Value) : Except (List Defect) (List (String × Value)) :=
  match v with
  | .table entries =>
    (all (entries.map fun (key, value) => entry field key value)).map (Value.merge [])
  | _ => .error [⟨[.key field], .notTable⟩]

end GuestRunner.Settings.Reading
