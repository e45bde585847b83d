import GuestRunner.Choice
import GuestRunner.Decimal.Numeral
import GuestRunner.Decimal.Shortest
import GuestRunner.Files.Path
import GuestRunner.Text.Quoted

/-!
# Values from outside

Settings, payloads and the fields of events come from callers that may hand over anything. A `Value`
is such a thing, with the distinctions that the readers of values make. `shown` is its unambiguous
text and `plain` the one for messages, in which a text stands for itself.
-/

set_option autoImplicit false

namespace GuestRunner

inductive ByteKind
  | fixed
  | growable
  | view
  deriving DecidableEq, Repr

inductive MomentKind
  | date
  | time
  | dateTime
  deriving DecidableEq, Repr

inductive Value
  | null
  | bool (b : Bool)
  | int (n : Int)
  | float (x : Binary64)
  | text (s : String)
  /-- A text with lone surrogates, which has a stand-in for each and no UTF-8 form. -/
  | brokenText (s : String)
  | bytes (kind : ByteKind) (content : Bytes)
  | list (items : List Value)
  | tuple (items : List Value)
  | table (entries : List (Value × Value))
  | path (p : Path)
  | capture (kind : CaptureKind)
  | engine (kind : EngineKind)
  | moment (kind : MomentKind)
  /-- Settings that have been validated already, field by field. -/
  | settings (fields : List (String × Value))
  deriving Inhabited, Repr

namespace Value

def MomentKind.typeName : MomentKind → String
  | .date => "datetime.date"
  | .time => "datetime.time"
  | .dateTime => "datetime.datetime"

def typeName : Value → String
  | .null => "NoneType"
  | .bool _ => "bool"
  | .int _ => "int"
  | .float _ => "float"
  | .text _ | .brokenText _ => "str"
  | .bytes .fixed _ => "bytes"
  | .bytes .growable _ => "bytearray"
  | .bytes .view _ => "memoryview"
  | .list _ => "list"
  | .tuple _ => "tuple"
  | .table _ => "dict"
  | .path _ => "PosixPath"
  | .capture _ => "CaptureStrategy"
  | .engine _ => "BackendType"
  | .moment kind => MomentKind.typeName kind
  | .settings _ => "ProcessorConfig"

def shownLabel (choice : Choice) (label : String) : String :=
  "<" ++ choice.name ++ "." ++ Choice.constant label ++ ": " ++ Text.Quoted.text label ++ ">"

mutual

def shown : Value → String
  | .null => "None"
  | .bool b => if b then "True" else "False"
  | .int n => toString n
  | .float x => Decimal.Shortest.text x
  | .text s => Text.Quoted.text s
  | .brokenText s => Text.Quoted.broken s
  | .bytes .fixed b => Text.Quoted.bytes b
  | .bytes .growable b => "bytearray(" ++ Text.Quoted.bytes b ++ ")"
  | .bytes .view _ => "<memory>"
  | .list items => "[" ++ ", ".intercalate (shownEach items) ++ "]"
  | .tuple items =>
    "(" ++ ", ".intercalate (shownEach items) ++ (if items.length = 1 then ",)" else ")")
  | .table entries => "\x7b" ++ ", ".intercalate (shownEntries entries) ++ "\x7d"
  | .path p => "PosixPath(" ++ Text.Quoted.text p.text ++ ")"
  | .capture kind => shownLabel .capture kind.label
  | .engine kind => shownLabel .engine kind.label
  | .moment kind => MomentKind.typeName kind
  | .settings fields => "ProcessorConfig(" ++ ", ".intercalate (shownFields fields) ++ ")"

def shownEach : List Value → List String
  | [] => []
  | item :: rest => shown item :: shownEach rest

def shownEntries : List (Value × Value) → List String
  | [] => []
  | (key, value) :: rest => (shown key ++ ": " ++ shown value) :: shownEntries rest

def shownFields : List (String × Value) → List String
  | [] => []
  | (name, value) :: rest => (name ++ "=" ++ shown value) :: shownFields rest

end

def plain : Value → String
  | .text s | .brokenText s => s
  | .path p => p.text
  | .capture kind => Choice.capture.name ++ "." ++ Choice.constant kind.label
  | .engine kind => Choice.engine.name ++ "." ++ Choice.constant kind.label
  | .settings fields => " ".intercalate (shownFields fields)
  | v => v.shown

mutual

def keyless? : Value → Option String
  | .list _ => some "list"
  | .table _ => some "dict"
  | .bytes .growable _ => some "bytearray"
  | .settings _ => some "ProcessorConfig"
  | .tuple items => keylessAmong? items
  | _ => none

def keylessAmong? : List Value → Option String
  | [] => none
  | item :: rest => (keyless? item).or (keylessAmong? rest)

end

mutual

/-- Whether a value has a text, which takes that no integer in it has too many digits. -/
def isWritable : Value → Bool
  | .int n => n.natAbs < Nat.pow 10 Decimal.Numeral.longestInteger
  | .list items | .tuple items => areWritable items
  | .table entries => areEntriesWritable entries
  | .settings fields => areFieldsWritable fields
  | _ => true

def areWritable : List Value → Bool
  | [] => true
  | item :: rest => isWritable item && areWritable rest

def areEntriesWritable : List (Value × Value) → Bool
  | [] => true
  | (key, value) :: rest => isWritable key && isWritable value && areEntriesWritable rest

def areFieldsWritable : List (String × Value) → Bool
  | [] => true
  | (_, value) :: rest => isWritable value && areFieldsWritable rest

end

def text? : Value → Option String
  | .text s => some s
  | .capture kind => some kind.label
  | .engine kind => some kind.label
  | _ => none

/-- The text of a value, be there lone surrogates in it or not. -/
def anyText? : Value → Option String
  | .brokenText s => some s
  | v => v.text?

/-- A text as a value. One with stand-ins for lone surrogates is told apart. -/
def ofText (s : String) : Value := if Text.Surrogate.isWithin s then .brokenText s else .text s

def isTrue : Value → Bool
  | .null => false
  | .bool b => b
  | .int n => n != 0
  | .float x => !x.isZero
  | .text s => s != ""
  | .bytes _ b => !b.isEmpty
  | .list items | .tuple items => !items.isEmpty
  | .table entries => !entries.isEmpty
  | _ => true

def insert {α β : Type} [DecidableEq α] (key : α) (value : β) : List (α × β) → List (α × β)
  | [] => [(key, value)]
  | entry :: rest =>
    if entry.1 = key then (entry.1, value) :: rest else entry :: insert key value rest

def merge {α β : Type} [DecidableEq α] (first second : List (α × β)) : List (α × β) :=
  second.foldl (fun entries entry => insert entry.1 entry.2 entries) first

def integer? : Value → Option Int
  | .bool b => some (if b then 1 else 0)
  | .int n => some n
  | .float x => x.toInt?
  | _ => none

/-- Whether two values are the same key of a table. Equal numbers are, whatever their types. -/
def sameKey (a b : Value) : Bool :=
  match a, b with
  | .null, .null => true
  | .text a, .text b | .brokenText a, .brokenText b => a == b
  | .bytes _ a, .bytes _ b => a == b
  | a, b =>
    match a.integer?, b.integer? with
    | some m, some n => m == n
    | _, _ => false

def setKey (key value : Value) : List (Value × Value) → List (Value × Value)
  | [] => [(key, value)]
  | entry :: rest =>
    if sameKey entry.1 key then (entry.1, value) :: rest else entry :: setKey key value rest

def ofPairs (pairs : List (Value × Value)) : Value :=
  .table (pairs.foldl (fun entries (key, value) => setKey key value entries) [])

def times (n : Nat) : Value → Value
  | .text s => .text (String.join (List.replicate n s))
  | .brokenText s => .brokenText (String.join (List.replicate n s))
  | .bytes kind content => .bytes kind (List.replicate n content).flatten
  | v => v

def bytesOf (b : Bytes) : Value := .bytes .fixed b

def ofOption {α : Type} (f : α → Value) : Option α → Value
  | none => .null
  | some a => f a

def ofNat (n : Nat) : Value := .int n

end Value

end GuestRunner
