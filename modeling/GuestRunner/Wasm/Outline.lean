/-!
# The text form of guest modules

Modules can also be written as text: lists in parentheses, each with a keyword in front, with blanks
and comments anywhere between. Of such a text only the outline is looked at: whether its words and
quotes can be told apart, every list is closed, and the module consists of known fields.
-/

set_option autoImplicit false

namespace GuestRunner.Wasm.Outline

inductive Token
  | openList
  | closeList
  | word (name : String)
  | quoted
  deriving DecidableEq, Repr

def isBlank (c : Char) : Bool := c == ' ' || c == '\t' || c == '\n' || c == '\r'

def marks : List Char := ['"', '(', ')', ',', ';', '[', ']', '\x7b', '\x7d']

def isWordChar (c : Char) : Bool := '!' ≤ c && c ≤ '~' && not (marks.contains c)

def afterComment : Nat → List Char → Option (List Char)
  | 0, cs => some cs
  | _, [] => none
  | depth + 1, '(' :: ';' :: rest => afterComment (depth + 2) rest
  | depth + 1, ';' :: ')' :: rest => afterComment depth rest
  | depth + 1, _ :: rest => afterComment (depth + 1) rest

def afterQuote : List Char → Option (List Char)
  | [] => none
  | '"' :: rest => some rest
  | '\\' :: _ :: rest => afterQuote rest
  | c :: rest => if c < ' ' ∨ c = '\x7F' then none else afterQuote rest

def tokens : Nat → List Char → Option (List Token)
  | _, [] => some []
  | 0, _ => none
  | fuel + 1, '(' :: ';' :: rest => (afterComment 1 rest).bind (tokens fuel)
  | fuel + 1, ';' :: ';' :: rest => tokens fuel (rest.dropWhile (· ≠ '\n'))
  | fuel + 1, '(' :: rest => (tokens fuel rest).map (.openList :: ·)
  | fuel + 1, ')' :: rest => (tokens fuel rest).map (.closeList :: ·)
  | fuel + 1, '"' :: rest => do
    let rest ← afterQuote rest
    return .quoted :: (← tokens fuel rest)
  | fuel + 1, c :: rest =>
    if isBlank c then tokens fuel rest
    else if isWordChar c then do
      let name := String.ofList (c :: rest.takeWhile isWordChar)
      return .word name :: (← tokens fuel (rest.dropWhile isWordChar))
    else none

def fieldNames : List String :=
  ["type", "rec", "import", "func", "table", "memory", "global", "export", "start", "elem",
    "data", "tag"]

def afterFields : Nat → List Token → Option (List Token)
  | 0, .openList :: .word name :: rest =>
    if fieldNames.contains name then afterFields 1 rest else none
  | 0, rest => some rest
  | _ + 1, [] => none
  | depth + 1, .openList :: rest => afterFields (depth + 2) rest
  | depth + 1, .closeList :: rest => afterFields depth rest
  | depth + 1, _ :: rest => afterFields (depth + 1) rest

def withoutName : List Token → List Token
  | .word name :: rest => if name.startsWith "$" then rest else .word name :: rest
  | rest => rest

def isOutline : List Token → Bool
  | .openList :: .word "module" :: rest => afterFields 0 (withoutName rest) == some [.closeList]
  | fields => afterFields 0 fields == some []

def isModule (text : String) : Bool := (tokens text.length text.toList).any isOutline

example : isModule "(module $m (memory 1)) ;; end" = true := by decide +kernel
example : isModule "(; a (; b ;) ;) (func (export \"_start\"))" = true := by decide +kernel
example : isModule "(module" = false ∧ isModule "(module))" = false := by decide +kernel
example : isModule "module" = false ∧ isModule "(component)" = false := by decide +kernel

end GuestRunner.Wasm.Outline
