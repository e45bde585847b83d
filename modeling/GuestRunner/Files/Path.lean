/-!
# Path texts

A path is a root and a list of names. Reading a text drops empty names and single dots; writing puts
one slash between names, and a relative path without names is a dot. `Path.normal` also cancels each
`..` against the name before it, without a look at the file system.
-/

set_option autoImplicit false

namespace GuestRunner

inductive Path.Root
  | relative
  | single
  /-- Exactly two leading slashes, which the system may treat on its own. -/
  | double
  deriving DecidableEq, Repr

structure Path where
  root : Path.Root
  parts : List String
  deriving DecidableEq, Repr

namespace Path

def splitOn (sep : Char) : List Char → List (List Char)
  | [] => [[]]
  | c :: rest =>
    if c = sep then [] :: splitOn sep rest
    else
      match splitOn sep rest with
      | [] => [[c]]
      | part :: parts => (c :: part) :: parts

def components (text : String) : List String := (splitOn '/' text.toList).map String.ofList

def rootOf : List Char → Root
  | '/' :: '/' :: '/' :: _ => .single
  | '/' :: '/' :: _ => .double
  | '/' :: _ => .single
  | _ => .relative

def ofText (text : String) : Path :=
  ⟨rootOf text.toList, (components text).filter fun part => part != "" && part != "."⟩

def Root.text : Root → String
  | .relative => ""
  | .single => "/"
  | .double => "//"

def joined : List String → String
  | [] => ""
  | [part] => part
  | part :: parts => part ++ "/" ++ joined parts

def text (p : Path) : String :=
  if p.root = .relative ∧ p.parts = [] then "." else p.root.text ++ joined p.parts

def isAbsolute (p : Path) : Bool := p.root != .relative

def name (p : Path) : String := p.parts.getLastD ""

def child (p : Path) (part : String) : Path := ⟨p.root, p.parts ++ [part]⟩

def parent (p : Path) : Path := ⟨p.root, p.parts.dropLast⟩

def under (p base : Path) : Path :=
  if p.isAbsolute then p else ⟨base.root, base.parts ++ p.parts⟩

def pushNormal (absolute : Bool) (kept : List String) (part : String) : List String :=
  if part ≠ ".." then kept ++ [part]
  else
    match kept.getLast? with
    | none => if absolute then [] else [".."]
    | some last => if last = ".." then kept ++ [".."] else kept.dropLast

def normal (p : Path) : Path := ⟨p.root, p.parts.foldl (pushNormal p.isAbsolute) []⟩

def isAbsoluteText (text : String) : Bool :=
  match text.toList with
  | '/' :: _ => true
  | _ => false

/-- The names of a text as the system looks them up: single dots stay, and an empty name at the end
stands for a final slash, which demands a directory before it. -/
def lookupParts (text : String) : List String :=
  let parts := components text
  parts.filter (· ≠ "") ++ if parts.getLast? = some "" then [""] else []

def joinText (base value : String) : String :=
  if isAbsoluteText value then value
  else if base.toList.getLast? = some '/' ∨ base = "" then base ++ value
  else base ++ "/" ++ value

def suffix (name : String) : String :=
  let chars := name.toList
  let tail := (chars.reverse.takeWhile (· ≠ '.')).reverse
  if tail.length = chars.length ∨ tail.length + 1 = chars.length ∨ tail.isEmpty then ""
  else String.ofList ('.' :: tail)

example : (ofText "a//b/./c/").text = "a/b/c" := by decide +kernel
example : (ofText "").text = "." := by decide +kernel
example : (ofText "//x").text = "//x" := by decide +kernel
example : (ofText "/a/../../b").normal.text = "/b" := by decide +kernel
example : (ofText "../a/..").normal.text = ".." := by decide +kernel
example : suffix "tmp-1.stdout" = ".stdout" ∧ suffix ".x" = "" ∧ suffix "a." = "" := by
  decide +kernel

end Path

end GuestRunner
