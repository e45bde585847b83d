import GuestRunner.Text.Utf8
import GuestRunner.Toml.Scalar

/-!
# TOML documents

A document is a list of statements: a header opens a table or appends one to an array of tables, and
an assignment puts a value under a dotted key of the open table. Nothing may be defined twice. Two
lists remember what is closed: the tables a header or a dotted key has already made, and the inline
arrays and tables, which are closed with everything inside them.
-/

set_option autoImplicit false

namespace GuestRunner.Toml

abbrev Entries := List (Value × Value)

namespace Entries

def find? (key : String) : Entries → Option Value
  | [] => none
  | (k, v) :: rest =>
    match k with
    | .text name => if name = key then some v else find? key rest
    | _ => find? key rest

def set (key : String) (value : Value) : Entries → Entries
  | [] => [(.text key, value)]
  | (k, v) :: rest =>
    match k with
    | .text name => if name = key then (k, value) :: rest else (k, v) :: set key value rest
    | _ => (k, v) :: set key value rest

/-- Changes the table at the end of a path, which is made as far as it is missing. With `lists` the
path goes through the last table of an array. Nothing comes of a path through another value. -/
def within (lists : Bool) (change : Entries → Option Entries) :
    List String → Entries → Option Entries
  | [], entries => change entries
  | key :: path, entries =>
    match find? key entries with
    | none => (within lists change path []).map fun inner => set key (.table inner) entries
    | some (.table old) =>
      (within lists change path old).map fun inner => set key (.table inner) entries
    | some (.list items) =>
      if !lists then none
      else
        match items.getLast? with
        | some (.table old) =>
          (within lists change path old).map fun inner =>
            set key (.list (items.dropLast ++ [.table inner])) entries
        | _ => none
    | some _ => none

def add (key : String) (value : Value) (entries : Entries) : Option Entries :=
  match find? key entries with
  | none => some (entries ++ [(.text key, value)])
  | some _ => none

def appendTable (key : String) (entries : Entries) : Option Entries :=
  match find? key entries with
  | none => some (set key (.list [.table []]) entries)
  | some (.list items) => some (set key (.list (items ++ [.table []])) entries)
  | some _ => none

end Entries

def isNested : Value → Bool
  | .list _ | .table _ => true
  | _ => false

def assignInline (frozen : List (List String)) (key : List String) (value : Value)
    (entries : Entries) : Option Entries :=
  if frozen.any (·.isPrefixOf key) then none
  else Entries.within false (Entries.add (key.getLastD "") value) key.dropLast entries

mutual

def value : Nat → List Char → Except Fault (Value × List Char)
  | 0, _ => .error .malformed
  | _ + 1, [] => .error .malformed
  | fuel + 1, c :: rest =>
    if c = quote ∨ c = apostrophe then
      orMalformed ((text? true (c :: rest)).map fun (s, left) => (.text s, left))
    else if c = '[' then do
      let rest ← skipBetween false rest
      match rest with
      | ']' :: left => return (.list [], left)
      | _ =>
        let (items, left) ← arrayItems fuel rest
        return (.list items, left)
    else if c = '\x7b' then
      match skipBlanks rest with
      | '\x7d' :: left => .ok (.table [], left)
      | rest => do
        let (entries, left) ← inlineEntries fuel [] [] rest
        return (.table entries, left)
    else
      match startsWith "true" (c :: rest), startsWith "false" (c :: rest) with
      | some left, _ => .ok (.bool true, left)
      | _, some left => .ok (.bool false, left)
      | none, none => scalar (c :: rest)

def arrayItems : Nat → List Char → Except Fault (List Value × List Char)
  | 0, _ => .error .malformed
  | fuel + 1, cs => do
    let (item, rest) ← value fuel cs
    let rest ← skipBetween false rest
    match rest with
    | ']' :: left => return ([item], left)
    | ',' :: rest =>
      let rest ← skipBetween false rest
      match rest with
      | ']' :: left => return ([item], left)
      | _ =>
        let (items, left) ← arrayItems fuel rest
        return (item :: items, left)
    | _ => throw .malformed

def inlineEntries : Nat → List (List String) → Entries → List Char →
    Except Fault (Entries × List Char)
  | 0, _, _, _ => .error .malformed
  | fuel + 1, frozen, entries, cs => do
    let (path, rest) ← key cs
    let rest ← exactly '=' rest
    let (item, rest) ← value fuel (skipBlanks rest)
    let entries ← assignInline frozen path item entries
    match skipBlanks rest with
    | '\x7d' :: left => return (entries, left)
    | ',' :: rest =>
      let frozen := if isNested item then path :: frozen else frozen
      inlineEntries fuel frozen entries (skipBlanks rest)
    | _ => throw .malformed

end

structure Progress where
  entries : Entries
  /-- The table that assignments go into. -/
  header : List String
  /-- Tables that no header may open again. -/
  opened : List (List String)
  /-- Tables that dotted keys have made, which count as opened from the next header on. -/
  pending : List (List String)
  /-- Inline values, closed with everything inside. -/
  frozen : List (List String)

def Progress.start : Progress := ⟨[], [], [], [], []⟩

def Progress.isFrozen (p : Progress) (path : List String) : Bool :=
  p.frozen.any (·.isPrefixOf path)

def Progress.openTable (p : Progress) (path : List String) : Option Progress := do
  let opened := p.pending ++ p.opened
  guard (!opened.contains path && !p.isFrozen path)
  let entries ← Entries.within true some path p.entries
  return { p with entries, header := path, opened := path :: opened, pending := [] }

def Progress.openElement (p : Progress) (path : List String) : Option Progress := do
  guard (!p.isFrozen path)
  let kept := (p.pending ++ p.opened).filter fun other => !(path.isPrefixOf other)
  let frozen := p.frozen.filter fun other => !(path.isPrefixOf other)
  let entries ←
    Entries.within true (Entries.appendTable (path.getLastD "")) path.dropLast p.entries
  return { entries, header := path, opened := path :: kept, pending := [], frozen }

def passed (header key : List String) : List (List String) :=
  (List.range (key.length - 1)).map fun i => header ++ key.take (i + 1)

def Progress.assign (p : Progress) (key : List String) (item : Value) : Option Progress := do
  let between := passed p.header key
  guard (between.all fun path => !p.opened.contains path)
  let path := p.header ++ key
  guard (!p.isFrozen path.dropLast)
  let entries ←
    Entries.within true (Entries.add (key.getLastD "") item) path.dropLast p.entries
  let frozen := if isNested item then path :: p.frozen else p.frozen
  return { p with entries, frozen, pending := between ++ p.pending }

def header (cs : List Char) : Option (List String × List Char) := do
  let (path, left) ← key (skipBlanks cs)
  return (path, ← exactly ']' left)

def statement (p : Progress) (cs : List Char) : Except Fault (Progress × List Char) :=
  match cs with
  | '[' :: '[' :: rest => do
    let (path, left) ← header rest
    let left ← exactly ']' left
    let p ← p.openElement path
    return (p, left)
  | '[' :: rest => do
    let (path, left) ← header rest
    let p ← p.openTable path
    return (p, left)
  | cs => do
    let (path, left) ← key cs
    let left ← exactly '=' left
    let (item, left) ← value (2 * left.length + 2) (skipBlanks left)
    let p ← p.assign path item
    return (p, left)

def lines : Nat → Progress → List Char → Except Fault Progress
  | 0, _, _ => .error .malformed
  | fuel + 1, p, cs =>
    match skipBlanks cs with
    | [] => .ok p
    | '\n' :: rest => lines fuel p rest
    | c :: rest => do
      let (p, left) ← if c = '#' then .ok (p, c :: rest) else statement p (c :: rest)
      let left ← skipComment (skipBlanks left)
      match left with
      | [] => return p
      | '\n' :: rest => lines fuel p rest
      | _ => throw .malformed

def joinLineEnds : List Char → List Char
  | '\r' :: '\n' :: rest => '\n' :: joinLineEnds rest
  | c :: rest => c :: joinLineEnds rest
  | [] => []

def parse (source : String) : Except Fault Entries :=
  let cs := joinLineEnds source.toList
  (lines (cs.length + 1) Progress.start cs).map Progress.entries

end GuestRunner.Toml
