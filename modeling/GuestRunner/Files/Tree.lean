import GuestRunner.Bytes
import GuestRunner.Files.Path
import GuestRunner.Files.OsError

/-!
# The file tree

A tree is a list of entries in the order of their creation, each with its place: the names that lead
to it from the root. The root is a directory and has no entry. `locate` walks a path through the
tree, symbolic links included, and says where it ends or why it does not; every operation starts
with it. An operation gives the code of its failure, to which the caller adds the path it asked for.
-/

set_option autoImplicit false

namespace GuestRunner

abbrev Place := List String

namespace Files

inductive Node
  | directory
  | file (content : Bytes)
  | link (target : String)
  deriving DecidableEq, Repr

structure Tree where
  entries : List (Place × Node)
  deriving DecidableEq, Repr

namespace Tree

def empty : Tree := ⟨[]⟩

def node? (t : Tree) (p : Place) : Option Node :=
  if p = [] then some .directory else t.entries.lookup p

def isDirectory (t : Tree) (p : Place) : Bool := t.node? p == some .directory

def set (p : Place) (n : Node) : List (Place × Node) → List (Place × Node)
  | [] => [(p, n)]
  | entry :: rest => if entry.1 = p then (p, n) :: rest else entry :: set p n rest

def put (t : Tree) (p : Place) (n : Node) : Tree := ⟨set p n t.entries⟩

def erase (t : Tree) (p : Place) : Tree := ⟨t.entries.filter fun entry => entry.1 ≠ p⟩

def prune (t : Tree) (p : Place) : Tree :=
  ⟨t.entries.filter fun entry => !(p.isPrefixOf entry.1)⟩

def names (t : Tree) (p : Place) : List String :=
  t.entries.filterMap fun entry =>
    if entry.1 ≠ [] ∧ entry.1.dropLast = p then entry.1.getLast? else none

def longestName : Nat := 255

structure Walk where
  /-- A place that no `..` leads above. Nor does a link lead to the root then. -/
  confinedTo : Option Place
  /-- Whether a link at the end is followed. -/
  through : Bool
  /-- Whether the last name is to be made a file. Then no slash can follow it. -/
  making : Bool

def descend (t : Tree) (w : Walk) (onLink : Place → List String → Except Nat Place) :
    Place → List String → Except Nat Place
  | here, [] => .ok here
  | here, part :: rest =>
    match t.node? here with
    | none => .error OsError.missing
    | some .directory =>
      if part = "." ∨ part = "" then descend t w onLink here rest
      else if part = ".." then
        if w.confinedTo = some here then .error OsError.otherDevice
        else descend t w onLink here.dropLast rest
      else if w.making ∧ rest = [""] then .error OsError.isDirectory
      else if longestName < part.utf8ByteSize then .error OsError.nameTooLong
      else
        match t.node? (here ++ [part]) with
        | some (.link target) =>
          if rest.isEmpty && !w.through then .ok (here ++ [part])
          else if !Path.isAbsoluteText target then onLink here (Path.lookupParts target ++ rest)
          else if w.confinedTo.isSome then .error OsError.otherDevice
          else onLink [] (Path.lookupParts target ++ rest)
        | _ => descend t w onLink (here ++ [part]) rest
    | some _ => .error OsError.notDirectory

def walk (t : Tree) (w : Walk) : Nat → Place → List String → Except Nat Place
  | 0 => descend t w fun _ _ => .error OsError.tooManyLinks
  | links + 1 => descend t w (walk t w links)

def linkLimit : Nat := 40

def locate (t : Tree) (through : Bool) (start : Place) (parts : List String) :
    Except Nat Place :=
  walk t ⟨none, through, false⟩ linkLimit start parts

def locateNew (t : Tree) (start : Place) (parts : List String) : Except Nat Place :=
  walk t ⟨none, true, true⟩ linkLimit start parts

def locateBeneath (t : Tree) (through : Bool) (base : Place) (parts : List String) :
    Except Nat Place :=
  walk t ⟨some base, through, false⟩ linkLimit base parts

structure Settled where
  path : Path
  complete : Bool
  deriving DecidableEq, Repr

def nodeAt? (t : Tree) (home : Place) (p : Path) : Option Node :=
  t.node? (p.under ⟨.single, home⟩).normal.parts

/-- One pass over the parts of a path; `onLink` follows a symbolic link. A name that cannot be
looked up is kept, and `..` leaves the directory reached so far. After a link that cannot be
followed the remaining parts are kept as they are. -/
def settleWith (t : Tree) (home : Place) (onLink : Path → Path → List String → Settled) :
    Path → List String → Settled
  | here, [] => ⟨here, true⟩
  | here, part :: rest =>
    let next : Path := ⟨here.root, Path.pushNormal here.isAbsolute here.parts part⟩
    if part = ".." then settleWith t home onLink next rest
    else
      match t.nodeAt? home next with
      | some (.link target) =>
        let start : Path := if Path.isAbsoluteText target then ⟨.single, []⟩ else here
        let found := onLink next start (Path.ofText target).parts
        if found.complete then settleWith t home onLink found.path rest
        else ⟨⟨found.path.root, found.path.parts ++ rest⟩, false⟩
      | _ => settleWith t home onLink next rest

/-- Follows a link unless it is one of those that are being followed already. A link that is met by
its relative path and then by its absolute one counts as two. -/
def follow (t : Tree) (home : Place) : Nat → List Path → Path → Path → List String → Settled
  | 0, _, link, _, _ => ⟨link, false⟩
  | depth + 1, active, link, start, parts =>
    if link ∈ active then ⟨link, false⟩
    else settleWith t home (follow t home depth (link :: active)) start parts

def settle (t : Tree) (home : Place) (p : Path) : Path :=
  let start : Path := if p.isAbsolute then ⟨.single, []⟩ else ⟨.relative, []⟩
  let depth := (t.entries.length + 1) * (home.length + 3)
  (settleWith t home (follow t home depth []) start p.parts).path

def exists? (t : Tree) (start : Place) (parts : List String) : Bool :=
  match t.locate true start parts with
  | .ok p => (t.node? p).isSome
  | .error _ => false

def read (t : Tree) (start : Place) (parts : List String) : Except Nat Bytes := do
  let p ← t.locate true start parts
  match t.node? p with
  | some (.file content) => .ok content
  | some .directory => .error OsError.isDirectory
  | some (.link _) => .error OsError.tooManyLinks
  | none => .error OsError.missing

def truncate (t : Tree) (start : Place) (parts : List String) : Except Nat Tree := do
  let p ← t.locate true start parts
  match t.node? p with
  | some (.file _) => .ok (t.put p (.file []))
  | some .directory => .error OsError.isDirectory
  | some (.link _) => .error OsError.tooManyLinks
  | none => .error OsError.missing

def refill (t : Tree) (content : Bytes → Bytes) (start : Place) (parts : List String) :
    Except Nat Tree := do
  let p ← t.locateNew start parts
  match t.node? p with
  | some (.file old) => .ok (t.put p (.file (content old)))
  | some .directory => .error OsError.isDirectory
  | some (.link _) => .error OsError.tooManyLinks
  | none => .ok (t.put p (.file (content [])))

def content (t : Tree) (p : Place) : Bytes :=
  match t.node? p with
  | some (.file content) => content
  | _ => []

def overwrite (t : Tree) (p : Place) (position : Nat) (chunk : Bytes) : Tree :=
  match t.node? p with
  | some (.file content) => t.put p (.file (content.overlaid position chunk))
  | _ => t

def writeAt (t : Tree) (position : Nat) (chunk : Bytes) (start : Place) (parts : List String) :
    Except Nat Tree :=
  t.refill (·.overlaid position chunk) start parts

def append (t : Tree) (chunk : Bytes) (start : Place) (parts : List String) : Except Nat Tree :=
  t.refill (· ++ chunk) start parts

def create (t : Tree) (start : Place) (parts : List String) : Except Nat Tree :=
  t.refill (fun _ => []) start parts

def unlink (t : Tree) (start : Place) (parts : List String) : Except Nat Tree := do
  let p ← t.locate false start parts
  match t.node? p with
  | some .directory => .error OsError.isDirectory
  | some _ => .ok (t.erase p)
  | none => .error OsError.missing

def makeDirectory (t : Tree) (start : Place) (parts : List String) : Except Nat Tree := do
  let p ← t.locate false start parts
  match t.node? p with
  | some _ => .error OsError.alreadyThere
  | none => .ok (t.put p .directory)

inductive RemovalError
  | lookup (code : Nat)
  | notDirectory
  | link

def removeAll (t : Tree) (start : Place) (parts : List String) : Except RemovalError Tree :=
  match t.locate false start parts with
  | .error code => .error (.lookup code)
  | .ok p =>
    match t.node? p with
    | some .directory => .ok (t.prune p)
    | some (.link _) => .error .link
    | some (.file _) => .error .notDirectory
    | none => .error (.lookup OsError.missing)

end Tree

end Files

end GuestRunner
