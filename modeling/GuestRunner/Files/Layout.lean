import GuestRunner.Files.Volume

/-!
# Laying out files

What a caller does to a volume by hand: writing files, making directories and links, removing and
listing. Of these calls only removals are subject to the fault schedule. Directories on the way are
made.
-/

set_option autoImplicit false

namespace GuestRunner.Files

inductive Content
  | bytes (content : Bytes)
  | directory
  deriving DecidableEq, Repr

namespace Tree

def makeWay (start : Place) : List String → Tree → Tree
  | [], t => t
  | part :: rest, t =>
    let here := start ++ [part]
    let t := if (t.node? here).isNone then t.put here .directory else t
    makeWay here rest t

def below (t : Tree) (p : Place) : List (Place × Node) :=
  t.entries.filter fun entry => p.isPrefixOf entry.1 && entry.1 ≠ p

end Tree

namespace Volume

def ensureDirectory (v : Volume) (p : Path) : Except OsError Unit × Volume :=
  match v.makeDirectory p with
  | (.ok (), v) => (.ok (), v)
  | (.error e, v) =>
    if e.isMissing || e == .nulInPath then (.error e, v)
    else
      match v.inspect p with
      | .error e => (.error e, v)
      | .ok found => (if found = some .directory then .ok () else .error e, v)

def makeDirectoriesTo (root : Path.Root) : Nat → List String → Volume → Except OsError Unit × Volume
  | 0, parts, v => v.ensureDirectory ⟨root, parts⟩
  | depth + 1, parts, v =>
    match v.ensureDirectory ⟨root, parts⟩ with
    | (.ok (), v) => (.ok (), v)
    | (.error e, v) =>
      if e.isMissing then
        match makeDirectoriesTo root depth parts.dropLast v with
        | (.ok (), v) => v.ensureDirectory ⟨root, parts⟩
        | (.error e, v) => (.error e, v)
      else (.error e, v)

def makeDirectories (v : Volume) (p : Path) : Except OsError Unit × Volume :=
  makeDirectoriesTo p.root p.parts.length p.parts v

def put (v : Volume) (p : Path) (content : Content) : Except OsError Unit × Volume :=
  match content with
  | .directory => v.makeDirectories p
  | .bytes content =>
    match v.makeDirectories p.parent with
    | (.ok (), v) => v.onTree p (v.tree.refill fun _ => content)
    | (.error e, v) => (.error e, v)

def linked (t : Tree) (target : String) (start : Place) (parts : List String) :
    Except Nat Tree := do
  let place ← t.locate false start parts
  if (t.node? place).isSome then .error OsError.alreadyThere
  else .ok (t.put place (.link target))

def link (v : Volume) (p : Path) (target : String) : Except OsError Unit × Volume :=
  match unusable? target, unusable? p.text with
  | some .nulInPath, _ | _, some .nulInPath => (.error .nulInPath, v)
  | some _, _ | _, some _ => (.error (.linking OsError.nameTooLong target p.text), v)
  | none, none =>
    let made :=
      if target = "" then .error OsError.missing else linked v.tree target (v.start p) p.parts
    match made with
    | .ok tree => (.ok (), { v with tree })
    | .error code => (.error (.linking code target p.text), v)

def removal (v : Volume) (p : Path) : Call :=
  match unusable? p.text, v.tree.locate false (v.start p) p.parts with
  | none, .ok place => if v.tree.isDirectory place then .removeAll else .unlink
  | _, _ => .unlink

def remove (v : Volume) (p : Path) : Except OsError Unit × Volume :=
  v.guarded (v.removal p) fun v =>
    v.onTree p fun start parts => do
      let place ← v.tree.locate false start parts
      match v.tree.node? place with
      | none => .error OsError.missing
      | some .directory => .ok (v.tree.prune place)
      | some _ => .ok (v.tree.erase place)

def listedAs (v : Volume) (place : Place) (shown : String) : Node → String
  | .directory => shown ++ "/"
  | .file _ => shown
  | .link _ => if v.isDirectory (absolute place) then shown ++ "/" else shown

def sorted (texts : List String) : List String := texts.mergeSort fun a b => !(b < a)

def listing (v : Volume) (p : Path) : List String :=
  match v.tree.locate true (v.start p) p.parts with
  | .error _ => []
  | .ok top =>
    sorted ((v.tree.below top).map fun (place, node) =>
      v.listedAs place (Path.joined (place.drop top.length)) node)

end Volume

end GuestRunner.Files
