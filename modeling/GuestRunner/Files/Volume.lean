import GuestRunner.Files.Tree

/-!
# The file system as a running program meets it

A `Volume` is a tree together with what decides the outcome of the next calls: the directory that
relative paths start from, the directory for temporary ones, the faults that are still to come and
the counters behind fresh names. A fault schedule lists, for each kind of call, what the coming
calls do: fail with a code and change nothing, or work. Past the end of the list they work.
-/

set_option autoImplicit false

namespace GuestRunner.Files

inductive Call
  | makeTemporary
  | examine
  | removeAll
  | unlink
  | list
  | truncate
  | open
  deriving DecidableEq, Repr

abbrev Schedule := Call → List (Option Nat)

namespace Schedule

def quiet : Schedule := fun _ => []

def next (s : Schedule) (call : Call) : Option Nat × Schedule :=
  match s call with
  | [] => (none, s)
  | outcome :: later => (outcome, fun c => if c = call then later else s c)

def failing (s : Schedule) (call : Call) (code count : Nat) : Schedule :=
  fun c => if c = call then List.replicate count (some code) else s c

end Schedule

structure Volume where
  tree : Tree
  home : Place
  temporary : Place
  schedule : Schedule
  /-- How many temporary names have been tried. -/
  namesTried : Nat
  /-- How many instance tokens have been drawn. -/
  tokensDrawn : Nat

namespace Volume

def start (v : Volume) (p : Path) : Place := if p.isAbsolute then [] else v.home

/-- Lets the schedule decide, then the call itself. A fault of the schedule names no path. -/
def guarded {α : Type} (v : Volume) (call : Call) (act : Volume → Except OsError α × Volume) :
    Except OsError α × Volume :=
  match v.schedule.next call with
  | (some code, schedule) => (.error (.coded code none), { v with schedule })
  | (none, schedule) => act { v with schedule }

def longestPath : Nat := 4095

def unusable? (text : String) : Option OsError :=
  if text.toList.contains (Char.ofNat 0) then some .nulInPath
  else if longestPath < text.utf8ByteSize then
    some (.coded OsError.nameTooLong (some text))
  else none

def place? (v : Volume) (p : Path) : Option Place :=
  (v.tree.locate true (v.start p) p.parts).toOption

def onTree (v : Volume) (p : Path) (act : Place → List String → Except Nat Tree) :
    Except OsError Unit × Volume :=
  match unusable? p.text with
  | some e => (.error e, v)
  | none =>
    match act (v.start p) p.parts with
    | .ok tree => (.ok (), { v with tree })
    | .error code => (.error (.coded code (some p.text)), v)

def readAs (v : Volume) (text : String) (parts : List String) : Except OsError Bytes :=
  match unusable? text with
  | some e => .error e
  | none =>
    match v.tree.read (v.start (Path.ofText text)) parts with
    | .ok content => .ok content
    | .error code => .error (.coded code (some text))

def read (v : Volume) (p : Path) : Except OsError Bytes := v.readAs p.text p.parts

def truncate (v : Volume) (p : Path) : Except OsError Unit × Volume :=
  v.guarded .truncate fun v => v.onTree p v.tree.truncate

def unlink (v : Volume) (p : Path) : Except OsError Unit × Volume :=
  v.guarded .unlink fun v => v.onTree p v.tree.unlink

def unlinkIfThere (v : Volume) (p : Path) : Except OsError Unit × Volume :=
  v.guarded .unlink fun v =>
    match v.onTree p v.tree.unlink with
    | (.error e, v) => (if e.isMissing then .ok () else .error e, v)
    | done => done

def readStream (v : Volume) (p : Path) : Except OsError Bytes × Volume :=
  v.guarded .open fun v => (v.read p, v)

def removeAll (v : Volume) (p : Path) : Except OsError Unit × Volume :=
  v.guarded .removeAll fun v =>
    match v.tree.removeAll (v.start p) p.parts with
    | .ok tree => (.ok (), { v with tree })
    | .error (.lookup code) => (.error (.coded code (some p.text)), v)
    | .error .notDirectory => (.error (.notRemovable OsError.notDirectory p.text), v)
    | .error .link => (.error .linkInPlaceOfDirectory, v)

def namesIn (v : Volume) (p : Path) : List String :=
  match v.tree.locate true (v.start p) p.parts with
  | .error _ => []
  | .ok place => if v.tree.isDirectory place then v.tree.names place else []

def list (v : Volume) (p : Path) : Except OsError (List String) × Volume :=
  v.guarded .list fun v => (.ok (v.namesIn p), v)

def append (v : Volume) (p : Path) (chunk : Bytes) : Except OsError Unit × Volume :=
  v.onTree p (v.tree.append chunk)

def writeAt (v : Volume) (p : Path) (position : Nat) (chunk : Bytes) :
    Except OsError Unit × Volume :=
  v.onTree p (v.tree.writeAt position chunk)

def create (v : Volume) (p : Path) : Except OsError Unit × Volume :=
  v.onTree p v.tree.create

def makeDirectory (v : Volume) (p : Path) : Except OsError Unit × Volume :=
  v.onTree p v.tree.makeDirectory

def readText (v : Volume) (text : String) : Except OsError Bytes :=
  if text = "" then .error (.coded OsError.missing (some text))
  else v.readAs text (Path.lookupParts text)

def existsText? (v : Volume) (text : String) : Bool :=
  text ≠ "" && (unusable? text).isNone &&
    v.tree.exists? (v.start (Path.ofText text)) (Path.lookupParts text)

def exists? (v : Volume) (p : Path) : Bool := v.tree.exists? (v.start p) p.parts

def examine (v : Volume) (p : Path) : Except OsError Bool × Volume :=
  v.guarded .examine fun v => (.ok (v.exists? p), v)

def inspect (v : Volume) (p : Path) : Except OsError (Option Node) :=
  match unusable? p.text with
  | some .nulInPath => .ok none
  | some e => .error e
  | none =>
    match v.tree.locate true (v.start p) p.parts with
    | .ok place => .ok (v.tree.node? place)
    | .error code =>
      if code = OsError.nameTooLong then .error (.coded code (some p.text)) else .ok none

def probe (v : Volume) (p : Path) : Except OsError Bool := (v.inspect p).map Option.isSome

def isDirectory (v : Volume) (p : Path) : Bool :=
  match v.tree.locate true (v.start p) p.parts with
  | .ok place => v.tree.isDirectory place
  | .error _ => false

def absolute (place : Place) : Path := ⟨.single, place⟩

def resolve (v : Volume) (p : Path) : Path :=
  ((v.tree.settle v.home p).under (absolute v.home)).normal

def loops (v : Volume) (p : Path) : Bool :=
  match v.tree.locate true (v.start p) p.parts with
  | .error code => code == OsError.tooManyLinks
  | .ok _ => false

def numbered (width n : Nat) : String :=
  let digits := toString n
  String.ofList (List.replicate (width - digits.length) '0') ++ digits

def tryNames (stem : String) : Nat → Volume → Except OsError Path × Volume
  | 0, v => (.error (.coded OsError.alreadyThere (some (absolute v.temporary).text)), v)
  | tries + 1, v =>
    let v := { v with namesTried := v.namesTried + 1 }
    let p := (absolute v.temporary).child (stem ++ numbered 8 v.namesTried)
    match v.tree.makeDirectory [] p.parts with
    | .ok tree => (.ok p, { v with tree })
    | .error code =>
      if code = OsError.alreadyThere then tryNames stem tries v
      else (.error (.coded code (some p.text)), v)

def makeTemporary (v : Volume) (stem : String) : Except OsError Path × Volume :=
  v.guarded .makeTemporary fun v => tryNames stem (v.tree.entries.length + 1) v

def drawToken (v : Volume) : String × Volume :=
  let v := { v with tokensDrawn := v.tokensDrawn + 1 }
  (String.ofList ((Bytes.lastDigits 16 12 v.tokensDrawn).map Bytes.hexDigit), v)

end Volume

end GuestRunner.Files
