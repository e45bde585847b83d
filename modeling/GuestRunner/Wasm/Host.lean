import GuestRunner.Guest.Run
import GuestRunner.Wasm.Memory
import GuestRunner.Wasm.Module

/-!
# What guests can ask for

The functions that a guest can import: writing to its two output streams, reading, its arguments and
its environment, opening files below the directories it was granted, and ending. A call answers a
code, zero for success. Nothing can be written but the two streams, and standard input is empty.
What is written to a file can be read from it at once, where the guest was granted its directory. A
pointer that leads out of the memory, or to a word that does not start at a multiple of its size, is
a trap, and so is a flag that does not exist. What a call may copy out of the memory is bounded.
-/

set_option autoImplicit false

namespace GuestRunner.Wasm

inductive Number
  | i32 (n : UInt32)
  | i64 (n : UInt64)
  deriving DecidableEq, Repr

inductive Descriptor
  | directory (place : Place)
  /-- A file and how much of it was read. -/
  | file (place : Place) (position : Nat)
  deriving Repr

inductive Outlet
  | buffer
  /-- A file and how much was written to it through this stream. -/
  | file (place : Place) (position : Nat)
  deriving Repr

structure Host where
  arguments : List Bytes
  environment : List Bytes
  descriptors : List Descriptor
  outlet : Stream → Outlet
  volume : Files.Volume
  /-- What was written, the last first. -/
  written : List Act

namespace Host

def provider : String := "wasi_snapshot_preview1"

def functions : List (String × FunctionType) :=
  let i := ValueType.i32
  let l := ValueType.i64
  [("fd_write", ⟨[i, i, i, i], [i]⟩), ("fd_read", ⟨[i, i, i, i], [i]⟩), ("proc_exit", ⟨[i], []⟩),
    ("args_sizes_get", ⟨[i, i], [i]⟩), ("args_get", ⟨[i, i], [i]⟩),
    ("environ_sizes_get", ⟨[i, i], [i]⟩), ("environ_get", ⟨[i, i], [i]⟩),
    ("path_open", ⟨[i, i, i, i, i, l, l, i, i], [i]⟩)]

def provides (i : Import) : Bool :=
  match i.functionType? with
  | some type => i.provider = provider && functions.lookup i.name == some type
  | none => false

def success : UInt32 := 0
def badDescriptor : UInt32 := 8
def illegalText : UInt32 := 25
def invalid : UInt32 := 28
def isDirectory : UInt32 := 31
def tooManyLinks : UInt32 := 32
def nameTooLong : UInt32 := 37
def missing : UInt32 := 44
def exhausted : UInt32 := 48
def notDirectory : UInt32 := 54
def unsupported : UInt32 := 58
def notPermitted : UInt32 := 63

def firstDescriptor : Nat := 3

inductive Reaction
  | answer (code : UInt32) (memory : Memory) (host : Host)
  | exit (code : UInt32)
  /-- A pointer could not be followed, or a flag not be read. What was written stays written. -/
  | stray (host : Host)
  | unknown

def wordSize : Nat := 4

def loadWord? (m : Memory) (address : Nat) : Option UInt32 :=
  if address % wordSize = 0 then m.load? address wordSize else none

def storeWord? (m : Memory) (address n : Nat) : Option Memory :=
  if address % wordSize = 0 then m.store? address wordSize (UInt32.ofNat n) else none

def copyLimit : Nat := 134217728

def firstBuffer (m : Memory) (list : Nat) : Nat → Option (Option (Nat × Nat))
  | 0 => some none
  | n + 1 => do
    let address ← loadWord? m list
    let length ← loadWord? m (list + wordSize)
    if length = 0 then firstBuffer m (list + 2 * wordSize) n
    else some (some (address.toNat, length.toNat))

def withBuffer (h : Host) (m : Memory) (list count : Nat)
    (act : Option (Nat × Nat) → Reaction) : Reaction :=
  let listSize := count * (2 * wordSize)
  if copyLimit < listSize then .answer exhausted m h
  else
    match firstBuffer m list count with
    | none => .stray h
    | some none => act none
    | some (some (address, length)) =>
      if copyLimit < listSize + length then .answer exhausted m h else act (some (address, length))

def storing (m : Memory) (h : Host) (address n : Nat) : Reaction :=
  match storeWord? m address n with
  | some m => .answer success m h
  | none => .stray h

def streamOf (descriptor : Nat) : Option Stream :=
  match descriptor with
  | 1 => some .stdout
  | 2 => some .stderr
  | _ => none

def chunk? (m : Memory) : Option (Nat × Nat) → Option Bytes
  | none => some []
  | some (address, length) => m.read? address length

def descriptor? (h : Host) (number : Nat) : Option Descriptor :=
  if number < firstDescriptor then none else h.descriptors[number - firstDescriptor]?

def setDescriptor (h : Host) (number : Nat) (d : Descriptor) : Host :=
  { h with descriptors := h.descriptors.set (number - firstDescriptor) d }

def setOutlet (h : Host) (stream : Stream) (outlet : Outlet) : Host :=
  { h with outlet := fun s => if s = stream then outlet else h.outlet s }

/-- Takes a chunk to where a stream leads. Two streams that lead to one file write over each other,
since each goes on from where it stopped itself. -/
def emit (h : Host) (stream : Stream) (chunk : Bytes) : Host :=
  match h.outlet stream with
  | .buffer => { h with written := .write stream chunk :: h.written }
  | .file place position =>
    { h.setOutlet stream (.file place (position + chunk.length)) with
      volume := { h.volume with tree := h.volume.tree.overwrite place position chunk },
      written := .writeAt stream position chunk :: h.written }

def write (h : Host) (m : Memory) (descriptor list count result : Nat) : Reaction :=
  h.withBuffer m list count fun buffer =>
    match streamOf descriptor, h.descriptor? descriptor, chunk? m buffer with
    | some _, _, none | none, some (.file ..), none => .stray h
    | none, _, _ => .answer badDescriptor m h
    | some _, _, some [] => storing m h result 0
    | some stream, _, some chunk =>
      storing m (h.emit stream chunk) result chunk.length

def read (h : Host) (m : Memory) (descriptor list count result : Nat) : Reaction :=
  h.withBuffer m list count fun buffer =>
    if descriptor = 0 then storing m h result 0
    else
      match h.descriptor? descriptor, buffer with
      | none, _ | some (.directory _), _ => .answer badDescriptor m h
      | some (.file ..), none => storing m h result 0
      | some (.file place position), some (address, length) =>
        let chunk := ((h.volume.tree.content place).drop position).take length
        match if m.fits address length then m.write? address chunk else none with
        | none => .stray h
        | some m =>
          storing m (h.setDescriptor descriptor (.file place (position + chunk.length))) result
            chunk.length

def sizes (m : Memory) (h : Host) (texts : List Bytes) (count size : Nat) : Reaction :=
  match storeWord? m size (texts.foldl (fun n t => n + t.length + 1) 0) with
  | none => .stray h
  | some m => storing m h count texts.length

def layOut (texts : List Bytes) (pointers content : Nat) (m : Memory) : Option Memory :=
  match texts with
  | [] => some m
  | t :: rest => do
    let m ← storeWord? m pointers content
    let m ← m.write? content (t ++ [0])
    layOut rest (pointers + wordSize) (content + t.length + 1) m

def texts (m : Memory) (h : Host) (all : List Bytes) (pointers content : Nat) : Reaction :=
  match layOut all pointers content m with
  | some m => .answer success m h
  | none => .stray h

structure Opening where
  /-- How the path is looked up. -/
  lookup : UInt32
  /-- What is to be opened, and whether it is to be made first. -/
  kind : UInt32
  rights : UInt64
  inherited : UInt64
  /-- How the new descriptor waits and writes. -/
  manner : UInt32

namespace Opening

def follow : UInt32 := 1

def create : UInt32 := 1
def directory : UInt32 := 2
def exclusive : UInt32 := 4
def truncate : UInt32 := 8

def writeRight : UInt64 := 64

def synchronized : UInt32 := 2 ||| 8 ||| 16

def lookupCount : Nat := 1
def kindCount : Nat := 4
def rightCount : Nat := 30
def mannerCount : Nat := 5

def isKnown (o : Opening) : Bool :=
  o.lookup.toNat < 1 <<< lookupCount && o.kind.toNat < 1 <<< kindCount &&
    o.rights.toNat < 1 <<< rightCount && o.inherited.toNat < 1 <<< rightCount &&
    o.manner.toNat < 1 <<< mannerCount

def follows (o : Opening) : Bool := o.lookup &&& follow != 0
def wantsDirectory (o : Opening) : Bool := o.kind &&& directory != 0

def wantsFile (o : Opening) : Bool := o.kind &&& (create ||| exclusive ||| truncate) != 0

def wantsChange (o : Opening) : Bool :=
  o.kind &&& (create ||| truncate) != 0 || o.rights &&& writeRight != 0

def objection? (o : Opening) : Option UInt32 :=
  if o.manner &&& synchronized != 0 then some unsupported
  else if o.wantsDirectory && o.wantsFile then some invalid
  else if o.wantsChange then some notPermitted
  else none

end Opening

def pathObjection? (text : Bytes) (path : String) : Option UInt32 :=
  if text.contains 0 then some invalid
  else if Files.Volume.longestPath < text.length then some nameTooLong
  else if text.isEmpty then some missing
  else if Path.isAbsoluteText path then some notPermitted
  else none

def codeOf (code : Nat) : UInt32 :=
  if code = OsError.missing then missing
  else if code = OsError.notDirectory then notDirectory
  else if code = OsError.isDirectory then isDirectory
  else if code = OsError.nameTooLong then nameTooLong
  else if code = OsError.tooManyLinks then tooManyLinks
  else notPermitted

def opened (h : Host) (place : Place) (text : Bytes) (path : String) (o : Opening) :
    Except UInt32 Descriptor :=
  match o.objection?.or (pathObjection? text path) with
  | some code => .error code
  | none => do
    let tree := h.volume.tree
    let place ← (tree.locateBeneath o.follows place (Path.lookupParts path)).mapError codeOf
    match tree.node? place with
    | some (.file _) => if o.wantsDirectory then throw notDirectory else return .file place 0
    | some .directory => return .directory place
    | some (.link _) => throw tooManyLinks
    | none => throw missing

def pathOpen (h : Host) (m : Memory) (descriptor : Nat) (o : Opening) (path length result : Nat) :
    Reaction :=
  if !o.isKnown then .stray h
  else if copyLimit < length then .answer exhausted m h
  else
    match m.read? path length with
    | none => .stray h
    | some text =>
      match Text.Utf8.decode? text, h.descriptor? descriptor with
      | none, _ => .answer illegalText m h
      | some _, none => .answer badDescriptor m h
      | some _, some (.file ..) => .answer notDirectory m h
      | some path, some (.directory place) =>
        match h.opened place text path o with
        | .error code => .answer code m h
        | .ok d =>
          storing m { h with descriptors := h.descriptors ++ [d] } result
            (firstDescriptor + h.descriptors.length)

def call (name : String) (arguments : List Number) (m : Memory) (h : Host) : Reaction :=
  match name, arguments with
  | "fd_write", [.i32 d, .i32 list, .i32 count, .i32 result] =>
    h.write m d.toNat list.toNat count.toNat result.toNat
  | "fd_read", [.i32 d, .i32 list, .i32 count, .i32 result] =>
    h.read m d.toNat list.toNat count.toNat result.toNat
  | "proc_exit", [.i32 code] => .exit code
  | "args_sizes_get", [.i32 count, .i32 size] => sizes m h h.arguments count.toNat size.toNat
  | "args_get", [.i32 pointers, .i32 content] =>
    texts m h h.arguments pointers.toNat content.toNat
  | "environ_sizes_get", [.i32 count, .i32 size] =>
    sizes m h h.environment count.toNat size.toNat
  | "environ_get", [.i32 pointers, .i32 content] =>
    texts m h h.environment pointers.toNat content.toNat
  | "path_open", [.i32 d, .i32 lookup, .i32 path, .i32 length, .i32 kind, .i64 rights,
      .i64 inherited, .i32 manner, .i32 result] =>
    h.pathOpen m d.toNat ⟨lookup, kind, rights, inherited, manner⟩ path.toNat length.toNat
      result.toNat
  | _, _ => .unknown

end Host

end GuestRunner.Wasm
