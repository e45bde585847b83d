import GuestRunner.Capture.Sink
import GuestRunner.Scratch.Cleanup

/-!
# Capture

A processor captures the output of its guests in one way for all of its life. Every run gets a sink
of its own: a fresh pair of buffers, or a pair of files that no other run of the instance has,
because a counter is part of their names.
-/

set_option autoImplicit false

namespace GuestRunner

inductive Capture
  | buffered
  | files (scratch : Scratch) (opened : Nat)
  deriving DecidableEq, Repr

namespace Capture

def kind : Capture → CaptureKind
  | .buffered => .buffered
  | .files .. => .file

def scratch? : Capture → Option Scratch
  | .buffered => none
  | .files scratch _ => some scratch

def create (kind : CaptureKind) (directory : Option String) (v : Files.Volume) :
    Except Problem Capture × Files.Volume :=
  match kind with
  | .buffered => (.ok .buffered, v)
  | .file =>
    match Scratch.create directory v with
    | (.ok scratch, v) => (.ok (.files scratch 0), v)
    | (.error problem, v) => (.error problem, v)

def kindOf (v : Value) : Except Refusal CaptureKind :=
  let found :=
    match v with
    | .text s => CaptureKind.ofLabel? s
    | .capture kind => some kind
    | _ => none
  match found with
  | some kind => .ok kind
  | none => .error (.unknownCapture v)

def runLabel (id : Value) (opened : Nat) : String := id.plain ++ "-" ++ toString opened

def nextSink (c : Capture) (id : Value) : Sink × Capture :=
  match c with
  | .buffered => (.buffered [] [], .buffered)
  | .files scratch opened =>
    let label := runLabel id opened
    (.files (scratch.streamPath label .stdout) (scratch.streamPath label .stderr),
      .files scratch (opened + 1))

/-- What keeps a number out of the label of a run, before the run is counted. A processor counts its
own numbers up from one, so they stay far below the bound. -/
def refusal? (c : Capture) (id : Value) : Option Refusal :=
  match c with
  | .buffered => none
  | .files .. => if id.isWritable then none else some .unwritableInteger

def openSink (c : Capture) (id : Value) (v : Files.Volume) :
    Except Problem Sink × Capture × Files.Volume :=
  match c.refusal? id with
  | some refusal => (.error (.refusal refusal), c, v)
  | none =>
    let (sink, c) := c.nextSink id
    match sink.prepare v with
    | (.ok (), v) => (.ok sink, c, v)
    | (.error f, v) => (.error f, c, v)

def close (c : Capture) (v : Files.Volume) : Except Problem (Option String) × Files.Volume :=
  match c with
  | .buffered => (.ok none, v)
  | .files scratch _ => scratch.cleanup v

end Capture

end GuestRunner
