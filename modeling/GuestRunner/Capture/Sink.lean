import GuestRunner.Scratch.Basic

/-!
# Sinks

A sink takes what one run of a guest writes to its two streams and gives it back: from memory, or
from two files. A stream file that is missing counts as empty. A file that is in the way or cannot
be used is a failure of the scratch directory; only the removal of the files at the end reports what
the system says as it is.
-/

set_option autoImplicit false

namespace GuestRunner

inductive Sink
  | buffered (out err : Bytes)
  | files (out err : Path)
  deriving DecidableEq, Repr

namespace Sink

def pathOf (out err : Path) : Stream → Path
  | .stdout => out
  | .stderr => err

def clear (sink : Sink) (stream : Stream) (v : Files.Volume) :
    Except Problem Unit × Files.Volume :=
  match sink with
  | .buffered .. => (.ok (), v)
  | .files out err =>
    let path := pathOf out err stream
    match v.truncate path with
    | (.ok (), v) => (.ok (), v)
    | (.error e, v) =>
      (if e.isMissing then .ok () else .error (.ofScratch (.truncate path.name) e), v)

def prepare (sink : Sink) (v : Files.Volume) : Except Problem Unit × Files.Volume :=
  match sink.clear .stdout v with
  | (.ok (), v) => sink.clear .stderr v
  | (.error f, v) => (.error f, v)

def write (sink : Sink) (stream : Stream) (chunk : Bytes) (v : Files.Volume) :
    Except OsError Unit × Sink × Files.Volume :=
  match sink, stream with
  | .buffered out err, .stdout => (.ok (), .buffered (out ++ chunk) err, v)
  | .buffered out err, .stderr => (.ok (), .buffered out (err ++ chunk), v)
  | .files out err, stream =>
    let (done, v) := v.append (pathOf out err stream) chunk
    (done, sink, v)

/-- What a guest writes at a position replaces what a file has there. Buffers only grow. -/
def writeAt (sink : Sink) (stream : Stream) (position : Nat) (chunk : Bytes) (v : Files.Volume) :
    Except OsError Unit × Sink × Files.Volume :=
  match sink with
  | .buffered .. => sink.write stream chunk v
  | .files out err =>
    let (done, v) := v.writeAt (pathOf out err stream) position chunk
    (done, sink, v)

def drain (sink : Sink) (stream : Stream) (v : Files.Volume) :
    Except Problem Bytes × Files.Volume :=
  match sink, stream with
  | .buffered out _, .stdout => (.ok out, v)
  | .buffered _ err, .stderr => (.ok err, v)
  | .files out err, stream =>
    let path := pathOf out err stream
    match v.readStream path with
    | (.ok content, v) => (.ok content, v)
    | (.error e, v) =>
      (if e.isMissing then .ok [] else .error (.ofScratch (.read path.name) e), v)

def discard (sink : Sink) (stream : Stream) (v : Files.Volume) :
    Except OsError Unit × Sink × Files.Volume :=
  match sink, stream with
  | .buffered _ err, .stdout => (.ok (), .buffered [] err, v)
  | .buffered out _, .stderr => (.ok (), .buffered out [], v)
  | .files out err, stream =>
    match v.unlink (pathOf out err stream) with
    | (.ok (), v) => (.ok (), sink, v)
    | (.error e, v) => (if e.isMissing then .ok () else .error e, sink, v)

def release (sink : Sink) (v : Files.Volume) : Except OsError Unit × Sink × Files.Volume :=
  match sink.discard .stdout v with
  | (.ok (), sink, v) => sink.discard .stderr v
  | (.error e, sink, v) => (.error e, sink, v)

end Sink

end GuestRunner
