import GuestRunner.Failure
import GuestRunner.Files.Volume

/-!
# Scratch directories

The files that guests write to lie in a scratch directory. It is either a fresh temporary one, which
is owned and removed in the end, or one that the caller names, which stays. Several instances may
share a directory: each has a token, and the names of its files start with it.
-/

set_option autoImplicit false

namespace GuestRunner

inductive Stream
  | stdout
  | stderr
  deriving DecidableEq, Repr

def Stream.suffix : Stream → String
  | .stdout => ".stdout"
  | .stderr => ".stderr"

structure Scratch where
  path : Path
  owned : Bool
  token : String
  deriving DecidableEq, Repr

namespace Scratch

def directoryStem : String := "wasi_processor_"

def fileStem (token : String) : String := "tmp-" ++ token ++ "-"

def suffixes : List String := [Stream.stdout.suffix, Stream.stderr.suffix]

def directoryText : Value → Except Refusal (Option String)
  | .null => .ok none
  | v => (Value.pathText v).map some

def place (given : Option String) (v : Files.Volume) :
    Except Problem (Path × Bool) × Files.Volume :=
  match given.filter (· ≠ "") with
  | none =>
    match v.makeTemporary directoryStem with
    | (.ok path, v) => (.ok (path, true), v)
    | (.error e, v) => (.error (.failure (.scratch (.create e))), v)
  | some text =>
    if text.toList.contains (Char.ofNat 0) then (.error (.os .nulInPath), v)
    else
      let path := v.resolve (Path.ofText text)
      if v.loops path then (.error (.refusal (.linkLoop path.text)), v) else (.ok (path, false), v)

def create (given : Option String) (v : Files.Volume) : Except Problem Scratch × Files.Volume :=
  match place given v with
  | (.error problem, v) => (.error problem, v)
  | (.ok (path, owned), v) =>
    let (token, v) := v.drawToken
    (.ok ⟨path, owned, token⟩, v)

def streamPath (s : Scratch) (label : String) (stream : Stream) : Path :=
  ⟨s.path.root, s.path.parts ++ (Path.ofText (fileStem s.token ++ label ++ stream.suffix)).parts⟩

def owns (s : Scratch) (name : String) : Bool :=
  (fileStem s.token).toList.isPrefixOf name.toList && suffixes.contains (Path.suffix name)

def files (s : Scratch) (v : Files.Volume) : List Path × Files.Volume :=
  match v.list s.path with
  | (.error _, v) => ([], v)
  | (.ok names, v) => ((names.filter s.owns).map s.path.child, v)

end Scratch

end GuestRunner
