import GuestRunner.Scratch.Basic

/-!
# Cleaning up a scratch directory

An owned directory is removed with everything in it; an error at looking for it is handed on as it
is, unless it says that nothing is there. In a directory of the caller the files of this
instance are removed one by one, and the first that cannot be removed ends the cleanup. What is
missing already is no failure. The answer is the directory, if anything was removed. A cleanup goes
step by step, because others may work on the same directory between two steps.
-/

set_option autoImplicit false

namespace GuestRunner

inductive Cleanup
  | look
  | removeDirectory
  | list
  | removeFiles (left : List Path) (removed : Bool)
  | finished (result : Except Problem (Option String))

namespace Cleanup

def start (s : Scratch) : Cleanup := if s.owned then .look else .list

def ending (s : Scratch) (removed : Bool) : Option String :=
  if removed then some s.path.text else none

def step (s : Scratch) : Cleanup → Files.Volume → Cleanup × Files.Volume
  | .look, v =>
    match v.examine s.path with
    | (.ok there, v) => (if there then .removeDirectory else .finished (.ok none), v)
    | (.error e, v) => (.finished (if e.isAbsence then .ok none else .error (.os e)), v)
  | .removeDirectory, v =>
    match v.removeAll s.path with
    | (.ok (), v) => (.finished (.ok (some s.path.text)), v)
    | (.error e, v) =>
      (.finished
        (if e.isMissing then .ok none
          else .error (.failure (.scratch (.removeDirectory s.path.text e)))), v)
  | .list, v =>
    let (files, v) := s.files v
    (.removeFiles files false, v)
  | .removeFiles [] removed, v => (.finished (.ok (ending s removed)), v)
  | .removeFiles (file :: rest) removed, v =>
    match v.unlink file with
    | (.ok (), v) => (.removeFiles rest true, v)
    | (.error e, v) =>
      if e.isMissing then (.removeFiles rest removed, v)
      else (.finished (.error (.failure (.scratch (.removeFile file.text e)))), v)
  | .finished result, v => (.finished result, v)

def left : Cleanup → Nat
  | .removeFiles files _ => files.length + 1
  | .finished _ => 0
  | _ => 1

def steps (s : Scratch) (n : Nat) (state : Cleanup × Files.Volume) : Cleanup × Files.Volume :=
  Nat.repeat (fun state => step s state.1 state.2) n state

def run (s : Scratch) (c : Cleanup) (v : Files.Volume) : Cleanup × Files.Volume :=
  let state := step s c v
  steps s state.1.left state

def result : Cleanup → Except Problem (Option String)
  | .finished result => result
  | _ => .ok none

theorem step_finished (s : Scratch) (r : Except Problem (Option String)) (v : Files.Volume) :
    step s (.finished r) v = (.finished r, v) := rfl

end Cleanup

def Scratch.cleanup (s : Scratch) (v : Files.Volume) :
    Except Problem (Option String) × Files.Volume :=
  let (c, v) := Cleanup.run s (Cleanup.start s) v
  (c.result, v)

end GuestRunner
