import GuestRunner.Processor.Call

/-!
# Invoking a processor

An invocation runs all its steps in a row. A guest may start another invocation of the same
processor before it ends; how deep this can go is limited, so that every invocation comes to an end.
-/

set_option autoImplicit false

namespace GuestRunner.Scene

def nestingLimit : Nat := 1000

def outputOnly (r : Except Problem Result × Scene) : Except Problem Bytes × Scene :=
  (r.1.map (·.output), r.2)

def invokeWithin : Nat → Value → Scene → Except Problem Result × Scene
  | 0, _, s => (.error (.refusal .tooDeep), s)
  | depth + 1, payload, s =>
    let again : Call.Again := fun payload s => outputOnly (invokeWithin depth payload s)
    let (c, s) := Call.run again (.admission payload) s
    (c.result, s)

def again : Call.Again := fun payload s => outputOnly (invokeWithin nestingLimit payload s)

def invoke (payload : Value) (s : Scene) : Except Problem Result × Scene :=
  let (c, s) := Call.run again (.admission payload) s
  (c.result, s)

def process (payload : Value) (s : Scene) : Except Problem Bytes × Scene :=
  outputOnly (invoke payload s)

def processEach : List Value → Scene → Except Problem (List Bytes) × Scene
  | [], s => (.ok [], s)
  | payload :: rest, s =>
    match process payload s with
    | (.error problem, s) => (.error problem, s)
    | (.ok output, s) =>
      let (outputs, s) := processEach rest s
      (outputs.map (output :: ·), s)

def processThenClose (payloads : List Value) (s : Scene) : Except Problem (List Bytes) × Scene :=
  let (outputs, s) := processEach payloads s
  let (done, s) := s.close
  (done.bind fun _ => outputs, s)

end GuestRunner.Scene
