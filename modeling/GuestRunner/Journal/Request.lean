import GuestRunner.Arguments
import GuestRunner.Journal.Logger

/-!
# Requests to a logger

A caller can ask for an event by naming it and its arguments. What an argument is allowed to be
depends on the event alone; a path has to have a length, because it may have to be clipped.
-/

set_option autoImplicit false

namespace GuestRunner

inductive Detail
  | value (v : Value)
  | failure (f : Failure)
  | result (r : Result)

def Detail.asValue : Detail → Value
  | .value v => v
  | .failure _ | .result _ => .null

structure EventRequest where
  method : String
  arguments : List (String × Detail)

namespace EventRequest

def signature (operation : String) (required optional : List String) (takesOthers : Bool) :
    Signature where
  operation := "ProcessorLogger." ++ operation
  receiver := ["self"]
  required := required
  optional := optional
  namedOnly := []
  takesOthers := takesOthers

def emit : Signature := signature "_emit" ["level", "event"] [] true

def find (name : String) (arguments : List (String × Detail)) : Value :=
  ((arguments.lookup name).map Detail.asValue).getD .null

def values (arguments : List (String × Detail)) : List (String × Value) :=
  arguments.map fun (name, detail) => (name, detail.asValue)

def clipItems (count : Nat) (v kept : Value) : Except Refusal Value :=
  if count ≤ Event.pathLimit then .ok v
  else .ok (.text (kept.shown ++ Event.clipMark))

def clipValue (v : Value) : Except Refusal Value :=
  let most := Event.pathLimit - Event.clipMark.length
  match v with
  | .text path => .ok (.text (Event.clipPath path))
  | .brokenText path => .ok (.brokenText (Event.clipPath path))
  | .list items => clipItems items.length v (.list (items.take most))
  | .tuple items => clipItems items.length v (.tuple (items.take most))
  | .bytes kind content => clipItems content.length v (.bytes kind (content.take most))
  | .capture _ | .engine _ => .ok v
  | .table entries =>
    if entries.length ≤ Event.pathLimit then .ok v else .error (.noKey "slice")
  | v => .error (.noLength v.typeName)

def unfit (argument : Option Detail) (part : String) : Refusal :=
  .unknownAttribute ((argument.map Detail.asValue).getD .null).typeName part

def emission (request : EventRequest) : Except Refusal Emission := do
  match request.method with
  | "emit" =>
    let (given, others) ← emit.accept [] request.arguments
    return ⟨find "level" given, find "event" given, values others⟩
  | "module_compiled" =>
    let (given, _) ← (signature "log_module_compiled"
      ["backend", "size_bytes", "digest", "duration_ms"] [] false).accept [] request.arguments
    return (Event.moduleCompiled (find "backend" given) (find "size_bytes" given)
      (find "digest" given) (find "duration_ms" given)).emission
  | "scratch_created" =>
    let (given, _) ←
      (signature "log_scratch_created" ["path", "owned"] [] false).accept [] request.arguments
    return (Event.scratchCreated (← clipValue (find "path" given)) (find "owned" given)).emission
  | "invocation_start" =>
    let (given, others) ← (signature "log_invocation_start"
      ["invocation_id", "payload_bytes", "capture"] [] true).accept [] request.arguments
    match emit.misplaced emit.places others with
    | some refusal => throw refusal
    | none =>
      return (Event.invocationStart (find "invocation_id" given) (find "payload_bytes" given)
        (find "capture" given) (values others)).emission
  | "invocation_complete" =>
    let (given, _) ←
      (signature "log_invocation_complete" ["result"] [] false).accept [] request.arguments
    match given.lookup "result" with
    | some (.result r) => return (Event.invocationComplete r).emission
    | other => throw (unfit other "invocation_id")
  | "invocation_failed" =>
    let (given, _) ← (signature "log_invocation_failed" ["error"]
      ["duration_ms", "invocation_id"] false).accept [] request.arguments
    match given.lookup "error" with
    | some (.failure f) =>
      return (Event.invocationFailed f (find "duration_ms" given)
        (find "invocation_id" given)).emission
    | other =>
      return (Event.invocationFailedWith ((other.map Detail.asValue).getD .null)
        (find "duration_ms" given) (find "invocation_id" given)).emission
  | "processor_closed" =>
    let (given, _) ← (signature "log_processor_closed"
      ["removed_path", "invocations"] [] false).accept [] request.arguments
    let removed := find "removed_path" given
    let shown ← if removed.isTrue then clipValue removed else pure .null
    return (Event.processorClosed shown (find "invocations" given)).emission
  | other => throw (.unknownAttribute "ProcessorLogger" ("log_" ++ other))

def record (request : EventRequest) (logger : Logger) : Except Refusal (List Record) := do
  logger.record (← request.emission)

end EventRequest

end GuestRunner
