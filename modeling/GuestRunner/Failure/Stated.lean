import GuestRunner.Arguments

/-!
# Failures that are stated by a caller

A caller can state a failure by its name and arguments. Its text is the one argument it is given, or
all of them as a tuple; the failures of an invocation take named arguments besides.
-/

set_option autoImplicit false

namespace GuestRunner.Failure

def textOf : List Value → String
  | [] => ""
  | [v] => v.plain
  | vs => (Value.tuple vs).shown

def general? (name : String) : Option (String → Failure) :=
  match name with
  | "WasiProcessorError" => some .general
  | "ProcessorConfigError" => some fun text => .settings (.stated text)
  | "CompilationError" => some fun text => .compilation (.stated text)
  | "ProcessorClosedError" => some .closed
  | "ScratchIOError" => some fun text => .scratch (.stated text)
  | _ => none

def signature (name : String) (required namedOnly : List String) : Signature where
  operation := name ++ ".__init__"
  receiver := ["self"]
  required := required
  optional := []
  namedOnly := namedOnly ++ ["invocation_id"]
  takesOthers := false

def reported : Value → Except Refusal Bytes
  | .bytes .fixed content | .bytes .growable content => .ok content
  | v => .error (.unknownAttribute v.typeName "decode")

def findOr (default : Value) (name : String) (arguments : List (String × Value)) : Value :=
  (arguments.lookup name).getD default

def find (name : String) (arguments : List (String × Value)) : Value :=
  findOr .null name arguments

open Failure in
def stated (name : String) (unnamed : List Value) (named : List (String × Value)) :
    Option (Except Refusal Failure) :=
  match general? name with
  | some make =>
    some (if named.isEmpty then .ok (make (textOf unnamed)) else .error (.noNamedArguments name))
  | none =>
    let base := signature "ExecutionError" ["message"] []
    match name with
    | "ExecutionError" => some do
      let (given, _) ← base.accept unnamed named
      return .execution (find "message" given).plain (find "invocation_id" given)
    | "InstantiationFailedError" => some do
      let (given, _) ← base.accept unnamed named
      return .instantiation (.stated (find "message" given).plain) (find "invocation_id" given)
    | "TrappedError" => some do
      let (given, _) ←
        (signature name ["message"] ["trap_reason", "stderr"]).accept unnamed named
      return .trapped (find "message" given).plain (find "trap_reason" given)
        (findOr (Value.bytesOf []) "stderr" given) (find "invocation_id" given)
    | "NonZeroExitError" => some do
      let (given, _) ← (signature name ["exit_code"] []).accept unnamed named
      return .nonZeroExit (find "exit_code" given) (find "invocation_id" given)
    | "GuestReportedError" => some do
      let (given, _) ← (signature name ["stderr"] ["exit_code"]).accept unnamed named
      return .guestReported (← reported (find "stderr" given))
        (findOr (.int 0) "exit_code" given) (find "invocation_id" given)
    | "InvocationTimeoutError" => some do
      let (given, _) ← (signature name ["timeout"] []).accept unnamed named
      return .timedOut (find "timeout" given) (find "invocation_id" given)
    | _ => none

end GuestRunner.Failure
