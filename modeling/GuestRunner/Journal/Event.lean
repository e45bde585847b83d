import GuestRunner.Invocation.Result
import GuestRunner.Text.Casing

/-!
# Events

What a processor tells about itself: a module was compiled, a scratch directory set up, an
invocation started, completed or failed, the processor closed. An event has a severity, a name and
fields. The texts in it that a guest or a caller decides are clipped, so that no event is much
longer than another. Loggers take emissions, which are events whose severity and subject may be any
value.
-/

set_option autoImplicit false

namespace GuestRunner

namespace Severity

def debug : Int := 10
def info : Int := 20
def warning : Int := 30
def error : Int := 40
def critical : Int := 50

def named : List (Int × String) :=
  [(critical, "critical"), (error, "error"), (warning, "warning"), (info, "info"),
    (debug, "debug"), (0, "notset")]

def texts : List String :=
  ["CRITICAL", "FATAL", "ERROR", "WARN", "WARNING", "INFO", "DEBUG", "NOTSET"]

def unnamed (text : String) : String := "level " ++ Text.Casing.lower text

def name (severity : Value) : Except Refusal String :=
  match severity.keyless? with
  | some typeName => .error (.noKey typeName)
  | none =>
    match severity.integer?.bind (List.lookup · named), severity with
    | some name, _ => .ok name
    | none, .text s =>
      if texts.contains s then .error (.unknownAttribute "int" "lower") else .ok (unnamed s)
    | none, .tuple [] => .error .fewPlaceholders
    | none, .tuple [v] => .ok (unnamed v.plain)
    | none, .tuple _ => .error .manyPlaceholders
    | none, v => .ok (unnamed v.plain)

end Severity

structure Emission where
  severity : Value
  subject : Value
  fields : List (String × Value)
  deriving Repr

structure Event where
  severity : Int
  name : String
  fields : List (String × Value)
  deriving Repr

namespace Event

def emission (e : Event) : Emission := ⟨.int e.severity, .text e.name, e.fields⟩

def pathLimit : Nat := 140
def errorLimit : Nat := 200
def clipMark : String := "...[truncated]"

/-- A path that is too long loses its end and gets a mark instead; with it, it has full length. -/
def clipPath (path : String) : String :=
  if path.length ≤ pathLimit then path
  else String.ofList (path.toList.take (pathLimit - clipMark.length)) ++ clipMark

def clipError (message : String) : String := String.ofList (message.toList.take errorLimit)

def moduleCompiled (backend size digest duration : Value) : Event where
  severity := Severity.info
  name := "module.compiled"
  fields :=
    [("backend", backend), ("size_bytes", size), ("digest", digest), ("duration_ms", duration)]

def scratchCreated (path owned : Value) : Event where
  severity := Severity.info
  name := "scratch.created"
  fields := [("path", path), ("owned", owned)]

def invocationStart (id payloadSize capture : Value) (extra : List (String × Value)) : Event where
  severity := Severity.debug
  name := "invocation.start"
  fields :=
    [("invocation_id", id), ("payload_bytes", payloadSize), ("capture", capture)] ++ extra

def invocationComplete (r : Result) : Event where
  severity := Severity.debug
  name := "invocation.complete"
  fields :=
    [("invocation_id", .int r.id), ("exit_code", .int r.exitCode),
      ("output_bytes", Value.ofNat r.output.length), ("stderr_bytes", Value.ofNat r.stderr.length),
      ("fuel_consumed", Value.ofOption .int r.fuelConsumed), ("duration_ms", .float r.duration)]

def failedId (f : Failure) (given : Value) : Value := if f.id.isTrue then f.id else given

def present (name : String) : Value → List (String × Value)
  | .null => []
  | v => [(name, v)]

def failureFields (id kind : Value) (typeName message : String) : List (String × Value) :=
  [("invocation_id", id), ("kind", kind), ("error_type", .text typeName),
    ("error", .text (clipError message))]

def invocationFailed (f : Failure) (duration given : Value) : Event where
  severity := Severity.warning
  name := "invocation.failed"
  fields :=
    failureFields (failedId f given)
      (Value.ofOption (fun kind => .text (FailureKind.label kind)) f.kind?) f.typeName f.message ++
      present "exit_code" f.exitCode ++ present "trap_reason" f.trapReason ++
      present "timeout" f.deadline ++ present "duration_ms" duration

def invocationFailedWith (v duration given : Value) : Event where
  severity := Severity.warning
  name := "invocation.failed"
  fields := failureFields given .null v.typeName v.plain ++ present "duration_ms" duration

def processorClosed (removed invocations : Value) : Event where
  severity := Severity.info
  name := "processor.closed"
  fields := [("removed_path", removed), ("invocations", invocations)]

theorem clipPath_length (path : String) : (clipPath path).length ≤ pathLimit := by
  unfold clipPath
  split
  · assumption
  · simp only [String.length_append, String.length_ofList, List.length_take]
    have : clipMark.length = 14 := by decide
    have : pathLimit = 140 := rfl
    omega

theorem clipError_length (message : String) : (clipError message).length ≤ errorLimit := by
  simp only [clipError, String.length_ofList, List.length_take]
  omega

end Event

end GuestRunner
