import GuestRunner.Journal.Event

/-!
# Loggers

A logger turns an emission into at most one record. There are three kinds. A structured one has a
method for every severity and keeps the fields beside the subject. A leveled one passes what reaches
its threshold and refuses fields that its records use themselves. A selective one has only some
methods, perhaps with attributes that cannot be called under the names of others, and falls back to
`info` for what it lacks, if it has that.
-/

set_option autoImplicit false

namespace GuestRunner

inductive Logger
  | structured
  | leveled (threshold : Int)
  | selective (methods attributes : List String)
  deriving DecidableEq, Repr

inductive Record
  | structured (method : String) (subject : Value) (fields : List (String × Value))
  | leveled (severity message : String) (fields : List (String × Value))
  | called (method : String) (subject : Value) (fields : List (String × Value))
  deriving Repr

namespace Logger

def fallback : String := "info"

def methodFor (available : List String) (name : String) : String :=
  if available.contains name then name else fallback

def selected (available attributes : List String) (name : String) : Except Refusal String :=
  let method := methodFor (available.filter fun name => !attributes.contains name) name
  if attributes.contains method then .error (.noCall "int")
  else if available.contains method then .ok method
  else .error (.unknownAttribute "Partial" method)

def ownField : String := "method_name"

def guardOwn (fields : List (String × Value)) : Except Refusal Unit :=
  if fields.any (·.1 == ownField) then
    .error (.repeatedArgument "BoundLoggerBase._proxy_to_logger" ownField)
  else .ok ()

def reserved : List String :=
  ["name", "msg", "args", "levelname", "levelno", "pathname", "filename", "module", "exc_info",
    "exc_text", "stack_info", "lineno", "funcName", "created", "msecs", "relativeCreated",
    "thread", "threadName", "processName", "process", "message", "asctime"]

def passes (threshold severity : Int) : Bool := 0 < severity && threshold ≤ severity

def rank : Value → Except Refusal Int
  | .int n => .ok n
  | .bool b => .ok (if b then 1 else 0)
  | _ => .error .levelNotInteger

def record (logger : Logger) (e : Emission) : Except Refusal (List Record) :=
  match logger with
  | .structured => do
    let method ← Severity.name e.severity
    guardOwn e.fields
    return [.structured method e.subject e.fields]
  | .leveled threshold => do
    if passes threshold (← rank e.severity) then
      match e.fields.find? fun field => reserved.contains field.1 with
      | some field => .error (.reservedField field.1)
      | none =>
        return [.leveled (← Severity.name e.severity) e.subject.plain
          (("event", e.subject) :: e.fields)]
    else return []
  | .selective available attributes => do
    let method ← selected available attributes (← Severity.name e.severity)
    return [.called method e.subject e.fields]

end Logger

end GuestRunner
