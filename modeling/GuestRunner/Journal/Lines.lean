import GuestRunner.Journal.Request

/-!
# Log lines

A structured logger can print its records, either as objects of named values or as lines for a
reader. A line shows the time, the severity and the subject in columns, then who logs, then the
fields in the order of their names; a stack and an exception follow on lines of their own. What a
method is worth decides whether its records are printed at all.
-/

set_option autoImplicit false

namespace GuestRunner

inductive LogLine
  | object (fields : List (String × Value))
  | text (content : String)
  deriving Repr

namespace LogLine

def severityWidth : Nat := 9
def eventWidth : Nat := 30

def padded (width : Nat) (text : String) : String :=
  text ++ String.ofList (List.replicate (width - text.length) ' ')

def needsQuotes (c : Char) : Bool :=
  c == ' ' || c == '\t' || c == '=' || c == '\r' || c == '\n' || c == '"' || c == '\''

def shownField : Value → String
  | .brokenText s => if s.toList.any needsQuotes then Text.Quoted.broken s else s
  | v =>
    match v.text? with
    | some s => if s.toList.any needsQuotes then Text.Quoted.text s else s
    | none => v.shown

def sorted (fields : List (String × Value)) : List (String × Value) :=
  fields.mergeSort fun a b => !(b.1 < a.1)

def withoutTrailingBlanks (text : String) : String :=
  String.ofList (text.toList.reverse.dropWhile (· == ' ')).reverse

def afterColour : List Char → Option (List Char)
  | [] => none
  | c :: rest =>
    if c == 'm' then some rest
    else if c.isDigit || c == ';' then afterColour rest
    else none

theorem afterColour_length {text rest : List Char} (h : afterColour text = some rest) :
    rest.length < text.length := by
  induction text with
  | nil => simp [afterColour] at h
  | cons c text ih =>
    simp only [afterColour] at h
    split at h
    · simp_all
    · split at h
      · have := ih h
        simp only [List.length_cons]
        omega
      · simp at h

def uncoloured : List Char → List Char
  | '\x1b' :: '[' :: rest =>
    match h : afterColour rest with
    | some after =>
      have := afterColour_length h
      uncoloured after
    | none => '\x1b' :: uncoloured ('[' :: rest)
  | c :: rest => c :: uncoloured rest
  | [] => []
termination_by text => text.length
decreasing_by all_goals simp only [List.length_cons]; omega

def shownLines (text : String) : List String :=
  ((String.ofList (uncoloured text.toList)).splitOn "\n").map withoutTrailingBlanks

def timeField : String := "timestamp"

def askField : String := "stack_info"

def originFields : List String := ["logger", "logger_name"]

def stackField : String := "stack"
def exceptionField : String := "exception"

def handlingField : String := "exc_info"

def apart : List String :=
  [timeField, askField, stackField, exceptionField, handlingField] ++ originFields

def find (fields : List (String × Value)) (name : String) : Value :=
  (fields.lookup name).getD .null

def below : Value → Except Refusal String
  | .null => .ok ""
  | v =>
    match v.anyText? with
    | some s => .ok ("\n" ++ s)
    | none => .error (.noJoin v.typeName)

def rule : String := "\n\n" ++ String.ofList (List.replicate 79 '=') ++ "\n"

def footer (stack exception handling : Value) : Except Refusal String := do
  let trace ← below stack
  let between := match stack, exception with
    | .null, _ => ""
    | _, .null => if handling.isTrue then rule else ""
    | _, _ => rule
  return trace ++ between ++ (← below exception)

def column (subject : Value) : List String :=
  match subject with
  | .null => []
  | subject => [padded eventWidth subject.plain]

def forReaders (time method : String) (subject : Value) (fields : List (String × Value)) :
    Except Refusal (List String) := do
  let origins := originFields.filterMap fun name =>
    (fields.lookup name).map fun v => "[" ++ v.plain ++ "]"
  let shown := (sorted (fields.filter fun field => !apart.contains field.1)).map
    fun (name, v) => name ++ "=" ++ shownField v
  let line := " ".intercalate
    ([time, "[" ++ padded severityWidth method ++ "]"] ++ column subject ++ origins ++ shown)
  let rest ← footer (find fields stackField) (find fields exceptionField)
    (find fields handlingField)
  return shownLines (line ++ rest)

def heldKey : Value → String
  | .null => "null"
  | .bool b => if b then "true" else "false"
  | v => v.plain

mutual

def held : Value → Value
  | .list items | .tuple items => .list (heldEach items)
  | .table entries => .table (heldEntries entries)
  | .capture kind => .text kind.label
  | .engine kind => .text kind.label
  | v@(.bytes ..) | v@(.path _) | v@(.moment _) | v@(.settings _) => .text v.shown
  | v => v

def heldEach : List Value → List Value
  | [] => []
  | v :: rest => held v :: heldEach rest

def heldEntries : List (Value × Value) → List (Value × Value)
  | [] => []
  | (key, v) :: rest => (.text (heldKey key), held v) :: heldEntries rest

end

def forMachines (method : String) (subject : Value) (fields : List (String × Value)) : LogLine :=
  let given := fields.filter fun field => field.1 != askField
  let own := match subject with
    | .null => []
    | subject => [("event", held subject)]
  .object (Value.insert timeField (.bool true)
    (given.map (fun (name, v) => (name, held v)) ++ own ++ [("level", .text method)]))

structure Printing where
  least : Int
  asObjects : Bool
  deriving Repr

namespace Printing

def methodSeverities : List (String × Int) :=
  [("critical", Severity.critical), ("exception", Severity.error), ("error", Severity.error),
    ("warn", Severity.warning), ("warning", Severity.warning), ("info", Severity.info),
    ("debug", Severity.debug), ("notset", 0)]

def threshold (level : Value) : Except Refusal Int :=
  match level.anyText? with
  | some word =>
    let name := Text.Casing.lower word
    match methodSeverities.lookup name with
    | some n => .ok n
    | none => .error (.unknownLevel (.ofText name))
  | none =>
    match level.keyless?, level.integer? with
    | some typeName, _ => .error (.noKey typeName)
    | none, some n =>
      if (Severity.named.map (·.1)).contains n then .ok n else .error (.unknownLevel level)
    | none, none => .error (.unknownLevel level)

def signature : Signature where
  operation := "configure_structlog"
  receiver := []
  required := []
  optional := ["level", "use_json"]
  namedOnly := []
  takesOthers := false

def ofArguments (arguments : List (String × Value)) : Except Refusal Printing := do
  let (given, _) ← signature.accept [] arguments
  let level := (given.lookup "level").getD (.int Severity.info)
  return ⟨← threshold level, (find given "use_json").isTrue⟩

def methods : List String := ["debug", "info", "warning", "error", "critical"]

def methodSeverity (method : String) : Int := (methodSeverities.lookup method).getD Severity.info

def lines (p : Printing) (time : String) (request : EventRequest) :
    Except Refusal (List LogLine) := do
  let e ← request.emission
  let method := Logger.methodFor methods (← Severity.name e.severity)
  if methodSeverity method < p.least then return []
  Logger.guardOwn e.fields
  if p.asObjects then return [forMachines method e.subject e.fields]
  else return (← forReaders time method e.subject e.fields).map LogLine.text

end Printing

end LogLine

end GuestRunner
