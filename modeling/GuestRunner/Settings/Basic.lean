import GuestRunner.Arguments
import GuestRunner.Settings.Reading

/-!
# Settings

What a processor can be told about its module, its guests and their output. `Settings.ofFields`
builds settings from named values: a field that is not given has its default, a name that is no
field is ignored, and every field with a defect is reported, in the order of the fields. `fields`
gives the settings back as named values.
-/

set_option autoImplicit false

namespace GuestRunner

structure Settings where
  path : Option String
  scratchDirectory : Option String
  capture : CaptureKind
  engine : EngineKind
  programName : String
  environment : List (String × String)
  mounts : List (String × String)
  fuelBudget : Option Nat
  memoryBytes : Option Nat
  timeoutSeconds : Option Binary64
  failOnStderr : Bool
  deriving DecidableEq, Repr

namespace Settings

def defaultProgramName : String := "wasi_processor"

def default : Settings where
  path := none
  scratchDirectory := none
  capture := .buffered
  engine := .wasmtime
  programName := defaultProgramName
  environment := []
  mounts := []
  fuelBudget := none
  memoryBytes := none
  timeoutSeconds := none
  failOnStderr := true

abbrev Fields := List (String × Value)

def field {α : Type} (given : Fields) (name : String) (default : α)
    (read : Value → Except (List Defect) α) : Except (List Defect) α :=
  match given.lookup name with
  | none => .ok default
  | some v => read v

def simple {α : Type} (given : Fields) (name : String) (default : α)
    (read : Value → Except Complaint α) : Except (List Defect) α :=
  field given name default fun v => Reading.located [.key name] (read v)

open Reading in
def ofFields (given : Fields) : Except (List Defect) Settings := do
  let d := Settings.default
  let path := simple given "path" d.path (optional text)
  let scratchDirectory := simple given "io_dir" d.scratchDirectory (optional text)
  let capture := simple given "capture" d.capture captureKind
  let engine := simple given "backend" d.engine engineKind
  let name := simple given "program_name" d.programName usableName
  let environment := field given "env" d.environment (bindings "env")
  let mounts := field given "readonly_mounts" d.mounts (mountList "readonly_mounts")
  let fuel := simple given "fuel_budget" d.fuelBudget (optional positiveInteger)
  let memory := simple given "memory_bytes" d.memoryBytes (optional positiveInteger)
  let timeout := simple given "timeout_seconds" d.timeoutSeconds (optional positiveNumber)
  let failOnStderr := simple given "fail_on_stderr" d.failOnStderr boolean
  let (path, scratchDirectory, capture, engine, name, environment, mounts, fuel, memory,
      timeout, failOnStderr) ←
    both path <| both scratchDirectory <| both capture <| both engine <| both name <|
      both environment <| both mounts <| both fuel <| both memory <| both timeout failOnStderr
  return ⟨path, scratchDirectory, capture, engine, name, environment, mounts, fuel, memory,
    timeout, failOnStderr⟩

def textTable (entries : List (String × String)) : Value :=
  .table (entries.map fun (key, value) => (.ofText key, .ofText value))

def fields (s : Settings) : Fields :=
  [("path", Value.ofOption .ofText s.path),
    ("io_dir", Value.ofOption .ofText s.scratchDirectory),
    ("capture", .capture s.capture),
    ("backend", .engine s.engine),
    ("program_name", .text s.programName),
    ("env", textTable s.environment),
    ("readonly_mounts",
      .list (s.mounts.map fun (host, guest) => .tuple [.ofText host, .ofText guest])),
    ("fuel_budget", Value.ofOption Value.ofNat s.fuelBudget),
    ("memory_bytes", Value.ofOption Value.ofNat s.memoryBytes),
    ("timeout_seconds", Value.ofOption .float s.timeoutSeconds),
    ("fail_on_stderr", .bool s.failOnStderr)]

def operation : String := "wasi_processor.core.models.ProcessorConfig"

def make (given : Fields) : Except Problem Settings :=
  if given.any (·.1 = "self") then
    .error (.refusal (.repeatedArgument "ProcessorConfig.__init__" "self"))
  else
    match ofFields given with
    | .ok s => .ok s
    | .error found => .error (.failure (.settings (.defects found)))

def ofEntries (entries : List (Value × Value)) : Except Problem Settings :=
  match namedArguments entries with
  | .ok given => make given
  | .error refusal => .error (.refusal refusal)

def ofValue (v : Value) : Except Problem Settings :=
  match v with
  | .table entries => ofEntries entries
  | .settings given => make given
  | _ => .error (.failure (.settings (.defects [⟨[], .notSettings⟩])))

end Settings

end GuestRunner
