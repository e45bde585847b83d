import GuestRunner.Settings.Basic

/-!
# Results of invocations

What a successful invocation hands back: both output streams, the exit code, what was measured, the
number of the invocation and notes on how it was carried out. `Result.ofFields` reads a result from
named values with the same leniency as settings; the number alone has no default.
-/

set_option autoImplicit false

namespace GuestRunner

structure Result where
  output : Bytes
  stderr : Bytes
  exitCode : Int
  fuelConsumed : Option Int
  duration : Binary64
  id : Int
  metadata : List (String × Value)
  deriving Repr

namespace Result

def readFuel (v : Value) : Except (List Defect) (Option Int) :=
  let integer := Settings.Reading.integer
  Settings.Reading.located [.key "fuel_consumed"] (Settings.Reading.optional integer v)

open Settings Settings.Reading in
def ofFields (given : Fields) : Except (List Defect) Result := do
  let output := simple given "output" [] bytes
  let stderr := simple given "stderr" [] bytes
  let exitCode := simple given "exit_code" 0 integer
  let fuel := field given "fuel_consumed" none readFuel
  let duration := simple given "duration_ms" Binary64.zero number
  let id : Except (List Defect) Int :=
    match given.lookup "invocation_id" with
    | none => .error [⟨[.key "invocation_id"], .absent⟩]
    | some v => located [.key "invocation_id"] (integer v)
  let metadata := field given "metadata" [] (table "metadata")
  let (output, stderr, exitCode, fuel, duration, id, metadata) ←
    both output <| both stderr <| both exitCode <| both fuel <| both duration <| both id metadata
  return ⟨output, stderr, exitCode, fuel, duration, id, metadata⟩

def operation : String := "wasi_processor.core.models.InvocationResult"

def make (given : Settings.Fields) : Except Problem Result :=
  match ofFields given with
  | .ok r => .ok r
  | .error found => .error (.refusal (.defectiveResult found))

def fields (r : Result) : Settings.Fields :=
  [("output", Value.bytesOf r.output),
    ("stderr", Value.bytesOf r.stderr),
    ("exit_code", .int r.exitCode),
    ("fuel_consumed", Value.ofOption .int r.fuelConsumed),
    ("duration_ms", .float r.duration),
    ("invocation_id", .int r.id),
    ("metadata", .table (r.metadata.map fun (name, v) => (.ofText name, v)))]

end Result

end GuestRunner
