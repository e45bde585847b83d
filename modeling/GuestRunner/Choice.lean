/-!
# Closed choices

The settings and failures of a runner name a few fixed alternatives. Each has a label, the text that
stands for it in settings, results and events, and a constant name in capitals.
-/

set_option autoImplicit false

namespace GuestRunner

inductive CaptureKind
  | buffered
  | file
  deriving DecidableEq, Repr, Inhabited

inductive EngineKind
  | wasmtime
  deriving DecidableEq, Repr, Inhabited

inductive FailureKind
  | notInstantiated
  | trapped
  | nonZeroExit
  | guestReported
  | timedOut
  deriving DecidableEq, Repr, Inhabited

def CaptureKind.label : CaptureKind → String
  | .buffered => "buffered"
  | .file => "file"

def EngineKind.label : EngineKind → String
  | .wasmtime => "wasmtime"

def FailureKind.label : FailureKind → String
  | .notInstantiated => "instantiation_failed"
  | .trapped => "trapped"
  | .nonZeroExit => "non_zero_exit"
  | .guestReported => "guest_reported_error"
  | .timedOut => "timed_out"

def CaptureKind.all : List CaptureKind := [.buffered, .file]
def EngineKind.all : List EngineKind := [.wasmtime]
def FailureKind.all : List FailureKind :=
  [.notInstantiated, .trapped, .nonZeroExit, .guestReported, .timedOut]

def CaptureKind.ofLabel? (text : String) : Option CaptureKind := all.find? (·.label = text)
def EngineKind.ofLabel? (text : String) : Option EngineKind := all.find? (·.label = text)
def FailureKind.ofLabel? (text : String) : Option FailureKind := all.find? (·.label = text)

theorem CaptureKind.ofLabel?_label (k : CaptureKind) : ofLabel? k.label = some k := by
  cases k <;> decide

theorem EngineKind.ofLabel?_label (k : EngineKind) : ofLabel? k.label = some k := by
  cases k; decide

theorem FailureKind.ofLabel?_label (k : FailureKind) : ofLabel? k.label = some k := by
  cases k <;> decide

inductive Choice
  | capture
  | engine
  | failure
  deriving DecidableEq, Repr

def Choice.name : Choice → String
  | .capture => "CaptureStrategy"
  | .engine => "BackendType"
  | .failure => "ErrorKind"

def Choice.labels : Choice → List String
  | .capture => CaptureKind.all.map (·.label)
  | .engine => EngineKind.all.map (·.label)
  | .failure => FailureKind.all.map (·.label)

def Choice.constant (label : String) : String := String.ofList (label.toList.map Char.toUpper)

end GuestRunner
