/-!
# Catalogue

The names under which the parts of the runner are published: all of them at the top, and those that
others build on at the core. Only the top carries a version.
-/

set_option autoImplicit false

namespace GuestRunner

structure Catalogue where
  names : List String
  version : Option String
  deriving Repr

namespace Catalogue

def failures : List String :=
  ["CompilationError", "ErrorKind", "ExecutionError", "GuestReportedError",
    "InstantiationFailedError", "InvocationTimeoutError", "NonZeroExitError",
    "ProcessorClosedError", "ProcessorConfigError", "ScratchIOError", "TrappedError",
    "WasiProcessorError"]

def models : List String :=
  ["BackendType", "CaptureStrategy", "InvocationResult", "ProcessorConfig"]

def sorted (names : List String) : List String := names.mergeSort fun a b => !(b < a)

def core : Catalogue where
  names := sorted (failures ++ models ++ ["CompiledModule", "ExecutionBackend", "ExecutionOutcome"])
  version := none

def top : Catalogue where
  names := sorted (failures ++ models ++
    ["ProcessorLogger", "WasiProcessor", "configure_structlog", "create_processor", "load_config"])
  version := some "0.1.0"

end Catalogue

end GuestRunner
