import GuestRunner.Backend.Scripted
import GuestRunner.Files.Layout
import GuestRunner.Journal.Request
import GuestRunner.Processor.Construction
import GuestRunner.Processor.Deadline

/-!
# Commands of a session

A session is a conversation with the runner: each command acts on the files or on an object that an
earlier command made and named. Here is what can be said; `Session.Run` says what it does.
-/

set_option autoImplicit false

namespace GuestRunner

inductive BackendChoice
  | scripted (script : Scripted.Script)
  | engine

inductive Setup
  | bytes (wasm : Value) (directory : Option String) (settings : Settings.Fields)
  | file (path : Value) (directory : Option String) (settings : Settings.Fields)
  | source (text : String) (overrides : Settings.Fields)
  | settings (given : Settings.Fields) (overrides : Settings.Fields)
  | defaults (overrides : Settings.Fields)

inductive Command
  | write (path : String) (content : Files.Content)
  | remove (path : String)
  | link (path target : String)
  | read (path : String)
  | list (path : Option String)
  | fail (call : Files.Call) (code count : Nat)
  | newScratch (name : String) (directory : Value)
  | streamPaths (on label : String)
  | scratchFiles (on : String)
  | cleanup (on : String)
  | newCapture (name : String) (strategy directory : Value)
  | openSink (on name : String) (id : Value)
  | closeCapture (on : String)
  | newSink (name out err : String)
  | prepare (on : String)
  | drain (on : String) (stream : Stream)
  | release (on : String)
  | writeSink (on : String) (stream : Stream) (chunk : Bytes)
  | withSink (on : String) (ending : Value)
  | newProcessor (name : String) (setup : Setup) (backend : BackendChoice) (logger : Logger)
  | state (on : String)
  | settings (on : String)
  | close (on : String)
  | invoke (on : String) (payload : Value)
  | process (on : String) (payload : Value)
  | processThenClose (on : String) (payloads : List Value)
  | invokeAsync (on : String) (payload timeout : Value) (outputOnly : Bool)
  | invokeMany (on : String) (payloads : List Value) (underDeadline : Bool)
  | newBackend (name : String) (settings : Settings.Fields) (engine : Option Value)
  | compile (on name : String) (wasm : Value)
  | runModule (on module : String) (payload id programName : Value)
      (environment : List (Value × Value))
  | closeBackend (on : String)

end GuestRunner
