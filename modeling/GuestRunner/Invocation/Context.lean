import GuestRunner.Capture.Sink
import GuestRunner.Invocation.Payload

/-!
# Contexts

What one run of a guest is given: the number of the invocation, the program name and the payload as
its two arguments, the environment and the sink for its output. A context is built for one run and
shares nothing with the next. It holds what its maker gave it, be it a text or not; guests only get
texts.
-/

set_option autoImplicit false

namespace GuestRunner

structure Context where
  id : Value
  programName : Value
  payloadText : String
  environment : List (Value × Value)
  sink : Sink
  deriving Repr

namespace Context

def arguments (c : Context) : List Value := [c.programName, .text c.payloadText]

def build (id : Value) (payload : Bytes) (sink : Sink) (programName : Value)
    (environment : List (Value × Value)) : Context :=
  ⟨id, programName, Payload.text payload, environment, sink⟩

def texts (environment : List (String × String)) : List (Value × Value) :=
  environment.map fun (name, value) => (.ofText name, .ofText value)

end Context

end GuestRunner
