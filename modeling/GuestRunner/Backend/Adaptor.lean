import GuestRunner.Backend.Basic
import GuestRunner.Settings.Basic

/-!
# Driving an engine

How one run of a guest is carried out with an engine, whatever the engine is: a store is opened,
directories are granted, streams bound, limits set, the module instantiated, its entry point called
and the fuel read, and in the end what was opened is closed again on every path. An engine is
described by what it answers to each of these; its answers may depend on a state of its own.
-/

set_option autoImplicit false

namespace GuestRunner

inductive CallEnding
  | returned
  | exited (code : Int)
  | stopped (message : String)
  deriving DecidableEq, Repr

structure EngineAnswers (σ : Type) where
  preopen : (host guest : String) → σ → Except String Unit × σ
  bind : Stream → Path → σ → Except String Unit × σ
  setFuel : Nat → σ → σ
  limitMemory : Nat → σ → σ
  instantiate : Option CompiledModule → σ → Except String Unit × σ
  /-- Whether the instance exports the entry point as a function. -/
  hasEntry : σ → Bool
  call : σ → CallEnding × σ
  fuelLeft : σ → Except String Nat × σ

inductive EngineDeed
  | openStore
  | preopen (host guest : String) (answer : Except String Unit)
  | bind (stream : Stream) (path : Path) (answer : Except String Unit)
  /-- What is written to a stream is handed over as it comes. -/
  | listen (stream : Stream)
  /-- The store takes over the directories and streams. -/
  | attachGrants
  | setFuel (budget : Nat)
  | limitMemory (bytes : Nat)
  | instantiate (answer : Except String Unit)
  | findEntry (found : Bool)
  | call (ending : CallEnding)
  | readFuel (answer : Except String Nat)
  | closeStore
  | closeGrants

structure Progress (σ : Type) where
  state : σ
  deeds : List EngineDeed

namespace Progress

variable {σ : Type}

def reach (p : Progress σ) (deed : EngineDeed) (state : σ) : Progress σ :=
  ⟨state, p.deeds ++ [deed]⟩

def did (p : Progress σ) (deed : EngineDeed) : Progress σ := p.reach deed p.state

end Progress

namespace Adaptor

variable {σ : Type}

def grant (e : EngineAnswers σ) (id : Value) :
    List (String × String) → Progress σ → Except Failure Unit × Progress σ
  | [], p => (.ok (), p)
  | (host, guest) :: rest, p =>
    let (done, state) := e.preopen host guest p.state
    let p := p.reach (.preopen host guest done) state
    match done with
    | .ok () => grant e id rest p
    | .error text => (.error (.instantiation (.mount text) id), p)

def bindOne (e : EngineAnswers σ) (stream : Stream) (path : Path) (p : Progress σ) :
    Except Failure Unit × Progress σ :=
  let (done, state) := e.bind stream path p.state
  (done.mapError fun text => .scratch (.bind text), p.reach (.bind stream path done) state)

def bindStreams (e : EngineAnswers σ) (sink : Sink) (p : Progress σ) :
    Except Failure Unit × Progress σ :=
  match sink with
  | .buffered .. => (.ok (), (p.did (.listen .stdout)).did (.listen .stderr))
  | .files out err =>
    match bindOne e .stdout out p with
    | (.ok (), p) => bindOne e .stderr err p
    | (.error f, p) => (.error f, p)

def provide (e : EngineAnswers σ) (settings : Settings) (c : Context) (p : Progress σ) :
    Except Failure Unit × Progress σ :=
  match grant e c.id settings.mounts p with
  | (.error f, p) => (.error f, p)
  | (.ok (), p) => bindStreams e c.sink p

def limitFuel (e : EngineAnswers σ) (budget : Option Nat) (p : Progress σ) : Progress σ :=
  match budget with
  | none => p
  | some budget => p.reach (.setFuel budget) (e.setFuel budget p.state)

def limitMemory (e : EngineAnswers σ) (bytes : Option Nat) (p : Progress σ) : Progress σ :=
  match bytes with
  | none => p
  | some bytes => p.reach (.limitMemory bytes) (e.limitMemory bytes p.state)

def outcomeOf (ending : CallEnding) : Outcome :=
  match ending with
  | .returned => .exited (.int 0) .null
  | .exited code => .exited (.int code) .null
  | .stopped message => .ofTrap (some message) .null

def account (e : EngineAnswers σ) (budget : Option Nat) (outcome : Outcome) (p : Progress σ) :
    Outcome × Progress σ :=
  match budget with
  | none => (outcome, p)
  | some budget =>
    let (left, state) := e.fuelLeft p.state
    let consumed : Value :=
      match left with
      | .ok left => .int (budget - left)
      | .error _ => .null
    ({ outcome with fuelConsumed := consumed }, p.reach (.readFuel left) state)

def enter (e : EngineAnswers σ) (budget : Option Nat) (id : Value) (p : Progress σ) :
    Except Failure Outcome × Progress σ :=
  let found := e.hasEntry p.state
  let p := p.did (.findEntry found)
  if found then
    let (ending, state) := e.call p.state
    let (outcome, p) := account e budget (outcomeOf ending) (p.reach (.call ending) state)
    (.ok outcome, p)
  else (.error (.instantiation .noStart id), p)

def execute (e : EngineAnswers σ) (settings : Settings) (module : Option CompiledModule)
    (id : Value) (p : Progress σ) : Except Failure Outcome × Progress σ :=
  let p := limitMemory e settings.memoryBytes (limitFuel e settings.fuelBudget p)
  let (done, state) := e.instantiate module p.state
  let p := p.reach (.instantiate done) state
  match done with
  | .error text => (.error (.instantiation (.engine text) id), p)
  | .ok () => enter e settings.fuelBudget id p

/-- Everything between opening and closing the store. Grants are closed if they were completed. -/
def inStore (e : EngineAnswers σ) (settings : Settings) (module : Option CompiledModule)
    (c : Context) (p : Progress σ) : Except Failure Outcome × Progress σ :=
  match provide e settings c p with
  | (.error f, p) => (.error f, p.did .closeStore)
  | (.ok (), p) =>
    let (result, p) := execute e settings module c.id (p.did .attachGrants)
    (result, (p.did .closeStore).did .closeGrants)

def run (e : EngineAnswers σ) (settings : Settings) (closed : Bool)
    (module : Option CompiledModule) (c : Context) (state : σ) :
    Except Failure Outcome × Progress σ :=
  if closed then (.error (.instantiation .engineClosed c.id), ⟨state, []⟩)
  else inStore e settings module c ⟨state, [.openStore]⟩

end Adaptor

end GuestRunner
