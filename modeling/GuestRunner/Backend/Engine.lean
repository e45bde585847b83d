import GuestRunner.Backend.Adaptor
import GuestRunner.Wasm.Instance

/-!
# The engine

The backend that runs guest modules for what they are. Each run starts from a store of its own, with
the arguments and the environment as texts that end at their first zero byte, and what the files
hold at the beginning. The bounds of the settings are kept in machine words.
-/

set_option autoImplicit false

namespace GuestRunner.Engine

open Wasm

structure Store where
  bounds : Bounds
  host : Host
  machine : Option Machine
  /-- What binding the streams did to their files. -/
  bound : List Act

def terminated (v : Value) : Except Refusal Bytes :=
  (Payload.encoded v).map fun content => content.takeWhile (· ≠ 0)

/-- What guests get of a context: the arguments, and the variables with an equals sign between name
and value. All names are looked at before the first value. -/
def guestTexts (c : Context) : Except Refusal (List Bytes × List Bytes) := do
  let arguments ← c.arguments.mapM terminated
  let names ← c.environment.mapM fun entry => terminated entry.1
  let values ← c.environment.mapM fun entry => terminated entry.2
  return (arguments, names.zipWith (fun name value => name ++ Text.Utf8.encode "=" ++ value) values)

def wordSize : Nat := UInt64.size

def storedFuel (budget : Nat) : Nat := budget % wordSize

def storedLimit (bytes : Nat) : Option Nat :=
  let n := bytes % wordSize
  if n < wordSize / 2 then some n else none

def storeFor (arguments environment : List Bytes) (volume : Files.Volume) : Store where
  bounds := ⟨none, none⟩
  host :=
    { arguments, environment, descriptors := [], outlet := fun _ => .buffer, volume, written := [] }
  machine := none
  bound := []

def entryPoint : String := "_start"

def untilZero (text : String) : String :=
  String.ofList (text.toList.takeWhile (· ≠ Char.ofNat 0))

def preopen (host _guest : String) (s : Store) : Except String Unit × Store :=
  let v := s.host.volume
  let path := ((Path.ofText host).under (Files.Volume.absolute v.home)).normal
  let path := Path.ofText (untilZero path.text)
  match (v.place? path).filter v.tree.isDirectory with
  | some place =>
    (.ok (), { s with host :=
      { s.host with descriptors := s.host.descriptors ++ [.directory place] } })
  | none => (.error "failed to add preopen dir", s)

def bind (stream : Stream) (path : Path) (s : Store) : Except String Unit × Store :=
  match s.host.volume.create path with
  | (.ok (), volume) =>
    let host := { s.host with volume }.setOutlet stream (.file ((volume.place? path).getD []) 0)
    (.ok (), { s with host, bound := s.bound ++ [.write stream []] })
  | (.error e, _) => (.error e.message, s)

def setFuel (budget : Nat) (s : Store) : Store :=
  { s with bounds := { s.bounds with fuel := some (storedFuel budget) } }

def limitMemory (bytes : Nat) (s : Store) : Store :=
  { s with bounds := { s.bounds with memoryBytes := storedLimit bytes } }

def moduleOf (m : Option CompiledModule) : Option Module :=
  match m with
  | some ⟨.bytes _ content, _, _⟩ => Binary.module? content
  | _ => none

def instantiate (m : Option CompiledModule) (s : Store) : Except String Unit × Store :=
  match moduleOf m with
  | none => (.error "no module", s)
  | some m =>
    match Machine.instantiate m s.bounds s.host with
    | .ok machine => (.ok (), { s with machine := some machine })
    | .error text => (.error text, s)

def startPoint? (s : Store) : Option (Machine × Nat) := do
  let machine ← s.machine
  let e ← machine.module.export? entryPoint
  if e.kind = .function then some (machine, e.index) else none

def endingOf : Ending → CallEnding
  | .returned => .returned
  | .exited code => .exited code
  | .trapped t => .stopped t.message

def call (s : Store) : CallEnding × Store :=
  match startPoint? s with
  | none => (.stopped "no entry point", s)
  | some (machine, index) =>
    match machine.module.functionType? index with
    | some ⟨[], _⟩ =>
      let stopped := machine.invoke index
      (endingOf stopped.ending, { s with machine := some stopped.machine })
    | _ => (.stopped "too few parameters provided", s)

def fuelLeft (s : Store) : Except String Nat × Store :=
  (.ok ((s.machine.map fun m => m.fuel.left).getD 0), s)

def answers : EngineAnswers Store where
  preopen := preopen
  bind := bind
  setFuel := setFuel
  limitMemory := limitMemory
  instantiate := instantiate
  hasEntry s := (startPoint? s).isSome
  call := call
  fuelLeft := fuelLeft

def actsOf (s : Store) : List Act :=
  s.bound ++ ((s.machine.map fun m => m.host.written).getD []).reverse

def compile (closed : Bool) (content : Bytes) : Except Problem CompiledModule :=
  if closed then .error (.failure (.compilation .engineClosed))
  else if content.isEmpty then .error (.failure (.compilation .emptyModule))
  else
    match Binary.module? content with
    | some _ => .ok (.ofBytes content)
    | none => .error (.failure (.compilation (.engine "malformed module")))

def backend (settings : Settings) : Backend where
  name := "wasmtime"
  compile := compile
  run closed module c volume :=
    match guestTexts c, closed with
    | .error refusal, false => .failing (.refusal refusal)
    | texts, closed =>
      let (arguments, environment) := texts.toOption.getD ([], [])
      let store := storeFor arguments environment volume
      let (result, p) := Adaptor.run answers settings closed module c store
      ⟨actsOf p.state, result.mapError Problem.failure⟩

end GuestRunner.Engine
