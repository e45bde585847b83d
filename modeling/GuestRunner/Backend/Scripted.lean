import GuestRunner.Backend.Basic

/-!
# Scripted guests

A backend whose guests follow a script, for trying out what happens around them. A script holds a
list of runs that are gone through again and again, by the number of the invocation. A run may be
refused before it starts; else it acts and then ends by a trap or with an exit code, unless it comes
to a text that cannot be encoded.
-/

set_option autoImplicit false

namespace GuestRunner.Scripted

inductive Line
  | write (stream : Stream) (chunk : Bytes)
  | writeText (stream : Stream) (text : Value)
  | writeArgument (stream : Stream) (index : Value)
  | writeEnvironment (stream : Stream)
  | act (a : Act)

structure Part where
  instantiationError : Option String
  scratchError : Option String
  osError : Option Nat
  lines : List Line
  exitCode : Value
  /-- What is said about the trap that ends the part, if one does. -/
  trap : Option Value
  fuel : Value

structure Script where
  compileError : Option String
  parts : List Part

def Part.idle : Part := ⟨none, none, none, [], .int 0, none, .null⟩

def Script.part (s : Script) (id : Int) : Part :=
  if s.parts.isEmpty then .idle
  else s.parts.getD ((id - 1).emod s.parts.length).toNat .idle

def argument (c : Context) (index : Int) : Except Refusal Value :=
  let place := if index < 0 then c.arguments.length + index else index
  if place < 0 then .error .noItem
  else
    match c.arguments[place.toNat]? with
    | some v => .ok v
    | none => .error .noItem

def indexOf : Value → Except Refusal Int
  | .int n => .ok n
  | .bool b => .ok (if b then 1 else 0)
  | v => .error (.noIndex v.typeName)

def Line.acts (c : Context) : Line → Except Refusal (List Act)
  | .write stream chunk => .ok [.write stream chunk]
  | .writeText stream text => (Payload.bytes text).map fun chunk => [.write stream chunk]
  | .writeArgument stream index => do
    return [.write stream (← Payload.encoded (← argument c (← indexOf index)))]
  | .writeEnvironment stream =>
    .ok (c.environment.map fun (key, value) =>
      .write stream (Text.Utf8.encode (key.plain ++ "=" ++ value.plain ++ "\n")))
  | .act a => .ok [a]

def follow (c : Context) (ending : Except Refusal Outcome) : List Line → Run
  | [] => ⟨[], ending.mapError Problem.refusal⟩
  | line :: rest =>
    match line.acts c with
    | .error refusal => .failing (.refusal refusal)
    | .ok acts =>
      let run := follow c ending rest
      { run with acts := acts ++ run.acts }

def Part.ending (p : Part) : Except Refusal Outcome :=
  match p.trap with
  | none => .ok (.exited p.exitCode p.fuel)
  | some said => do return .ofTrap (← Outcome.messageText said) p.fuel

def Part.run (p : Part) (c : Context) : Run :=
  match p.instantiationError, p.scratchError, p.osError with
  | some text, _, _ => .failing (.failure (.instantiation (.stated text) c.id))
  | none, some text, _ => .failing (.failure (.scratch (.stated text)))
  | none, none, some code => .failing (.os (.coded code none))
  | none, none, none => follow c p.ending p.lines

def backend (s : Script) : Backend where
  name := "scripted"
  compile _ content :=
    match s.compileError with
    | some text => .error (.failure (.compilation (.stated text)))
    | none => .ok (.ofBytes content)
  run _ _ context _ := (s.part ((context.id.integer?).getD 1)).run context

end GuestRunner.Scripted
