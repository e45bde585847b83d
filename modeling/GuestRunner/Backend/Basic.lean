import GuestRunner.Guest.Run

/-!
# Backends

A backend compiles modules and runs them. It is used by one processor and can be closed; both of its
operations are told whether it has been. A run starts from what the files hold at its beginning.
-/

set_option autoImplicit false

namespace GuestRunner

structure Backend where
  name : String
  compile : (closed : Bool) → Bytes → Except Problem CompiledModule
  run : (closed : Bool) → Option CompiledModule → Context → Files.Volume → Run

namespace Backend

def engineOf (v : Value) : Except Refusal EngineKind :=
  let found :=
    match v with
    | .text s => EngineKind.ofLabel? s
    | .engine kind => some kind
    | _ => none
  match found with
  | some kind => .ok kind
  | none => .error (.unknownEngine v)

end Backend

end GuestRunner
