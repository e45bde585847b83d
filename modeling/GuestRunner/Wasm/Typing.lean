import GuestRunner.Wasm.Module

/-!
# Typing of code

Code is checked before it runs: every instruction has to find its operands on the stack, of the
types it takes, and a block has to leave its results and nothing else. Behind an instruction that
never goes on anything may be asked for, since nothing is ever taken there.
-/

set_option autoImplicit false

namespace GuestRunner.Wasm.Typing

structure Operands where
  known : List ValueType
  /-- Whether whatever is asked for lies below. -/
  endless : Bool
  deriving DecidableEq, Repr

namespace Operands

def ofTypes (types : List ValueType) : Operands := ⟨types.reverse, false⟩

def unreachable : Operands := ⟨[], true⟩

def popOne? (s : Operands) (type : ValueType) : Option Operands :=
  match s.known with
  | [] => if s.endless then some s else none
  | top :: rest => if top = type then some { s with known := rest } else none

def popAny? (s : Operands) : Option Operands :=
  match s.known with
  | [] => if s.endless then some s else none
  | _ :: rest => some { s with known := rest }

def pop? (s : Operands) (types : List ValueType) : Option Operands :=
  types.reverse.foldlM popOne? s

def push (s : Operands) (types : List ValueType) : Operands :=
  { s with known := types.reverse ++ s.known }

def through? (s : Operands) (type : FunctionType) : Option Operands :=
  (s.pop? type.params).map (·.push type.results)

def areExactly (s : Operands) (types : List ValueType) : Bool :=
  (s.pop? types).any (·.known.isEmpty)

end Operands

structure Scope where
  module : Module
  locals : List ValueType
  results : List ValueType

namespace Scope

def typeOf? (c : Scope) : Instruction → Option FunctionType
  | .nop => some ⟨[], []⟩
  | .call index => c.module.functionType? index
  | .callIndirect type =>
    if c.module.hasFunctionTable then
      (c.module.types[type]?).map fun type => ⟨type.params ++ [.i32], type.results⟩
    else none
  | .localGet index => (c.locals[index]?).map fun type => ⟨[], [type]⟩
  | .localSet index => (c.locals[index]?).map fun type => ⟨[type], []⟩
  | .globalGet index => (c.module.globalType? index).map fun g => ⟨[], [g.type]⟩
  | .globalSet index =>
    ((c.module.globalType? index).filter (·.changes)).map fun g => ⟨[g.type], []⟩
  | .const32 _ => some ⟨[], [.i32]⟩
  | .const64 _ => some ⟨[], [.i64]⟩
  | .load .. | .memoryGrow => if 0 < c.module.memoryCount then some ⟨[.i32], [.i32]⟩ else none
  | .store .. => if 0 < c.module.memoryCount then some ⟨[.i32, .i32], []⟩ else none
  | .memorySize => if 0 < c.module.memoryCount then some ⟨[], [.i32]⟩ else none
  | .isZero => some ⟨[.i32], [.i32]⟩
  | .compare _ | .arithmetic _ => some ⟨[.i32, .i32], [.i32]⟩
  | _ => none

mutual

def after? (c : Scope) (labels : List (List ValueType)) :
    Instruction → Operands → Option Operands
  | .unreachable, _ => some .unreachable
  | .drop, s => s.popAny?
  | .block type body, s => do
    let s ← s.pop? type.params
    let inner ← afterAll? c (type.results :: labels) body (.ofTypes type.params)
    if inner.areExactly type.results then some (s.push type.results) else none
  | .loop type body, s => do
    let s ← s.pop? type.params
    let inner ← afterAll? c (type.params :: labels) body (.ofTypes type.params)
    if inner.areExactly type.results then some (s.push type.results) else none
  | .ifElse type yes no, s => do
    let s ← (← s.popOne? .i32).pop? type.params
    let first ← afterAll? c (type.results :: labels) yes (.ofTypes type.params)
    let second ← afterAll? c (type.results :: labels) no (.ofTypes type.params)
    if first.areExactly type.results && second.areExactly type.results then
      some (s.push type.results)
    else none
  | .br depth, s => do
    let _ ← s.pop? (← labels[depth]?)
    return .unreachable
  | .brIf depth, s => do
    let taken ← labels[depth]?
    (← s.popOne? .i32).through? ⟨taken, taken⟩
  | .ret, s => do
    let _ ← s.pop? c.results
    return .unreachable
  | i, s => (c.typeOf? i).bind s.through?

def afterAll? (c : Scope) (labels : List (List ValueType)) :
    List Instruction → Operands → Option Operands
  | [], s => some s
  | i :: rest, s => (after? c labels i s).bind (afterAll? c labels rest)

end

end Scope

def accepts (m : Module) (f : Function) : Bool :=
  let c : Scope := ⟨m, f.type.params ++ f.locals, f.type.results⟩
  (c.afterAll? [f.type.results] f.body (.ofTypes [])).any (·.areExactly f.type.results)

end GuestRunner.Wasm.Typing
