import GuestRunner.Wasm.Host

/-!
# Running guests

A machine holds the function that runs now, the functions that wait for it, and what all of them
share. It makes one small step after the other until the outermost function returns, the guest exits
or a trap ends it. Fuel is spent on instructions; it is looked at where a function or a round of a
loop begins, and what was spent is made known where control leaves a function.
-/

set_option autoImplicit false

namespace GuestRunner.Wasm

structure Label where
  /-- How many values a branch takes along. -/
  arity : Nat
  /-- The stack below the block. -/
  below : List Number
  /-- What comes behind the block. -/
  after : List Instruction
  /-- The body of a loop, to which a branch leads back. -/
  again : Option (List Instruction)

structure Frame where
  code : List Instruction
  stack : List Number
  labels : List Label
  locals : Array Number
  results : Nat

structure Fuel where
  budget : Option Nat
  spent : Nat
  /-- What was spent when it was last made known. -/
  known : Nat
  deriving Repr

namespace Fuel

def full (budget : Option Nat) : Fuel := ⟨budget, 0, 0⟩

def spend (f : Fuel) (n : Nat) : Fuel := { f with spent := f.spent + n }

def publish (f : Fuel) : Fuel := { f with known := f.spent }

def isEmpty (f : Fuel) : Bool :=
  match f.budget with
  | none => false
  | some budget => budget ≤ f.spent

def left (f : Fuel) : Nat := f.budget.getD 0 - f.known

end Fuel

structure Machine where
  module : Module
  frame : Frame
  waiting : List Frame
  depth : Nat
  globals : Array Number
  table : Array (Option Nat)
  memory : Memory
  fuel : Fuel
  host : Host

inductive Trap
  | unreachable
  | divideByZero
  | overflow
  | outOfBounds
  | undefinedElement
  | uninitializedElement
  | wrongType
  | callTooDeep
  | outOfFuel
  | badExit
  | noMemory
  | strayPointer
  /-- Code that no check of modules lets through. -/
  | illFormed
  deriving DecidableEq, Repr

def Trap.message : Trap → String
  | .unreachable => "wasm trap: wasm unreachable instruction executed"
  | .divideByZero => "wasm trap: integer divide by zero"
  | .overflow => "wasm trap: integer overflow"
  | .outOfBounds => "wasm trap: out of bounds memory access"
  | .undefinedElement => "wasm trap: undefined element: out of bounds table access"
  | .uninitializedElement => "wasm trap: uninitialized element"
  | .wrongType => "wasm trap: indirect call type mismatch"
  | .callTooDeep => "wasm trap: call stack exhausted"
  | .outOfFuel => "wasm trap: all fuel consumed by WebAssembly"
  | .badExit => "exit with invalid exit status outside of [0..126)"
  | .noMemory => "missing required memory export"
  | .strayPointer => "pointer out of bounds or not aligned"
  | .illFormed => "wasm trap: ill-formed code"

inductive Ending
  | returned
  | exited (code : Nat)
  | trapped (t : Trap)
  deriving Repr

structure Stopped where
  ending : Ending
  machine : Machine

abbrev Step := Except Stopped Machine

namespace Machine

def deepest : Nat := 16000

def stop (m : Machine) (e : Ending) : Step := .error ⟨e, m⟩

def trap (m : Machine) (t : Trap) : Step := m.stop (.trapped t)

def zeroOf : ValueType → Number
  | .i64 => .i64 0
  | _ => .i32 0

def next (m : Machine) (code : List Instruction) (stack : List Number) : Step :=
  .ok { m with frame := { m.frame with code, stack } }

def checkFuel (m : Machine) : Step :=
  if m.fuel.isEmpty then { m with fuel := m.fuel.publish }.trap .outOfFuel else .ok m

def enter (m : Machine) (f : Function) (rest : List Instruction) (stack : List Number) : Step :=
  if deepest ≤ m.depth then m.trap .callTooDeep
  else
    let count := f.type.params.length
    let arguments := (stack.take count).reverse
    let caller := { m.frame with code := rest, stack := stack.drop count }
    let frame : Frame :=
      { code := f.body, stack := [], labels := [],
        locals := (arguments ++ f.locals.map zeroOf).toArray, results := f.type.results.length }
    let m := { m with frame, waiting := caller :: m.waiting, depth := m.depth + 1 }
    match m.checkFuel with
    | .ok m => .ok { m with fuel := m.fuel.spend 1 }
    | .error s => .error s

def callHost (m : Machine) (i : Import) (count : Nat) (rest : List Instruction)
    (stack : List Number) : Step :=
  if !m.module.exportsMemory then m.trap .noMemory
  else
    match m.host.call i.name (stack.take count).reverse m.memory with
    | .answer code memory host =>
      { m with memory, host }.next rest (.i32 code :: stack.drop count)
    | .exit code => if code < 126 then m.stop (.exited code.toNat) else m.trap .badExit
    | .stray host => { m with host }.trap .strayPointer
    | .unknown => m.trap .illFormed

def callFunction (m : Machine) (index : Nat) (rest : List Instruction) (stack : List Number) :
    Step :=
  let m := { m with fuel := m.fuel.publish }
  let imported := m.module.importedFunctions
  match imported[index]?, m.module.functions[index - imported.length]? with
  | some i, _ =>
    match i.functionType? with
    | some type => m.callHost i type.params.length rest stack
    | none => m.trap .illFormed
  | none, some f => m.enter f rest stack
  | none, none => m.trap .illFormed

def callThroughTable (m : Machine) (type index : Nat) (rest : List Instruction)
    (stack : List Number) : Step :=
  match m.table[index]? with
  | none => m.trap .undefinedElement
  | some none => m.trap .uninitializedElement
  | some (some function) =>
    if m.module.functionType? function == m.module.types[type]? then
      m.callFunction function rest stack
    else m.trap .wrongType

def leave (m : Machine) : Step :=
  let results := m.frame.stack.take m.frame.results
  let m := { m with fuel := m.fuel.publish }
  match m.waiting with
  | [] => m.stop .returned
  | caller :: waiting =>
    .ok { m with frame := { caller with stack := results ++ caller.stack }, waiting,
                 depth := m.depth - 1 }

def branch (m : Machine) (stack : List Number) (depth : Nat) : Step :=
  match m.frame.labels.drop depth with
  | [] => { m with frame := { m.frame with stack } }.leave
  | label :: outer =>
    let kept := stack.take label.arity
    match label.again with
    | none =>
      .ok { m with frame :=
        { m.frame with code := label.after, stack := kept ++ label.below, labels := outer } }
    | some body =>
      { m with frame :=
        { m.frame with code := body, stack := kept, labels := label :: outer } }.checkFuel

def openBlock (m : Machine) (type : FunctionType) (body : List Instruction)
    (after : List Instruction) (stack : List Number) : Step :=
  let label : Label := ⟨type.results.length, stack.drop type.params.length, after, none⟩
  .ok { m with frame :=
    { m.frame with code := body, stack := stack.take type.params.length,
                   labels := label :: m.frame.labels } }

def openLoop (m : Machine) (type : FunctionType) (body : List Instruction)
    (after : List Instruction) (stack : List Number) : Step :=
  let label : Label := ⟨type.params.length, stack.drop type.params.length, after, some body⟩
  { m with frame :=
    { m.frame with code := body, stack := stack.take type.params.length,
                   labels := label :: m.frame.labels } }.checkFuel

def endOfCode (m : Machine) : Step :=
  match m.frame.labels with
  | [] => m.leave
  | label :: outer =>
    .ok { m with frame :=
      { m.frame with code := label.after, stack := m.frame.stack ++ label.below,
                     labels := outer } }

def ofBool (b : Bool) : Number := .i32 (if b then 1 else 0)

def comparison (op : Comparison) (a b : UInt32) : Bool :=
  match op with
  | .eq => a == b
  | .ne => a != b
  | .ltS => a.toInt32 < b.toInt32
  | .ltU => a < b
  | .gtS => b.toInt32 < a.toInt32
  | .gtU => b < a
  | .leS => a.toInt32 ≤ b.toInt32
  | .leU => a ≤ b
  | .geS => b.toInt32 ≤ a.toInt32
  | .geU => b ≤ a

def arithmetic (op : Arithmetic) (a b : UInt32) : Except Trap UInt32 :=
  match op with
  | .add => .ok (a + b)
  | .sub => .ok (a - b)
  | .mul => .ok (a * b)
  | .divS =>
    if b = 0 then .error .divideByZero
    else if a = 0x80000000 ∧ b = 0xFFFFFFFF then .error .overflow
    else .ok (a.toInt32 / b.toInt32).toUInt32
  | .divU => if b = 0 then .error .divideByZero else .ok (a / b)
  | .remS =>
    if b = 0 then .error .divideByZero else .ok (a.toInt32 % b.toInt32).toUInt32
  | .remU => if b = 0 then .error .divideByZero else .ok (a % b)
  | .and => .ok (a &&& b)
  | .or => .ok (a ||| b)
  | .xor => .ok (a ^^^ b)
  | .shl => .ok (a <<< b)
  | .shrS => .ok (a.toInt32 >>> b.toInt32).toUInt32
  | .shrU => .ok (a >>> b)

def cost : Instruction → Nat
  | .unreachable | .nop | .block .. | .loop .. | .ret | .drop => 0
  | _ => 1

def memoryStep (m : Machine) (i : Instruction) (rest : List Instruction) (stack : List Number) :
    Step :=
  match i, stack with
  | .load width offset, .i32 address :: stack =>
    match m.memory.load? (address.toNat + offset) width with
    | some n => m.next rest (.i32 n :: stack)
    | none => m.trap .outOfBounds
  | .store width offset, .i32 n :: .i32 address :: stack =>
    match m.memory.store? (address.toNat + offset) width n with
    | some memory => { m with memory }.next rest stack
    | none => m.trap .outOfBounds
  | .memorySize, stack => m.next rest (.i32 (UInt32.ofNat m.memory.pages) :: stack)
  | .memoryGrow, .i32 more :: stack =>
    match m.memory.grow? more.toNat with
    | some memory =>
      { m with memory }.next rest (.i32 (UInt32.ofNat m.memory.pages) :: stack)
    | none => m.next rest (.i32 0xFFFFFFFF :: stack)
  | _, _ => m.trap .illFormed

def numberStep (m : Machine) (i : Instruction) (rest : List Instruction) (stack : List Number) :
    Step :=
  match i, stack with
  | .const32 n, stack => m.next rest (.i32 n :: stack)
  | .const64 n, stack => m.next rest (.i64 n :: stack)
  | .isZero, .i32 n :: stack => m.next rest (ofBool (n == 0) :: stack)
  | .compare op, .i32 b :: .i32 a :: stack => m.next rest (ofBool (comparison op a b) :: stack)
  | .arithmetic op, .i32 b :: .i32 a :: stack =>
    match arithmetic op a b with
    | .ok n => m.next rest (.i32 n :: stack)
    | .error t => m.trap t
  | .drop, _ :: stack => m.next rest stack
  | .nop, stack => m.next rest stack
  | _, _ => m.trap .illFormed

def variableStep (m : Machine) (i : Instruction) (rest : List Instruction) (stack : List Number) :
    Step :=
  match i, stack with
  | .localGet index, stack =>
    match m.frame.locals[index]? with
    | some v => m.next rest (v :: stack)
    | none => m.trap .illFormed
  | .localSet index, v :: stack =>
    { m with frame := { m.frame with locals := m.frame.locals.setIfInBounds index v } }.next rest
      stack
  | .globalGet index, stack =>
    match m.globals[index]? with
    | some v => m.next rest (v :: stack)
    | none => m.trap .illFormed
  | .globalSet index, v :: stack =>
    { m with globals := m.globals.setIfInBounds index v }.next rest stack
  | _, _ => m.trap .illFormed

def controlStep (m : Machine) (i : Instruction) (rest : List Instruction) (stack : List Number) :
    Step :=
  match i, stack with
  | .unreachable, _ => { m with fuel := m.fuel.publish }.trap .unreachable
  | .block type body, stack => m.openBlock type body rest stack
  | .loop type body, stack => m.openLoop type body rest stack
  | .ifElse type yes no, .i32 n :: stack =>
    m.openBlock type (if n = 0 then no else yes) rest stack
  | .br depth, stack => m.branch stack depth
  | .brIf depth, .i32 n :: stack => if n = 0 then m.next rest stack else m.branch stack depth
  | .ret, _ => m.leave
  | .call index, stack => m.callFunction index rest stack
  | .callIndirect type, .i32 index :: stack =>
    { m with fuel := m.fuel.publish }.callThroughTable type index.toNat rest stack
  | _, _ => m.trap .illFormed

def step (m : Machine) : Step :=
  match m.frame.code with
  | [] => m.endOfCode
  | i :: rest =>
    let m := { m with fuel := m.fuel.spend (cost i) }
    let stack := m.frame.stack
    match i with
    | .load .. | .store .. | .memorySize | .memoryGrow => m.memoryStep i rest stack
    | .const32 _ | .const64 _ | .isZero | .compare _ | .arithmetic _ | .drop | .nop =>
      m.numberStep i rest stack
    | .localGet _ | .localSet _ | .globalGet _ | .globalSet _ => m.variableStep i rest stack
    | i => m.controlStep i rest stack

def run : Nat → Machine → Stopped
  | 0, m => ⟨.trapped .outOfFuel, m⟩
  | steps + 1, m =>
    match m.step with
    | .ok m => run steps m
    | .error stopped => stopped

end Machine

end GuestRunner.Wasm
