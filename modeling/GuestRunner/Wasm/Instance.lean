import GuestRunner.Wasm.Binary
import GuestRunner.Wasm.Machine

/-!
# Instances

A module becomes an instance when every import is provided, its memory may be as large as it wants
to be, its segments fit, and its start function, if it has one, returns. Then functions that it
exports can be called.
-/

set_option autoImplicit false

namespace GuestRunner.Wasm

structure Bounds where
  fuel : Option Nat
  memoryBytes : Option Nat
  deriving Repr

namespace Machine

def mostSteps : Nat := 1000000000000

def constantNumber : Constant → Number
  | .i32 n => .i32 n
  | .i64 n => .i64 n
  | .global _ => .i32 0

def offsetOf (c : Constant) : Nat :=
  match constantNumber c with
  | .i32 n => n.toNat
  | .i64 n => n.toNat

def pageLimit (bounds : Bounds) (l : Limits) : Nat :=
  let own := min (l.most.getD Binary.mostPages) Binary.mostPages
  match bounds.memoryBytes with
  | none => own
  | some bytes => min own (bytes / Memory.pageSize)

def initialMemory (bounds : Bounds) (m : Module) : Option Memory :=
  match m.memory with
  | none => some (.empty 0 0)
  | some l =>
    let most := pageLimit bounds l
    if most < l.least then none else some (.empty l.least most)

def fillTable (table : Array (Option Nat)) : List (Segment (List Nat)) →
    Option (Array (Option Nat))
  | [] => some table
  | ⟨none, _⟩ :: rest => fillTable table rest
  | ⟨some offset, content⟩ :: rest =>
    let start := offsetOf offset
    if table.size < start + content.length then none
    else
      let filled := content.zipIdx.foldl
        (fun t (function, i) => t.setIfInBounds (start + i) (some function)) table
      fillTable filled rest

def fillMemory (memory : Memory) : List (Segment Bytes) → Option Memory
  | [] => some memory
  | ⟨none, _⟩ :: rest => fillMemory memory rest
  | ⟨some offset, content⟩ :: rest => do
    let memory ← memory.write? (offsetOf offset) content
    fillMemory memory rest

def outermost : Frame := ⟨[], [], [], #[], 0⟩

def invoke (m : Machine) (index : Nat) : Stopped :=
  let ready : Machine :=
    { m with frame := outermost, waiting := [], depth := 0,
             fuel := { m.fuel with spent := m.fuel.known } }
  match ready.callFunction index [] [] with
  | .ok m => run mostSteps m
  | .error stopped => stopped

def instantiate (m : Module) (bounds : Bounds) (host : Host) : Except String Machine :=
  match m.imports.find? fun i => !Host.provides i with
  | some i => .error ("unknown import: " ++ i.provider ++ "::" ++ i.name)
  | none =>
    match initialMemory bounds m with
    | none => .error "memory minimum size exceeds memory limits"
    | some memory =>
      match fillTable (Array.replicate ((m.table.map (·.limits.least)).getD 0) none) m.elements,
          fillMemory memory m.data with
      | none, _ => .error "out of bounds table access"
      | some _, none => .error "out of bounds memory access"
      | some table, some memory =>
        let machine : Machine :=
          { module := m, frame := outermost, waiting := [], depth := 0,
            globals := (m.globals.map fun g => constantNumber g.initial).toArray, table, memory,
            fuel := .full bounds.fuel, host }
        match m.start with
        | none => .ok machine
        | some index =>
          match machine.invoke index with
          | ⟨.returned, machine⟩ => .ok machine
          | ⟨.exited code, _⟩ => .error ("exited with code " ++ toString code)
          | ⟨.trapped t, _⟩ => .error t.message

end Machine

end GuestRunner.Wasm
