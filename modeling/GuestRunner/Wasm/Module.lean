import GuestRunner.Bytes

/-!
# Guest modules

The modules that guests come in: functions over 32-bit and 64-bit integers, at most one memory and
one table, globals, data for both and names for what is imported and exported. Code is a tree, since
blocks nest; a branch names a block by how far out it is.
-/

set_option autoImplicit false

namespace GuestRunner.Wasm

inductive ValueType
  | i32
  | i64
  | f32
  | f64
  | v128
  | functionRef
  | externalRef
  deriving DecidableEq, Repr

structure FunctionType where
  params : List ValueType
  results : List ValueType
  deriving DecidableEq, Repr

inductive Comparison
  | eq
  | ne
  | ltS
  | ltU
  | gtS
  | gtU
  | leS
  | leU
  | geS
  | geU
  deriving DecidableEq, Repr

inductive Arithmetic
  | add
  | sub
  | mul
  | divS
  | divU
  | remS
  | remU
  | and
  | or
  | xor
  | shl
  | shrS
  | shrU
  deriving DecidableEq, Repr

inductive Instruction
  | unreachable
  | nop
  | block (type : FunctionType) (body : List Instruction)
  | loop (type : FunctionType) (body : List Instruction)
  | ifElse (type : FunctionType) (yes no : List Instruction)
  | br (depth : Nat)
  | brIf (depth : Nat)
  | ret
  | call (function : Nat)
  | callIndirect (type : Nat)
  | drop
  | localGet (index : Nat)
  | localSet (index : Nat)
  | globalGet (index : Nat)
  | globalSet (index : Nat)
  | const32 (n : UInt32)
  | const64 (n : UInt64)
  /-- Loads a number of bytes, the lowest first. -/
  | load (width offset : Nat)
  | store (width offset : Nat)
  | memorySize
  | memoryGrow
  | isZero
  | compare (op : Comparison)
  | arithmetic (op : Arithmetic)
  deriving Repr

structure Function where
  type : FunctionType
  locals : List ValueType
  body : List Instruction
  deriving Repr

structure Limits where
  least : Nat
  most : Option Nat
  deriving DecidableEq, Repr

structure TableType where
  elements : ValueType
  limits : Limits
  deriving DecidableEq, Repr

structure GlobalType where
  type : ValueType
  changes : Bool
  deriving DecidableEq, Repr

inductive ImportKind
  | function (type : FunctionType)
  | table (type : TableType)
  | memory
  | global (type : GlobalType)
  deriving DecidableEq, Repr

structure Import where
  provider : String
  name : String
  kind : ImportKind
  deriving DecidableEq, Repr

def Import.functionType? (i : Import) : Option FunctionType :=
  match i.kind with
  | .function type => some type
  | _ => none

def Import.tableType? (i : Import) : Option TableType :=
  match i.kind with
  | .table type => some type
  | _ => none

def Import.globalType? (i : Import) : Option GlobalType :=
  match i.kind with
  | .global type => some type
  | _ => none

inductive ExportKind
  | function
  | table
  | memory
  | global
  deriving DecidableEq, Repr

structure Export where
  name : String
  kind : ExportKind
  index : Nat
  deriving DecidableEq, Repr

inductive Constant
  | i32 (n : UInt32)
  | i64 (n : UInt64)
  /-- What an imported global holds. -/
  | global (index : Nat)
  deriving DecidableEq, Repr

structure Global where
  type : GlobalType
  initial : Constant
  deriving DecidableEq, Repr

structure Segment (α : Type) where
  offset : Option Constant
  content : α
  deriving Repr

structure Module where
  types : List FunctionType
  imports : List Import
  functions : List Function
  table : Option TableType
  memory : Option Limits
  globals : List Global
  exports : List Export
  start : Option Nat
  elements : List (Segment (List Nat))
  data : List (Segment Bytes)
  deriving Repr

namespace Module

def importedFunctions (m : Module) : List Import :=
  m.imports.filter fun i => i.functionType?.isSome

def importedGlobals (m : Module) : List GlobalType := m.imports.filterMap (·.globalType?)

def functionCount (m : Module) : Nat := m.importedFunctions.length + m.functions.length

def tableTypes (m : Module) : List TableType :=
  m.imports.filterMap (·.tableType?) ++ m.table.toList

def hasFunctionTable (m : Module) : Bool :=
  m.tableTypes.head?.any (·.elements = .functionRef)

def memoryCount (m : Module) : Nat :=
  m.imports.countP (·.kind = .memory) + m.memory.toList.length

def globalTypes (m : Module) : List GlobalType := m.importedGlobals ++ m.globals.map (·.type)

def globalType? (m : Module) (index : Nat) : Option GlobalType := m.globalTypes[index]?

def knows (m : Module) (type : ValueType) : Constant → Bool
  | .i32 _ => type = .i32
  | .i64 _ => type = .i64
  | .global index => m.importedGlobals[index]? == some ⟨type, false⟩

def export? (m : Module) (name : String) : Option Export := m.exports.find? (·.name = name)

def memoryName : String := "memory"

def exportsMemory (m : Module) : Bool := (m.export? memoryName).any (·.kind = .memory)

def functionType? (m : Module) (index : Nat) : Option FunctionType :=
  match m.importedFunctions[index]? with
  | some i => i.functionType?
  | none => (m.functions[index - m.importedFunctions.length]?).map (·.type)

end Module

end GuestRunner.Wasm
