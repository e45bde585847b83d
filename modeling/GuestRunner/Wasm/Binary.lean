import GuestRunner.Text.Utf8
import GuestRunner.Wasm.Typing

/-!
# The binary form of guest modules

A module is a preamble and a list of sections, each with its number and its length. Known sections
come in a fixed order, each at most once and used up to its last byte; custom sections may stand
anywhere and only have to begin with a name. Every reader takes bytes from the front and hands back
the rest. What was read is a module only if its functions are well typed.
-/

set_option autoImplicit false

namespace GuestRunner.Wasm.Binary

def byte : Bytes → Option (UInt8 × Bytes)
  | [] => none
  | b :: rest => some (b, rest)

def unsigned (bits : Nat) : Bytes → Option (Nat × Bytes)
  | [] => none
  | b :: rest =>
    if bits < 7 ∧ Nat.pow 2 bits ≤ b.toNat then none
    else if b < 0x80 then some (b.toNat, rest)
    else do
      let (high, rest) ← unsigned (bits - 7) rest
      return (b.toNat - 0x80 + 128 * high, rest)

def u32 : Bytes → Option (Nat × Bytes) := unsigned 32

def signed (bits : Nat) : Bytes → Option (Int × Bytes)
  | [] => none
  | b :: rest =>
    if bits = 0 then none
    else if b < 0x80 then
      let n : Int := b.toNat
      let n := if b.toNat < 64 then n else n - 128
      let bound : Int := Nat.pow 2 (bits - 1)
      if bits < 7 ∧ (n < -bound ∨ bound ≤ n) then none
      else some (n, rest)
    else if bits ≤ 7 then none
    else do
      let (high, rest) ← signed (bits - 7) rest
      return ((b.toNat - 0x80 : Nat) + 128 * high, rest)

def wrap32 (n : Int) : UInt32 := UInt32.ofNat (n % UInt32.size).toNat

def wrap64 (n : Int) : UInt64 := UInt64.ofNat (n % UInt64.size).toNat

def taken (n : Nat) (bs : Bytes) : Option (Bytes × Bytes) :=
  if bs.length < n then none else some (bs.take n, bs.drop n)

def items {α : Type} (read : Bytes → Option (α × Bytes)) : Nat → Bytes → Option (List α × Bytes)
  | 0, bs => some ([], bs)
  | n + 1, bs => do
    let (a, bs) ← read bs
    let (as, bs) ← items read n bs
    return (a :: as, bs)

def vector {α : Type} (read : Bytes → Option (α × Bytes)) (bs : Bytes) :
    Option (List α × Bytes) := do
  let (n, bs) ← u32 bs
  if bs.length < n then none else items read n bs

def byteString (bs : Bytes) : Option (Bytes × Bytes) := do
  let (n, bs) ← u32 bs
  taken n bs

def name (bs : Bytes) : Option (String × Bytes) := do
  let (content, bs) ← byteString bs
  return (← Text.Utf8.decode? content, bs)

def valueTypeOf : UInt8 → Option ValueType
  | 0x7F => some .i32
  | 0x7E => some .i64
  | 0x7D => some .f32
  | 0x7C => some .f64
  | 0x7B => some .v128
  | 0x70 => some .functionRef
  | 0x6F => some .externalRef
  | _ => none

def valueType (bs : Bytes) : Option (ValueType × Bytes) := do
  let (b, bs) ← byte bs
  return (← valueTypeOf b, bs)

def functionType (bs : Bytes) : Option (FunctionType × Bytes) := do
  let (0x60, bs) ← byte bs | none
  let (params, bs) ← vector valueType bs
  let (results, bs) ← vector valueType bs
  return (⟨params, results⟩, bs)

def limits (bs : Bytes) : Option (Limits × Bytes) := do
  let (flag, bs) ← byte bs
  let (least, bs) ← u32 bs
  match flag with
  | 0 => return (⟨least, none⟩, bs)
  | 1 =>
    let (most, bs) ← u32 bs
    if most < least then none else return (⟨least, some most⟩, bs)
  | _ => none

def mostPages : Nat := 65536

def memoryLimits (bs : Bytes) : Option (Limits × Bytes) := do
  let (l, bs) ← limits bs
  if mostPages < l.least ∨ mostPages < l.most.getD 0 then none else return (l, bs)

def tableType (bs : Bytes) : Option (TableType × Bytes) := do
  let (elements, bs) ← valueType bs
  if elements ≠ .functionRef ∧ elements ≠ .externalRef then none
  else
    let (l, bs) ← limits bs
    return (⟨elements, l⟩, bs)

def globalType (bs : Bytes) : Option (GlobalType × Bytes) := do
  let (type, bs) ← valueType bs
  let (change, bs) ← byte bs
  if 1 < change then none else return (⟨type, change = 1⟩, bs)

def importKind (types : List FunctionType) (bs : Bytes) : Option (ImportKind × Bytes) := do
  let (kind, bs) ← byte bs
  match kind with
  | 0 =>
    let (index, bs) ← u32 bs
    return (.function (← types[index]?), bs)
  | 1 => (tableType bs).map fun (type, bs) => (.table type, bs)
  | 2 => return (.memory, (← memoryLimits bs).2)
  | 3 => (globalType bs).map fun (type, bs) => (.global type, bs)
  | _ => none

def importEntry (types : List FunctionType) (bs : Bytes) : Option (Import × Bytes) := do
  let (provider, bs) ← name bs
  let (name, bs) ← name bs
  let (kind, bs) ← importKind types bs
  return (⟨provider, name, kind⟩, bs)

def exportKind : UInt8 → Option ExportKind
  | 0 => some .function
  | 1 => some .table
  | 2 => some .memory
  | 3 => some .global
  | _ => none

def exportEntry (bs : Bytes) : Option (Export × Bytes) := do
  let (name, bs) ← name bs
  let (kind, bs) ← byte bs
  let (index, bs) ← u32 bs
  return (⟨name, ← exportKind kind, index⟩, bs)

def endByte : UInt8 := 0x0B
def elseByte : UInt8 := 0x05

def constant (bs : Bytes) : Option (Constant × Bytes) := do
  let (op, bs) ← byte bs
  let (value, bs) ← match op with
    | 0x41 => (signed 32 bs).map fun (n, bs) => (Constant.i32 (wrap32 n), bs)
    | 0x42 => (signed 64 bs).map fun (n, bs) => (Constant.i64 (wrap64 n), bs)
    | 0x23 => (u32 bs).map fun (n, bs) => (Constant.global n, bs)
    | _ => none
  let (last, bs) ← byte bs
  if last = endByte then return (value, bs) else none

def globalEntry (bs : Bytes) : Option (Global × Bytes) := do
  let (type, bs) ← globalType bs
  let (initial, bs) ← constant bs
  return (⟨type, initial⟩, bs)

def blockType (types : List FunctionType) (bs : Bytes) : Option (FunctionType × Bytes) := do
  let (n, bs) ← signed 33 bs
  if 0 ≤ n then return (← types[n.toNat]?, bs)
  else if n = -64 then return (⟨[], []⟩, bs)
  else if n < -64 then none
  else return (⟨[], [← valueTypeOf (UInt8.ofNat (n + 128).toNat)]⟩, bs)

def access (most : Nat) (bs : Bytes) : Option (Nat × Bytes) := do
  let (alignment, bs) ← u32 bs
  if most < alignment then none else u32 bs

def onlyOne (bs : Bytes) : Option Bytes := do
  let (0, bs) ← u32 bs | none
  return bs

def comparisons : List Comparison := [.eq, .ne, .ltS, .ltU, .gtS, .gtU, .leS, .leU, .geS, .geU]

def arithmetics : List Arithmetic :=
  [.add, .sub, .mul, .divS, .divU, .remS, .remU, .and, .or, .xor, .shl, .shrS, .shrU]

def plain (op : UInt8) (bs : Bytes) : Option (Instruction × Bytes) :=
  match op with
  | 0x00 => some (.unreachable, bs)
  | 0x01 => some (.nop, bs)
  | 0x0C => (u32 bs).map fun (n, bs) => (.br n, bs)
  | 0x0D => (u32 bs).map fun (n, bs) => (.brIf n, bs)
  | 0x0F => some (.ret, bs)
  | 0x10 => (u32 bs).map fun (n, bs) => (.call n, bs)
  | 0x11 => do
    let (type, bs) ← u32 bs
    return (.callIndirect type, ← onlyOne bs)
  | 0x1A => some (.drop, bs)
  | 0x20 => (u32 bs).map fun (n, bs) => (.localGet n, bs)
  | 0x21 => (u32 bs).map fun (n, bs) => (.localSet n, bs)
  | 0x23 => (u32 bs).map fun (n, bs) => (.globalGet n, bs)
  | 0x24 => (u32 bs).map fun (n, bs) => (.globalSet n, bs)
  | 0x28 => (access 2 bs).map fun (offset, bs) => (.load 4 offset, bs)
  | 0x2D => (access 0 bs).map fun (offset, bs) => (.load 1 offset, bs)
  | 0x36 => (access 2 bs).map fun (offset, bs) => (.store 4 offset, bs)
  | 0x3A => (access 0 bs).map fun (offset, bs) => (.store 1 offset, bs)
  | 0x3F => (onlyOne bs).map fun bs => (.memorySize, bs)
  | 0x40 => (onlyOne bs).map fun bs => (.memoryGrow, bs)
  | 0x41 => (signed 32 bs).map fun (n, bs) => (.const32 (wrap32 n), bs)
  | 0x42 => (signed 64 bs).map fun (n, bs) => (.const64 (wrap64 n), bs)
  | 0x45 => some (.isZero, bs)
  | op =>
    if 0x46 ≤ op ∧ op ≤ 0x4F then
      (comparisons[op.toNat - 0x46]?).map fun c => (.compare c, bs)
    else if 0x6A ≤ op ∧ op ≤ 0x76 then
      (arithmetics[op.toNat - 0x6A]?).map fun a => (.arithmetic a, bs)
    else none

def instructions (types : List FunctionType) :
    Nat → Bytes → Option (List Instruction × UInt8 × Bytes)
  | 0, _ => none
  | _ + 1, [] => none
  | fuel + 1, op :: bs =>
    if op = endByte ∨ op = elseByte then some ([], op, bs)
    else do
      let (first, bs) ←
        if op = 0x02 ∨ op = 0x03 then do
          let (type, bs) ← blockType types bs
          let (body, last, bs) ← instructions types fuel bs
          if last ≠ endByte then none
          else if op = 0x02 then some (Instruction.block type body, bs)
          else some (Instruction.loop type body, bs)
        else if op = 0x04 then do
          let (type, bs) ← blockType types bs
          let (yes, last, bs) ← instructions types fuel bs
          if last = endByte then some (Instruction.ifElse type yes [], bs)
          else do
            let (no, last, bs) ← instructions types fuel bs
            if last = endByte then some (Instruction.ifElse type yes no, bs) else none
        else plain op bs
      let (rest, last, bs) ← instructions types fuel bs
      return (first :: rest, last, bs)

def localGroup (bs : Bytes) : Option ((Nat × ValueType) × Bytes) := do
  let (n, bs) ← u32 bs
  let (type, bs) ← valueType bs
  return ((n, type), bs)

def mostLocals : Nat := 50000

structure Code where
  locals : List ValueType
  body : List Instruction

def code (types : List FunctionType) (bs : Bytes) : Option (Code × Bytes) := do
  let (content, rest) ← byteString bs
  let (groups, bs) ← vector localGroup content
  if mostLocals < groups.foldl (fun n group => n + group.1) 0 then none
  else
    let (body, last, bs) ← instructions types (bs.length + 1) bs
    if last = endByte ∧ bs.isEmpty then
      return (⟨groups.flatMap fun (n, type) => List.replicate n type, body⟩, rest)
    else none

def target (flag : Nat) (bs : Bytes) : Option (Option Constant × Bytes) := do
  if flag = 1 ∨ flag = 3 then return (none, bs)
  else
    let bs ← if flag = 2 then onlyOne bs else some bs
    let (offset, bs) ← constant bs
    return (some offset, bs)

def elementKind (flag : Nat) (bs : Bytes) : Option Bytes := do
  if flag = 0 then return bs
  else
    let (0, bs) ← byte bs | none
    return bs

def elementSegment (bs : Bytes) : Option (Segment (List Nat) × Bytes) := do
  let (flag, bs) ← u32 bs
  if 3 < flag then none
  else
    let (offset, bs) ← target flag bs
    let (functions, bs) ← vector u32 (← elementKind flag bs)
    return (⟨offset, functions⟩, bs)

def dataSegment (bs : Bytes) : Option (Segment Bytes × Bytes) := do
  let (flag, bs) ← u32 bs
  if 2 < flag then none
  else
    let (offset, bs) ← target flag bs
    let (content, bs) ← byteString bs
    return (⟨offset, content⟩, bs)

def tag (bs : Bytes) : Option (Nat × Bytes) := do
  let (0, bs) ← byte bs | none
  u32 bs

structure Section where
  id : UInt8
  content : Bytes

def sections : Nat → Bytes → Option (List Section)
  | _, [] => some []
  | 0, _ => none
  | fuel + 1, id :: bs => do
    let (content, bs) ← byteString bs
    return ⟨id, content⟩ :: (← sections fuel bs)

def order : List UInt8 := [1, 2, 3, 4, 5, 13, 6, 7, 8, 9, 12, 10, 11]

def inOrder : List UInt8 → List Section → Bool
  | _, [] => true
  | left, s :: rest =>
    if s.id = 0 then (name s.content).isSome && inOrder left rest
    else
      match left.dropWhile (· ≠ s.id) with
      | [] => false
      | _ :: later => inOrder later rest

def whole {α : Type} (all : List Section) (id : UInt8) (absent : α)
    (read : Bytes → Option (α × Bytes)) : Option α :=
  match all.find? (·.id = id) with
  | none => some absent
  | some s => do
    let (a, rest) ← read s.content
    if rest.isEmpty then some a else none

def preamble : Bytes := [0x00, 0x61, 0x73, 0x6D, 0x01, 0x00, 0x00, 0x00]

def wellNumbered (m : Module) : Bool :=
  (m.exports.map (·.name)).eraseDups.length = m.exports.length &&
  m.exports.all (fun e =>
    match e.kind with
    | .function => e.index < m.functionCount
    | .table => e.index < m.tableTypes.length
    | .memory => e.index < m.memoryCount
    | .global => e.index < m.globalTypes.length) &&
  (m.start.all fun index => (m.functionType? index) == some ⟨[], []⟩) &&
  m.globals.all (fun g => m.knows g.type.type g.initial) &&
  m.elements.all (fun s =>
    (s.offset.all fun offset => m.hasFunctionTable && m.knows .i32 offset) &&
      s.content.all (· < m.functionCount)) &&
  m.data.all (fun s => s.offset.all fun offset => 0 < m.memoryCount && m.knows .i32 offset)

def module? (bs : Bytes) : Option Module := do
  if !preamble.isPrefixOf bs then none
  let bs := bs.drop preamble.length
  let all ← sections bs.length bs
  if !inOrder order all then none
  let types ← whole all 1 [] (vector functionType)
  let imports ← whole all 2 [] (vector (importEntry types))
  let declared ← whole all 3 [] (vector u32)
  let tables ← whole all 4 [] (vector tableType)
  let memories ← whole all 5 [] (vector memoryLimits)
  let globals ← whole all 6 [] (vector globalEntry)
  let exports ← whole all 7 [] (vector exportEntry)
  let start ← whole all 8 none fun bs => (u32 bs).map fun (n, bs) => (some n, bs)
  let elements ← whole all 9 [] (vector elementSegment)
  let codes ← whole all 10 [] (vector (code types))
  let data ← whole all 11 [] (vector dataSegment)
  let tags ← whole all 13 [] (vector tag)
  let announced ← whole all 12 data.length u32
  if tags.any (types.length ≤ ·) ∨ announced ≠ data.length then none
  if declared.length ≠ codes.length ∨ 1 < tables.length ∨ 1 < memories.length then none
  let functionTypes ← declared.mapM fun index => types[index]?
  let functions := (functionTypes.zip codes).map fun (type, c) => ⟨type, c.locals, c.body⟩
  let m : Module :=
    { types, imports, functions, table := tables.head?, memory := memories.head?, globals,
      exports, start, elements, data }
  if wellNumbered m && m.functions.all (Typing.accepts m) then some m else none

end GuestRunner.Wasm.Binary
