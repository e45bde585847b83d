import GuestRunner.Digest
import GuestRunner.Failure

/-!
# Compiled modules

What an engine makes of the bytes of a module: something of its own, the size of the bytes and their
digest. None of it can be changed afterwards.
-/

set_option autoImplicit false

namespace GuestRunner

structure CompiledModule where
  native : Value
  size : Value
  digest : String
  deriving Repr

namespace CompiledModule

def ofBytes (content : Bytes) : CompiledModule :=
  ⟨Value.bytesOf content, Value.ofNat content.length, Digest.hex content⟩

def shownDigits : Nat := 12

def shown (m : CompiledModule) : String :=
  "CompiledModule(size_bytes=" ++ m.size.plain ++ ", digest=" ++
    String.ofList (m.digest.toList.take shownDigits) ++ ")"

def part (m : CompiledModule) (name : String) : Except Refusal Value :=
  match name with
  | "native" => .ok m.native
  | "size_bytes" => .ok m.size
  | "digest" => .ok (.text m.digest)
  | other => .error (.unknownAttribute "CompiledModule" other)

def setPart (_ : CompiledModule) (_ : String) (_ : Value) : Except Refusal Value :=
  .error .fixedAttribute

end CompiledModule

end GuestRunner
