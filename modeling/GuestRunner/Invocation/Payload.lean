import GuestRunner.Failure

/-!
# Payloads

A payload is what one invocation is about. Texts are encoded, a number stands for that many zero
bytes, a list of numbers for those bytes, a table for its keys; other values are refused. For the
guest the bytes are decoded again, with a replacement character wherever they are no text.
-/

set_option autoImplicit false

namespace GuestRunner.Payload

def longest : Int := 9223372036854775807

def encoded? : Value → Option (Except Refusal Bytes)
  | .brokenText s => some (.error (.unencodableText s))
  | v => v.text?.map fun s => .ok (Text.Utf8.encode s)

def byteOf (n : Int) : Except Refusal UInt8 :=
  if 0 ≤ n ∧ n < 256 then .ok (UInt8.ofNat n.toNat) else .error .byteOutOfRange

def itemByte : Value → Except Refusal UInt8
  | .int n => byteOf n
  | .bool b => byteOf (if b then 1 else 0)
  | v => .error (.notAnInteger v.typeName)

def zeros (n : Int) : Except Refusal Bytes :=
  if longest < n ∨ n < -longest - 1 then .error .countTooLarge
  else if n < 0 then .error .negativeCount
  else .ok (List.replicate n.toNat 0)

def contents : Value → Except Refusal Bytes
  | .bytes _ content => .ok content
  | .path p => .ok (Text.Utf8.encode p.text)
  | .int n => zeros n
  | .bool b => zeros (if b then 1 else 0)
  | .list items | .tuple items => items.mapM itemByte
  | .table entries => entries.mapM fun entry => itemByte entry.1
  | .settings _ => .error (.notAnInteger "tuple")
  | v => .error (.noBytes v.typeName)

def bytes (v : Value) : Except Refusal Bytes := (encoded? v).getD (contents v)

def decodable : Value → Except Refusal Bytes
  | .bytes .fixed content | .bytes .growable content => .ok content
  | v => .error (.unknownAttribute v.typeName "decode")

def encoded (v : Value) : Except Refusal Bytes :=
  (encoded? v).getD (.error (.unknownAttribute v.typeName "encode"))

def text (content : Bytes) : String := Text.Utf8.decode content

end GuestRunner.Payload
