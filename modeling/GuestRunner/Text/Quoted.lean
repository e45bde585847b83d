import GuestRunner.Bytes
import GuestRunner.Text.Printable
import GuestRunner.Text.Surrogate

/-!
# Quoted text

A text or byte string is shown between quotes. The quote is the apostrophe unless the content holds
an apostrophe and no double quote. A backslash stands before the quote and before itself, the usual
letters name tab, line feed and carriage return, and whatever is not printable is written by its
code in two, four or eight hexadecimal digits.
-/

set_option autoImplicit false

namespace GuestRunner.Text.Quoted

def hex (width n : Nat) : List Char :=
  (Bytes.lastDigits 16 width n).map Bytes.hexDigit

def escaped (c : Char) : List Char :=
  let n := c.toNat
  if n < 0x100 then '\\' :: 'x' :: hex 2 n
  else if n < 0x10000 then '\\' :: 'u' :: hex 4 n
  else '\\' :: 'U' :: hex 8 n

def quoteFor (content : List Char) : Char :=
  if content.contains '\'' && !content.contains '"' then '"' else '\''

def shownChar (quote : Char) (c : Char) : List Char :=
  if c = quote ∨ c = '\\' then ['\\', c]
  else if c = '\t' then ['\\', 't']
  else if c = '\n' then ['\\', 'n']
  else if c = '\r' then ['\\', 'r']
  else if Printable.isPrintable c then [c]
  else escaped c

def chars (content : List Char) : List Char :=
  let quote := quoteFor content
  quote :: content.flatMap (shownChar quote) ++ [quote]

def text (content : String) : String := String.ofList (chars content.toList)

def broken (content : String) : String :=
  let quote := quoteFor content.toList
  let shown (c : Char) : List Char :=
    if Surrogate.isStandIn c then Surrogate.shownHalf c else shownChar quote c
  String.ofList (quote :: content.toList.flatMap shown ++ [quote])

def shownByte (quote : Char) (b : UInt8) : List Char :=
  if b < 0x20 ∨ 0x7F ≤ b then
    if b = 9 then ['\\', 't'] else if b = 10 then ['\\', 'n'] else if b = 13 then ['\\', 'r']
    else '\\' :: 'x' :: hex 2 b.toNat
  else
    let c := Char.ofNat b.toNat
    if c = quote ∨ c = '\\' then ['\\', c] else [c]

def bytes (content : Bytes) : String :=
  let quote := quoteFor (content.map fun b => Char.ofNat b.toNat)
  String.ofList ('b' :: quote :: content.flatMap (shownByte quote) ++ [quote])

example : text "it's" = "\"it's\"" := by decide +kernel
example : text "a\n\\'\"" = "'a\\n\\\\\\'\"'" := by decide +kernel
example : broken (String.ofList ['a', Surrogate.standIn 0xD83D]) = "'a\\ud83d'" := by decide +kernel
example : bytes [0x61, 0, 0xFF, 0x27] = "b\"a\\x00\\xff'\"" := by decide +kernel

end GuestRunner.Text.Quoted
