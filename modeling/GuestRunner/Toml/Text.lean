import GuestRunner.Bytes

/-!
# Texts and keys of a TOML document

Every reader takes the rest of the document and gives what it read with what is left, or nothing
where the document breaks a rule. Line ends are single line feeds here. A basic text knows escapes,
a literal text does not; three quotes in a row open a text that may go over several lines.
-/

set_option autoImplicit false

namespace GuestRunner.Toml

def isControl (c : Char) : Bool := c.toNat < 32 || c.toNat == 127

def fitsLine (c : Char) : Bool := c == '\t' || !isControl c

def fitsLines (c : Char) : Bool := c == '\n' || fitsLine c

def isBlank (c : Char) : Bool := c == ' ' || c == '\t'

def skipBlanks (cs : List Char) : List Char := cs.dropWhile isBlank

def skipBlankLines (cs : List Char) : List Char := cs.dropWhile fun c => isBlank c || c == '\n'

def isBareKeyChar (c : Char) : Bool :=
  ('a' ≤ c && c ≤ 'z') || ('A' ≤ c && c ≤ 'Z') || ('0' ≤ c && c ≤ '9') || c == '-' || c == '_'

def quote : Char := Char.ofNat 34
def apostrophe : Char := Char.ofNat 39

def codePoint (width : Nat) (cs : List Char) : Option (Char × List Char) := do
  let digits := cs.take width
  guard (digits.length = width)
  let values ← digits.mapM Bytes.hexValue?
  let n := values.foldl (fun n d => n * 16 + d) 0
  guard (n < 0xD800 ∨ (0xDFFF < n ∧ n < 0x110000))
  return (Char.ofNat n, cs.drop width)

def escape (lines : Bool) : List Char → Option (List Char × List Char)
  | [] => none
  | c :: rest =>
    if lines && c == '\n' then some ([], skipBlankLines rest)
    else if lines && isBlank c then
      match skipBlanks rest with
      | '\n' :: rest => some ([], skipBlankLines rest)
      | _ => none
    else if c = 'u' then (codePoint 4 rest).map fun (c, rest) => ([c], rest)
    else if c = 'U' then (codePoint 8 rest).map fun (c, rest) => ([c], rest)
    else if c = 'b' then some (['\x08'], rest)
    else if c = 't' then some (['\t'], rest)
    else if c = 'n' then some (['\n'], rest)
    else if c = 'f' then some (['\x0C'], rest)
    else if c = 'r' then some (['\r'], rest)
    else if c = quote ∨ c = '\\' then some ([c], rest)
    else none

def closes (delimiter : Char) : List Char → Bool
  | a :: b :: c :: _ => a == delimiter && b == delimiter && c == delimiter
  | _ => false

def basicContent (lines : Bool) : Nat → List Char → Option (List Char × List Char)
  | 0, _ => none
  | _ + 1, [] => none
  | fuel + 1, c :: rest =>
    if c = quote then
      if !lines then some ([], rest)
      else if closes quote (c :: rest) then some ([], rest.drop 2)
      else (basicContent lines fuel rest).map fun (content, left) => (c :: content, left)
    else if c = '\\' then do
      let (meant, rest) ← escape lines rest
      let (content, left) ← basicContent lines fuel rest
      return (meant ++ content, left)
    else if (if lines then fitsLines c else fitsLine c) then
      (basicContent lines fuel rest).map fun (content, left) => (c :: content, left)
    else none

def literalContent (lines : Bool) : List Char → Option (List Char × List Char)
  | [] => none
  | c :: rest =>
    if c = apostrophe && (!lines || closes apostrophe (c :: rest)) then
      some ([], if lines then rest.drop 2 else rest)
    else if (if lines then fitsLines c else fitsLine c) then
      (literalContent lines rest).map fun (content, left) => (c :: content, left)
    else none

def extraQuotes (delimiter : Char) (read : List Char × List Char) : List Char × List Char :=
  match read with
  | (content, a :: b :: rest) =>
    if a = delimiter ∧ b = delimiter then (content ++ [a, b], rest)
    else if a = delimiter then (content ++ [a], b :: rest)
    else read
  | (content, [a]) => if a = delimiter then (content ++ [a], []) else read
  | _ => read

def afterFirstLineEnd : List Char → List Char
  | '\n' :: rest => rest
  | rest => rest

def text? (lines : Bool) : List Char → Option (String × List Char)
  | [] => none
  | c :: rest =>
    let read :=
      if c = quote then
        if lines && closes quote (c :: rest) then
          (basicContent true rest.length (afterFirstLineEnd (rest.drop 2))).map
            (extraQuotes quote)
        else basicContent false (rest.length + 1) rest
      else if c = apostrophe then
        if lines && closes apostrophe (c :: rest) then
          (literalContent true (afterFirstLineEnd (rest.drop 2))).map (extraQuotes apostrophe)
        else literalContent false rest
      else none
    read.map fun (content, left) => (String.ofList content, left)

def keyPart (cs : List Char) : Option (String × List Char) :=
  let bare := cs.takeWhile isBareKeyChar
  if bare.isEmpty then text? false cs else some (String.ofList bare, cs.dropWhile isBareKeyChar)

def keyParts : Nat → List Char → Option (List String × List Char)
  | 0, _ => none
  | fuel + 1, cs =>
    match cs with
    | '.' :: rest => do
      let (part, left) ← keyPart (skipBlanks rest)
      let (parts, left) ← keyParts fuel (skipBlanks left)
      return (part :: parts, left)
    | _ => some ([], cs)

def key (cs : List Char) : Option (List String × List Char) := do
  let (part, left) ← keyPart cs
  let (parts, left) ← keyParts (left.length + 1) (skipBlanks left)
  return (part :: parts, left)

def skipComment : List Char → Option (List Char)
  | '#' :: rest =>
    let comment := rest.takeWhile (· ≠ '\n')
    if comment.all fitsLine then some (rest.dropWhile (· ≠ '\n')) else none
  | cs => some cs

def skipBetween (inComment : Bool) : List Char → Option (List Char)
  | [] => some []
  | c :: rest =>
    if c = '\n' then skipBetween false rest
    else if inComment then if fitsLine c then skipBetween true rest else none
    else if isBlank c then skipBetween false rest
    else if c = '#' then skipBetween true rest
    else some (c :: rest)

end GuestRunner.Toml
