import Dimensional.Json.Error

/-!
# JSON strings

The characters of a string literal, escapes resolved. A code point beyond 16 bits may be escaped as a
pair of surrogates, and only as a pair.
-/

namespace Dimensional.Json.Quoted

/-- Bytes in the encoded form of a text. -/
def encodedSize (cs : Text) : Nat := cs.foldr (fun c size => c.utf8Size + size) 0

/-- The value of a hexadecimal digit. -/
def hexDigit? (c : Char) : Option Nat :=
  if '0' ≤ c ∧ c ≤ '9' then some (c.toNat - '0'.toNat)
  else if 'a' ≤ c ∧ c ≤ 'f' then some (c.toNat - 'a'.toNat + 10)
  else if 'A' ≤ c ∧ c ≤ 'F' then some (c.toNat - 'A'.toNat + 10)
  else none

/-- The number of four hexadecimal digits. The text must hold four more bytes for them. -/
def readHex (cs : Text) : Except Error (Nat × Text) :=
  if encodedSize cs < 4 then .error (.ended .string)
  else match (cs.take 4).mapM hexDigit? with
    | some digits => .ok (digits.foldl (fun n d => 16 * n + d) 0, cs.drop 4)
    | none => .error .invalidEscape

def isLeading (unit : Nat) : Bool := 0xd800 ≤ unit && unit < 0xdc00

def isTrailing (unit : Nat) : Bool := 0xdc00 ≤ unit && unit < 0xe000

/-- The character of a numeric escape, after its letter. -/
def readUnicode (cs : Text) : Except Error (Char × Text) := do
  let (first, rest) ← readHex cs
  if isTrailing first then .error .loneSurrogate
  else if isLeading first then
    match rest with
    | [] => .error (.ended .string)
    | '\\' :: 'u' :: rest =>
      let (second, rest) ← readHex rest
      if isTrailing second then
        return (Char.ofNat (0x10000 + (first - 0xd800) * 0x400 + (second - 0xdc00)), rest)
      else .error .loneSurrogate
    | ['\\'] => .error (.ended .string)
    | _ => .error .endOfHexEscape
  else return (Char.ofNat first, rest)

/-- The character of an escape, after its backslash. -/
def readEscape : Text → Except Error (Char × Text)
  | [] => .error (.ended .string)
  | 'b' :: rest => .ok (Char.ofNat 8, rest)
  | 'f' :: rest => .ok (Char.ofNat 12, rest)
  | 'n' :: rest => .ok ('\n', rest)
  | 'r' :: rest => .ok ('\r', rest)
  | 't' :: rest => .ok ('\t', rest)
  | 'u' :: rest => readUnicode rest
  | c :: rest =>
    if c = '\x22' ∨ c = '\\' ∨ c = '/' then .ok (c, rest) else .error .invalidEscape

/-- The characters up to the closing quote, in at most `fuel` steps. -/
def readFrom : Nat → Text → Except Error (Text × Text)
  | _, [] | 0, _ => .error (.ended .string)
  | fuel + 1, c :: rest =>
    if c = '\x22' then .ok ([], rest)
    else if c = '\\' then do
      let (c, rest) ← readEscape rest
      let (s, rest) ← readFrom fuel rest
      return (c :: s, rest)
    else if c.toNat < 0x20 then .error .controlCharacter
    else do
      let (s, rest) ← readFrom fuel rest
      return (c :: s, rest)

/-- The characters after an opening quote up to the closing one. Every step takes a character, so the
length of the text is fuel enough. -/
def read (cs : Text) : Except Error (Text × Text) := readFrom cs.length cs

end Dimensional.Json.Quoted
