import Dimensional.Source.Blank
import Dimensional.Text.Identifier

/-!
# Literals

Where a literal at the head of a text ends. Each recogniser answers the text behind the literal, or
nothing if no literal of its kind is there. Any literal may carry a suffix, which is an identifier.
-/

namespace Dimensional.Source

/-- The identifier at the head of a text, without regard to keywords, and the rest. -/
def takeName (cs : Text) : Option (Text × Text) :=
  match cs with
  | c :: rest =>
    if Identifier.isStart c then
      some (c :: rest.takeWhile Identifier.isContinue, rest.dropWhile Identifier.isContinue)
    else none
  | [] => none

/-- What follows the suffix of a literal, if there is one. -/
def skipSuffix (cs : Text) : Text :=
  match takeName cs with
  | some (_, rest) => rest
  | none => cs

namespace Literal

/-- The value of a hexadecimal digit. -/
def hexDigit? (c : Char) : Option Nat :=
  if '0' ≤ c ∧ c ≤ '9' then some (c.toNat - '0'.toNat)
  else if 'a' ≤ c ∧ c ≤ 'f' then some (c.toNat - 'a'.toNat + 10)
  else if 'A' ≤ c ∧ c ≤ 'F' then some (c.toNat - 'A'.toNat + 10)
  else none

/-- The three kinds of strings. -/
inductive Flavor where
  | characters
  | bytes
  /-- Ended by a zero, and so without one. -/
  | terminated
  deriving DecidableEq, Repr

/-- The character may stand for itself in a string. -/
def Flavor.allows : Flavor → Char → Bool
  | characters, _ => true
  | bytes, c => c.toNat < 0x80
  | terminated, c => c.toNat ≠ 0

/-- An apostrophe, and a double quote. -/
def apostrophe : Char := Char.ofNat 39

def quote : Char := '\x22'

/-! ### Escapes -/

/-- Two digits after the letter of a numeric escape. -/
def skipHexPair (flavor : Flavor) : Text → Option Text
  | a :: b :: rest =>
    match hexDigit? a, hexDigit? b with
    | some high, some low =>
      let allowed : Bool := match flavor with
        | .characters => high < 8
        | .bytes => true
        | .terminated => 0 < high || 0 < low
      if allowed then some rest else none
    | _, _ => none
  | _ => none

/-- The digits of a code point up to the closing brace: one to six, underlines between them. -/
def codePoint : Nat → Nat → Text → Option (Nat × Text)
  | _, _, [] => none
  | count, value, c :: rest =>
    match hexDigit? c with
    | some digit => if count = 6 then none else codePoint (count + 1) (16 * value + digit) rest
    | none =>
      if count = 0 then none
      else if c = '_' then codePoint count value rest
      else if c = '\x7d' ∧ value.isValidChar then some (value, rest)
      else none

/-- A code point between braces, after the letter of the escape. -/
def skipCodePoint (flavor : Flavor) : Text → Option Text
  | c :: rest =>
    if c = '\x7b' then
      match codePoint 0 0 rest with
      | some (value, rest) => if flavor = .terminated ∧ value = 0 then none else some rest
      | none => none
    else none
  | [] => none

/-- The blanks after a backslash at the end of a line, and the line ends among them. -/
def skipContinuation : Char → Text → Option Text
  | _, [] => none
  | last, c :: rest =>
    if last = '\r' then
      if c = '\n' then skipContinuation '\n' rest else none
    else if c = ' ' ∨ c = '\t' ∨ c = '\n' ∨ c = '\r' then skipContinuation c rest
    else some (c :: rest)

/-- An escape that stands for one character, after its backslash. -/
def skipCharEscape (flavor : Flavor) : Text → Option Text
  | [] => none
  | c :: rest =>
    if c = 'x' then skipHexPair flavor rest
    else if c = 'u' then if flavor = .bytes then none else skipCodePoint flavor rest
    else if c = '0' then if flavor = .terminated then none else some rest
    else if c = 'n' ∨ c = 'r' ∨ c = 't' ∨ c = '\\' ∨ c = apostrophe ∨ c = quote then some rest
    else none

/-- An escape in a string, after its backslash. -/
def skipEscape (flavor : Flavor) (cs : Text) : Option Text :=
  match cs with
  | '\n' :: rest => skipContinuation '\n' rest
  | '\r' :: rest => skipContinuation '\r' rest
  | _ => skipCharEscape flavor cs

/-! ### Strings and characters -/

/-- The rest of a string with escapes, after its opening quote, in at most `fuel` steps. -/
def skipString (flavor : Flavor) : Nat → Text → Option Text
  | _, [] | 0, _ => none
  | fuel + 1, c :: rest =>
    if c = quote then some (skipSuffix rest)
    else if c = '\r' then
      match rest with
      | '\n' :: rest => skipString flavor fuel rest
      | _ => none
    else if c = '\\' then (skipEscape flavor rest).bind (skipString flavor fuel)
    else if flavor.allows c then skipString flavor fuel rest
    else none

/-- The rest of a string without escapes, up to a quote and these marks. -/
def skipRaw (flavor : Flavor) (marks : Text) : Text → Option Text
  | [] => none
  | '\r' :: '\n' :: rest => skipRaw flavor marks rest
  | c :: rest =>
    if c = quote ∧ marks.isPrefixOf rest then some (skipSuffix (rest.drop marks.length))
    else if c = '\r' then none
    else if flavor.allows c then skipRaw flavor marks rest
    else none

/-- A string without escapes, from the marks before its opening quote. -/
def skipRawString (flavor : Flavor) (cs : Text) : Option Text :=
  let marks := cs.takeWhile (· == '#')
  match cs.drop marks.length with
  | c :: rest => if c = quote ∧ marks.length ≤ 255 then skipRaw flavor marks rest else none
  | [] => none

/-- A string of a flavor, its letter dropped: with escapes, or after an `r` without. -/
def skipQuoted (flavor : Flavor) : Text → Option Text
  | c :: rest =>
    if c = quote then skipString flavor rest.length rest
    else if c = 'r' then skipRawString flavor rest
    else none
  | [] => none

/-- One character between apostrophes, after the first. -/
def skipCharacter (flavor : Flavor) (cs : Text) : Option Text := do
  let rest ← match cs with
    | [] => none
    | '\\' :: rest => skipCharEscape flavor rest
    | c :: rest => if flavor.allows c then some rest else none
  match rest with
  | c :: rest => if c = apostrophe then some (skipSuffix rest) else none
  | [] => none

/-! ### Numbers -/

/-- The suffix of a number. No identifier may go on behind it. -/
def skipNumberSuffix (cs : Text) : Option Text :=
  let rest := skipSuffix cs
  match rest with
  | c :: _ => if Identifier.isContinue c then none else some rest
  | [] => some rest

/-- How far the digits and the point of a decimal number go. -/
structure Mantissa where
  point : Bool
  rest : Text

/-- The digits of a number, with at most one point among them. A point that begins a range or a member
access is none of the number's, and then there is no such number. -/
def mantissa : Bool → Text → Option Mantissa
  | point, [] => some ⟨point, []⟩
  | point, c :: rest =>
    if c.isDigit || c == '_' then mantissa point rest
    else if c = '.' ∧ point = false then
      match rest with
      | [] => mantissa true rest
      | d :: _ => if d = '.' ∨ Identifier.isStart d then none else mantissa true rest
    else some ⟨point, c :: rest⟩

/-- What follows the sign and the digits of an exponent: `none` if there is no digit. The outer option
is empty at a second sign. -/
def skipExponent : Bool → Bool → Text → Option Text
  | _, digits, [] => if digits then some [] else none
  | sign, digits, c :: rest =>
    if c.isDigit then skipExponent sign true rest
    else if c = '_' then skipExponent sign digits rest
    else if (c = '+' ∨ c = '-') ∧ digits = false then
      if sign then none else skipExponent true digits rest
    else if digits then some (c :: rest) else none

/-- A number with a point or an exponent. An exponent without digits is no exponent, and may then be
the suffix of a number with a point. -/
def skipDecimalNumber (cs : Text) : Option Text := do
  let c :: rest := cs | none
  if !c.isDigit then none
  else
    let ⟨point, rest⟩ ← mantissa false rest
    let plain := if point then some rest else none
    let stop ← match rest with
      | 'e' :: after | 'E' :: after => skipExponent false false after <|> plain
      | _ => plain
    skipNumberSuffix stop

/-- The digits of a whole number in a base: one at least. A decimal digit beyond the base spoils it. -/
def skipDigits (base : Nat) : Bool → Text → Option Text
  | found, [] => if found then some [] else none
  | found, c :: rest =>
    if c = '_' then
      if found = false ∧ base = 10 then none else skipDigits base found rest
    else
      match hexDigit? c with
      | some digit =>
        if digit < base then skipDigits base true rest
        else if c.isDigit then none
        else if found then some (c :: rest) else none
      | none => if found then some (c :: rest) else none

/-- The base that the head of a whole number announces, and its digits. -/
def baseOf : Text → Nat × Text
  | '0' :: 'x' :: rest => (16, rest)
  | '0' :: 'o' :: rest => (8, rest)
  | '0' :: 'b' :: rest => (2, rest)
  | cs => (10, cs)

/-- A whole number. -/
def skipWholeNumber (cs : Text) : Option Text :=
  let (base, digits) := baseOf cs
  (skipDigits base false digits).bind skipNumberSuffix

/-! ### Any literal -/

/-- What follows the literal at the head of a text. -/
def skip (cs : Text) : Option Text :=
  let prefixed := match cs with
    | 'b' :: c :: rest =>
      if c = apostrophe then skipCharacter .bytes rest else skipQuoted .bytes (c :: rest)
    | 'c' :: rest => skipQuoted .terminated rest
    | c :: rest => if c = apostrophe then skipCharacter .characters rest else none
    | [] => none
  skipQuoted .characters cs <|> prefixed <|> skipDecimalNumber cs <|> skipWholeNumber cs

end Literal

end Dimensional.Source
