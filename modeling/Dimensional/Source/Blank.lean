import Dimensional.Text.Basic

/-!
# What stands between tokens

White space and comments separate tokens and are dropped, but for the comments that document an item.
Those begin with exactly three slashes, or with a slash and exactly two stars, or with a `!` in place
of the last of these.
-/

namespace Dimensional.Source

/-- The text begins with these characters. -/
def begins (mark : String) (cs : Text) : Bool := mark.toList.isPrefixOf cs

/-- White space: the characters of the Unicode property and the two marks of writing direction. -/
def isSpace (c : Char) : Bool :=
  let n := c.toNat
  (0x09 ≤ n && n ≤ 0x0d) || n == 0x20 || n == 0x85 || n == 0xa0 || n == 0x1680 ||
    (0x2000 ≤ n && n ≤ 0x200a) || n == 0x200e || n == 0x200f || n == 0x2028 || n == 0x2029 ||
    n == 0x202f || n == 0x205f || n == 0x3000

/-- The text up to the end of its line, and the rest from there. -/
def takeLine : Text → Text × Text
  | [] => ([], [])
  | '\n' :: rest => ([], '\n' :: rest)
  | '\r' :: '\n' :: rest => ([], '\r' :: '\n' :: rest)
  | c :: rest =>
    let (line, rest) := takeLine rest
    (c :: line, rest)

/-- What follows the end of a comment in which `depth` more are open. -/
def closeComment : Nat → Text → Option Text
  | _, [] => none
  | depth, '/' :: '*' :: rest => closeComment (depth + 1) rest
  | 0, '*' :: '/' :: rest => some rest
  | depth + 1, '*' :: '/' :: rest => closeComment depth rest
  | depth, _ :: rest => closeComment depth rest

/-- What follows a comment between slashes and stars; such comments nest. -/
def skipBlockComment (cs : Text) : Option Text :=
  if begins "/*" cs then closeComment 0 (cs.drop 2) else none

/-- A comment to the end of its line that documents nothing. -/
def isLineComment (cs : Text) : Bool :=
  begins "//" cs && (!begins "///" cs || begins "////" cs) && !begins "//!" cs

/-- A comment between slashes and stars that documents nothing. -/
def isBlockComment (cs : Text) : Bool :=
  begins "/**/" cs ||
    begins "/*" cs && (!begins "/**" cs || begins "/***" cs) && !begins "/*!" cs

/-- The text from its next token on, found in at most `fuel` steps. -/
def skipBlankFrom : Nat → Text → Text
  | 0, cs => cs
  | _, [] => []
  | fuel + 1, c :: rest =>
    if isLineComment (c :: rest) then skipBlankFrom fuel (takeLine (c :: rest)).2
    else if isBlockComment (c :: rest) then
      match skipBlockComment (c :: rest) with
      | some after => skipBlankFrom fuel after
      | none => c :: rest
    else if isSpace c then skipBlankFrom fuel rest
    else c :: rest

/-- The text from its next token on. Every step takes a character, so the length is fuel enough. -/
def skipBlank (cs : Text) : Text := skipBlankFrom cs.length cs

/-- A comment that documents an item. -/
structure DocComment where
  /-- It documents what encloses it. -/
  inner : Bool
  text : Text
  deriving DecidableEq, Repr

/-- Every carriage return is followed by a line feed. -/
def properReturns : Text → Bool
  | [] => true
  | '\r' :: '\n' :: rest => properReturns rest
  | '\r' :: _ => false
  | _ :: rest => properReturns rest

/-- The documenting comment at the head of a text, and the rest. A lone carriage return is not allowed
in one; the one that ends its line belongs to it, but not to what it says. -/
def docComment? (cs : Text) : Option (DocComment × Text) := do
  let (comment, rest) ←
    if begins "//!" cs then some (line true)
    else if begins "/*!" cs then block true
    else if begins "///" cs && !begins "////" cs then some (line false)
    else if begins "/**" cs && !begins "/***" cs then block false
    else none
  if properReturns comment.text then some (comment, rest) else none
where
  line (inner : Bool) : DocComment × Text :=
    let (text, rest) := takeLine (cs.drop 3)
    (⟨inner, text⟩, if begins "\r" rest then rest.drop 1 else rest)
  block (inner : Bool) : Option (DocComment × Text) := do
    let rest ← skipBlockComment cs
    some (⟨inner, (cs.take (cs.length - rest.length - 2)).drop 3⟩, rest)

end Dimensional.Source
