import Dimensional.Text.Basic

/-!
# Tokens of source text

Source text is a tree of tokens: identifiers, single punctuation characters, literals, and groups in
matching delimiters. Every token knows the stretch of text that it was read from.

* `Tree.render` — tokens as one line, a blank between any two that are not joined;
* `Tree.size_pos` — every token counts.
-/

namespace Dimensional.Source

/-- A place in a text: the line, from one, and the characters before it on the line. -/
structure Position where
  line : Nat
  column : Nat
  deriving DecidableEq, Repr

namespace Position

/-- The beginning of a text. -/
def start : Position := ⟨1, 0⟩

/-- The place behind a character. -/
def next (p : Position) (c : Char) : Position :=
  if c = '\n' then ⟨p.line + 1, 0⟩ else ⟨p.line, p.column + 1⟩

/-- The place behind a text. -/
def advance (p : Position) (cs : Text) : Position := cs.foldl next p

end Position

/-- A stretch of text, its end not included. -/
structure Span where
  start : Position
  stop : Position
  deriving DecidableEq, Repr

namespace Span

/-- Where a report points when it has no token to point at. -/
def whole : Span := ⟨.start, .start⟩

/-- From the beginning of one stretch to the end of another. -/
def join (a b : Span) : Span := ⟨a.start, b.stop⟩

end Span

/-- The pairs of delimiters that form groups. -/
inductive Delimiter where
  | parenthesis
  | bracket
  | brace
  deriving DecidableEq, Repr

namespace Delimiter

def opening : Delimiter → Char
  | parenthesis => '('
  | bracket => '['
  | brace => '\x7b'

def closing : Delimiter → Char
  | parenthesis => ')'
  | bracket => ']'
  | brace => '\x7d'

def all : List Delimiter := [parenthesis, bracket, brace]

/-- The delimiter that a character opens. -/
def ofOpening? (c : Char) : Option Delimiter := all.find? fun d => d.opening == c

/-- The delimiter that a character closes. -/
def ofClosing? (c : Char) : Option Delimiter := all.find? fun d => d.closing == c

/-- What a message calls a group. -/
def plural : Delimiter → String
  | parenthesis => "parentheses"
  | bracket => "square brackets"
  | brace => "curly braces"

end Delimiter

/-- An identifier. A raw one is never a keyword. -/
structure Ident where
  raw : Bool
  name : Text
  deriving DecidableEq, Repr

namespace Ident

/-- An identifier that is not raw. -/
def plain (name : Text) : Ident := ⟨false, name⟩

/-- The identifier as it is written. -/
def text (i : Ident) : Text := if i.raw then 'r' :: '#' :: i.name else i.name

end Ident

/-- A token, or a group of tokens between delimiters. -/
inductive Tree where
  | ident (ident : Ident) (span : Span)
  /-- A punctuation character; `joint` when another one follows at once. -/
  | punct (char : Char) (joint : Bool) (span : Span)
  | literal (text : Text) (span : Span)
  | group (delimiter : Delimiter) (inner : List Tree) (span opening closing : Span)

namespace Tree

/-- The stretch of text of a token, all of it for a group. -/
def span : Tree → Span
  | ident _ span => span
  | punct _ _ span => span
  | literal _ span => span
  | group _ _ span _ _ => span

/-- The stretch of text that a report about a token points at: for a group, where it opens. -/
def head : Tree → Span
  | group _ _ _ opening _ => opening
  | t => t.span

mutual
/-- The number of tokens, a group counting for itself besides what is in it. -/
def size : Tree → Nat
  | ident _ _ => 1
  | punct _ _ _ => 1
  | literal _ _ => 1
  | group _ inner _ _ _ => 1 + sizes inner

/-- The number of tokens in a list. -/
def sizes : List Tree → Nat
  | [] => 0
  | t :: ts => t.size + sizes ts
end

/-- Nothing stands between this token and the next. -/
def joins : Tree → Bool
  | punct _ joint _ => joint
  | _ => false

mutual
/-- The characters of a token, inner tokens apart by blanks. -/
def text : Tree → Text
  | ident i _ => i.text
  | punct c _ _ => [c]
  | literal text _ => text
  | group d inner _ _ _ =>
    match d, inner with
    | _, [] => if d = .brace then [d.opening, ' ', d.closing] else [d.opening, d.closing]
    | .brace, inner => d.opening :: ' ' :: (render inner ++ [' ', d.closing])
    | _, inner => d.opening :: (render inner ++ [d.closing])

/-- Tokens on one line: a blank stands between two of them unless the first is joint. -/
def render : List Tree → Text
  | [] => []
  | [t] => t.text
  | t :: ts => t.text ++ (if joins t then [] else [' ']) ++ render ts
end

theorem size_pos (t : Tree) : 0 < t.size := by
  cases t <;> simp only [size] <;> omega

end Tree

end Dimensional.Source
