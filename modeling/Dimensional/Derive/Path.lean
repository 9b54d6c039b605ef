import Dimensional.Derive.Cursor

/-!
# Paths

A path is a chain of segments, possibly with a separator in front. A segment is an identifier, or one of
the words that may stand for one, with arguments in angles or without.

* `Path.words_ne_nil` — a path has at least one word.
-/

namespace Dimensional.Derive

open Source

/-- A segment of a path. -/
structure Segment where
  ident : Ident
  /-- The arguments behind it on one line; empty if there are none. -/
  arguments : Text := []
  deriving DecidableEq

namespace Segment

/-- The words of a segment. -/
def words (s : Segment) : List Text :=
  s.ident.text :: if s.arguments.isEmpty then [] else [s.arguments]

end Segment

/-- A path. -/
structure Path where
  /-- A separator stands in front. -/
  leading : Bool
  first : Segment
  rest : List Segment
  deriving DecidableEq

namespace Path

/-- The path of an identifier and those behind it. -/
def ofIdents (leading : Bool) (first : Ident) (rest : List Ident) : Path :=
  ⟨leading, ⟨first, []⟩, rest.map fun i => ⟨i, []⟩⟩

/-- The words of a path, separators among them. -/
def words (p : Path) : List Text :=
  (if p.leading then ["::".toList] else []) ++
    p.first.words ++ p.rest.flatMap fun segment => "::".toList :: segment.words

/-- The path on one line. -/
def text (p : Path) : Text := List.intercalate [' '] p.words

/-- No segment has arguments. -/
def isPlain (p : Path) : Bool := (p.first :: p.rest).all fun segment => segment.arguments.isEmpty

/-- The path is this one identifier, with nothing in front. -/
def isIdent (p : Path) (s : String) : Bool := p == ofIdents false (.plain s.toList) []

/-- The last segment. -/
def last (p : Path) : Segment := p.rest.getLast?.getD p.first

/-- Identifiers and keywords between separators, to the last that is followed by none. -/
def plainSegments : Nat → Reader (List (Ident × Span))
  | 0 => return []
  | fuel + 1 => do
    let ts ← tokens
    if nextIsIdent ts || nextIsWordIn ["super", "self", "Self", "crate"] ts then
      let i ← name
      if ← mark? "::" then
        let more ← plainSegments fuel
        if more.isEmpty then fail .openPath else return i :: more
      else return [i]
    else return []

/-- A path of an attribute, a macro or a scope, and the stretch from its first segment to its last. -/
def readPlain : Reader (Path × Span) := do
  let fuel := (← tokens).length
  let leading ← mark? "::"
  match ← plainSegments fuel with
  | (first, span) :: rest =>
    let stop := (rest.getLast?.map Prod.snd).getD span
    return (ofIdents leading first (rest.map Prod.fst), span.join stop)
  | [] =>
    let (i, span) ← ident
    return (ofIdents leading i [], span)

theorem words_ne_nil (p : Path) : p.words ≠ [] := by
  simp [words, Segment.words]

end Path

end Dimensional.Derive
