import Dimensional.Source.Literal
import Dimensional.Source.Token
import Dimensional.Text.Quoted

/-!
# From text to tokens

A text is read token by token; an opening delimiter suspends the tokens before it until the matching
one closes the group. A documenting comment counts as the attribute that it abbreviates. A text whose
delimiters do not match, or that holds what is no token, has no tokens at all.
-/

namespace Dimensional.Source

/-- The characters that punctuation is made of. -/
def isPunct (c : Char) : Bool :=
  c == Literal.apostrophe || "~!@#$%^&*-=+|;:,<.>/?".toList.contains c

/-- A punctuation character at the head of a text, and the rest; the slash of a comment is none. -/
def takePunct (cs : Text) : Option (Char × Text) :=
  if begins "//" cs || begins "/*" cs then none
  else match cs with
    | c :: rest => if isPunct c then some (c, rest) else none
    | [] => none

/-- Names that cannot be raw. -/
def isNeverRaw (name : Text) : Bool :=
  ["_", "super", "self", "Self", "crate"].any fun word => word.toList == name

/-- The identifier at the head of a text, raw or not, and the rest. -/
def takeIdent (cs : Text) : Option (Ident × Text) :=
  if begins "r#" cs then
    match takeName (cs.drop 2) with
    | some (name, rest) => if isNeverRaw name then none else some (⟨true, name⟩, rest)
    | none => none
  else (takeName cs).map fun (name, rest) => (⟨false, name⟩, rest)

/-- The text begins like a literal of a kind that has a letter in front, so that the letter is no
identifier even when the literal is not complete. -/
def isLiteralStart (cs : Text) : Bool :=
  ["r\x22", "r#\x22", "r##", "b\x22", "b\x27", "br\x22", "br#", "c\x22", "cr\x22", "cr#"].any
    fun mark => begins mark cs

/-- A token that is no group, without its place. -/
inductive Leaf where
  | ident (ident : Ident)
  | punct (char : Char) (joint : Bool)
  | literal (text : Text)
  deriving DecidableEq

/-- The token at that place. -/
def Leaf.placed (span : Span) : Leaf → Tree
  | ident i => .ident i span
  | punct c joint => .punct c joint span
  | literal text => .literal text span

/-- The punctuation at the head of a text. An apostrophe stands before the name of a lifetime, and
nothing may follow that name that would make a character or a literal of the two. -/
def takePunctLeaf (cs : Text) : Option (Leaf × Text) := do
  let (c, rest) ← takePunct cs
  if c = Literal.apostrophe then
    let (_, after) ← takeIdent rest
    match after with
    | d :: _ =>
      if d = Literal.apostrophe ∨ (d = '#' ∧ !begins "r#" rest) then none
      else some (.punct c true, rest)
    | [] => some (.punct c true, rest)
  else some (.punct c (takePunct rest).isSome, rest)

/-- What stands for a literal in which there was an error. -/
def placeholder : String := "(/*ERROR*/)"

/-- The token at the head of a text, if no delimiter is there. Literals come first: some begin like
identifiers. -/
def takeLeaf (cs : Text) : Option (Leaf × Text) :=
  match Literal.skip cs with
  | some rest => some (.literal (cs.take (cs.length - rest.length)), rest)
  | none =>
    match takePunctLeaf cs with
    | some leaf => some leaf
    | none =>
      if begins placeholder cs then
        some (.literal placeholder.toList, cs.drop placeholder.length)
      else if isLiteralStart cs then none
      else (takeIdent cs).map fun (i, rest) => (.ident i, rest)

/-- The delimiter that is opened at the head of a text. -/
def takeOpening (cs : Text) : Option Delimiter :=
  match cs with
  | c :: _ => if begins placeholder cs then none else Delimiter.ofOpening? c
  | [] => none

/-- The text of a documenting comment as a literal. A zero before an octal digit is spelled so that the
two cannot be taken for one escape. -/
def docLiteral (comment : Text) : Text :=
  '\x22' :: (body comment ++ ['\x22'])
where
  body : Text → Text
    | [] => []
    | c :: rest =>
      let octal : Bool := match rest with
        | d :: _ => '0' ≤ d && d ≤ '7'
        | [] => false
      (if c.toNat = 0 ∧ octal then "\\x00".toList else Quoted.encodeChar c) ++ body rest

/-- The attribute that a documenting comment abbreviates; all of it is where the comment is. -/
def DocComment.trees (comment : DocComment) (span : Span) : List Tree :=
  let opening : Span := ⟨span.start, ⟨span.start.line, span.start.column + 1⟩⟩
  let closing : Span := ⟨⟨span.stop.line, span.stop.column - 1⟩, span.stop⟩
  let content : List Tree :=
    [.ident (.plain "doc".toList) span, .punct '=' false span,
     .literal (docLiteral comment.text) span]
  .punct '#' false span ::
    ((if comment.inner then [.punct '!' false span] else []) ++
      [.group .bracket content span opening closing])

/-- A group that is still open: its delimiter, where it opens, and the tokens before it, last first. -/
structure Frame where
  delimiter : Delimiter
  opening : Span
  before : List Tree

/-- The tokens of a text from some place in it, in at most `fuel` steps. The tokens of the innermost
open group are collected last first; the groups around it wait on the stack. -/
def treesFrom : Nat → Position → Text → List Tree → List Frame → Option (List Tree)
  | 0, _, _, _, _ => none
  | fuel + 1, place, cs, trees, stack =>
    let rest := skipBlank cs
    let place := place.advance (cs.take (cs.length - rest.length))
    let spanTo (after : Text) : Span := ⟨place, place.advance (rest.take (rest.length - after.length))⟩
    match docComment? rest with
    | some (comment, after) =>
      let span := spanTo after
      treesFrom fuel span.stop after ((comment.trees span).reverse ++ trees) stack
    | none =>
      match rest with
      | [] => if stack.isEmpty then some trees.reverse else none
      | c :: after =>
        match takeOpening rest with
        | some delimiter =>
          let span := spanTo after
          treesFrom fuel span.stop after [] (⟨delimiter, span, trees⟩ :: stack)
        | none =>
          match Delimiter.ofClosing? c with
          | some delimiter =>
            match stack with
            | frame :: stack =>
              if frame.delimiter = delimiter then
                let span := spanTo after
                let group := Tree.group delimiter trees.reverse (frame.opening.join span)
                  frame.opening span
                treesFrom fuel span.stop after (group :: frame.before) stack
              else none
            | [] => none
          | none =>
            match takeLeaf rest with
            | some (leaf, after) =>
              let span := spanTo after
              treesFrom fuel span.stop after (leaf.placed span :: trees) stack
            | none => none

/-- The tokens of a text. A mark of byte order in front is passed over, but takes up a column. Every
step but the last takes a character. -/
def treesOfText? (cs : Text) : Option (List Tree) :=
  match cs with
  | c :: rest =>
    if c.toNat = 0xfeff then treesFrom (rest.length + 1) (Position.start.next c) rest [] []
    else treesFrom (cs.length + 1) .start cs [] []
  | [] => some []

/-- An empty text is one that can be read. -/
example : treesOfText? [] = some [] := rfl

end Dimensional.Source
