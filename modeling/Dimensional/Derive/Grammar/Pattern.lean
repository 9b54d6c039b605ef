import Dimensional.Derive.Grammar.Member
import Dimensional.Derive.Grammar.Path

/-!
# Patterns

A pattern without alternatives, and several of them between bars. A range that lacks one of its ends
cannot be the element of a slice, so that a reader of patterns answers where the mark of such a range is.
-/

namespace Dimensional.Derive.Grammar

open Source

/-- What may begin a pattern, in the order in which a message lists it. -/
def patternWishes : List Wish :=
  [.ident, .mark "::", .mark "<", .word "_", .literal, .word "const", .word "ref", .word "mut",
   .mark "&", .group .parenthesis, .group .bracket, .mark "..", .word "const"]

/-- What may be the end of a range in a pattern. -/
def rangeEndWishes : List Wish :=
  [.literal, .ident, .mark "::", .mark "<", .word "self", .word "Self", .word "super", .word "crate",
   .word "const"]

/-! ### Ranges -/

/-- The mark of a range and where it is; does the range hold its upper end? An old spelling of the mark
is written as the new one. -/
def rangeMark (old : Bool) : Reader (Bool × Span) := do
  let ts ← tokens
  if nextIsMark "..=" ts then
    let ((), span) ← spanned (mark "..=")
    return (true, span)
  else if nextIsMark "..." ts then
    if old then
      let ((), span) ← spanned do
        let _ ← capture (mark "...")
      write (markTrees "..=".toList)
      return (true, span)
    else failAmong [Wish.mark "..="]
  else
    let ((), span) ← spanned (mark "..")
    return (false, span)

/-- The end of a range in a pattern, if there is one; is there? -/
def patternEnd (g : Rules) : Reader Bool := do
  let ts ← tokens
  if ts.isEmpty || nextIsMarkIn ["|", "=", ",", ";"] ts || nextIsWord "if" ts ||
      (nextIsMark ":" ts && !nextIsMark "::" ts) then
    return false
  if nextIsLiteral ts then literal
  else if nextIsPath ts then
    let _ ← qualifiedPath g true
  else if nextIsWord "const" ts then constantBlock g
  else failAmong rangeEndWishes
  return true

/-- The mark of a range that lacks one of its ends. -/
def openEnd (mark : Span) (lower upper : Bool) : Option Span :=
  if lower && upper then none else some mark

/-- The mark of a range behind its lower end, and its upper end. -/
def upperRange (g : Rules) : Reader (Option Span) := do
  let (closed, span) ← rangeMark true
  let upper ← patternEnd g
  if closed && !upper then failExpected "range upper bound"
  return openEnd span true upper

/-- A range without a lower end. A mark without any end stands for the rest of a list. -/
def lowerOpenRange (g : Rules) : Reader (Option Span) := do
  let (closed, span) ← rangeMark false
  if ← patternEnd g then return openEnd span false true
  if closed then failExpected "range upper bound"
  return none

/-! ### Any pattern -/

/-- Alternatives between bars, possibly with a bar in front. -/
def patterns (g : Rules) : Reader (Option Span) := do
  let leading ← mark? "|"
  let first ← g.pattern
  let more : List Tree → Bool := fun ts => nextIsMark "|" ts && !nextIsMarkIn ["||", "|="] ts
  let several ← next more
  iterate do
    if ← next more then
      mark "|"
      let _ ← g.pattern
      return true
    else return false
  return if leading || several then none else first

/-- Alternatives of which nothing is asked. -/
def anyPatterns (g : Rules) : Reader Unit := do
  let _ ← patterns g

/-- The pattern of a field in a structure. -/
def fieldPattern (g : Rules) : Reader Unit := do
  let before ← cursor
  let boxed ← word? "box"
  let referred ← word? "ref"
  let changed ← word? "mut"
  if boxed || referred || changed then
    let _ ← ident
    if boxed then copySince before
  else
    let named ← member
    if ← next fun ts => !named || nextIsMark ":" ts then
      mark ":"
      anyPatterns g

/-- The fields of a structure, and possibly a mark for the others. -/
def structurePattern (g : Rules) : Reader Unit :=
  group .brace do
    iterate do
      if ← atEnd then return false
      skipTags g
      if ← mark? ".." then return false
      fieldPattern g
      if ← atEnd then return false
      mark ","
      return true

/-- A pattern that begins with a path. -/
def pathPattern (g : Rules) : Reader (Option Span) := do
  let (qualified, p) ← qualifiedPath g true
  if (← macroCall? qualified p).isSome then return none
  let ts ← tokens
  if nextIsMark ".." ts && !nextIsGroup .brace ts then upperRange g
  else
    if nextIsGroup .brace ts then structurePattern g
    else if nextIsGroup .parenthesis ts then group .parenthesis (commaList (anyPatterns g))
    return none

/-- A name to which the matter is bound, possibly with a pattern for it. -/
def namePattern (g : Rules) : Reader Unit := do
  let _ ← word? "ref"
  let _ ← word? "mut"
  if !(← word? "self") then
    let _ ← ident
  if ← mark? "@" then
    let _ ← g.pattern

/-- The elements of a slice. -/
def slicePattern (g : Rules) : Reader Unit :=
  group .bracket do
    commaList do
      match ← patterns g with
      | some span => failAt span .openRange
      | none => return

/-- A path is next that is the whole pattern, or its head. -/
def nextIsPathPattern (ts : List Tree) : Bool :=
  let second := behind ts
  (nextIsIdent ts && (nextIsMarkIn ["::", "!", ".."] second || nextIsGroup .brace second ||
      nextIsGroup .parenthesis second)) ||
    (nextIsWord "self" ts && nextIsMark "::" second) || nextIsMarkIn ["::", "<"] ts ||
    nextIsWordIn ["Self", "super", "crate"] ts

/-- A pattern without alternatives. -/
def pattern (g : Rules) : Reader (Option Span) := do
  let ts ← tokens
  if nextIsPathPattern ts then pathPattern g
  else if nextIsMark "-" ts || nextIsLiteral ts || nextIsWord "const" ts then
    let _ ← patternEnd g
    if ← next (nextIsMark "..") then upperRange g else return none
  else if nextIsMark ".." ts && !nextIsMark "..." ts then lowerOpenRange g
  else
    if nextIsWord "_" ts then skip
    else if nextIsWord "box" ts then
      copied do
        skip
        let _ ← g.pattern
    else if nextIsIdent ts || nextIsWordIn ["ref", "mut", "self"] ts then namePattern g
    else if nextIsMark "&" ts then
      mark "&"
      let _ ← word? "mut"
      let _ ← g.pattern
    else if nextIsGroup .parenthesis ts then group .parenthesis (commaList (anyPatterns g))
    else if nextIsGroup .bracket ts then slicePattern g
    else failAmong patternWishes
    return none

end Dimensional.Derive.Grammar
