import Dimensional.Derive.Grammar.Rules

/-!
# Tags and blocks

A tag stands in front of what it belongs to, or with an exclamation mark at the beginning of it. A block
is a group of statements in braces.
-/

namespace Dimensional.Derive.Grammar

open Source

/-- The value of a tag. -/
def tagValue (g : Rules) : Reader Unit := do
  let ts ← tokens
  if nextIsMark "#" ts && nextIsGroup .bracket (ts.drop 1) then fail .nestedAttribute
  else g.anyExpression

/-- What stands behind the path of a tag. -/
def contentBehind (g : Rules) (path : Path) (span : Span) : Reader (Path × Span × Content) := do
  match ← tokens with
  | .group _ inner _ _ closing :: _ =>
    skip
    return (path, span, .arguments inner closing)
  | ts =>
    if nextIsMark "=" ts && !nextIsMark "==" ts && !nextIsMark "=>" ts then
      let sign := (← cursor).here
      mark "="
      tagValue g
      return (path, span, .value sign)
    else return (path, span, .bare)

/-- What stands between the brackets of a tag. -/
def tagContent (g : Rules) : Reader (Path × Span × Content) := do
  let c ← cursor
  if ← word? "unsafe" then contentBehind g (.ofIdents false (.plain "unsafe".toList) []) c.here
  else
    let (path, span) ← Path.readPlain
    contentBehind g path span

/-- Tags in front of something, `fuel` at most. -/
def tagsFor (g : Rules) : Nat → Reader (List Tag)
  | 0 => return []
  | fuel + 1 => do
    if ← next (nextIsMark "#") then
      let start := (← cursor).here
      mark "#"
      let stop := ((← tokens).head?.map Tree.span).getD start
      let (path, pathSpan, content) ← group .bracket (tagContent g)
      return ⟨path, pathSpan, content, start.join stop⟩ :: (← tagsFor g fuel)
    else return []

/-- The tags in front of something. -/
def tags (g : Rules) : Reader (List Tag) := do
  tagsFor g ((← tokens).length + 1)

/-- The tags in front of something, which are of no interest. -/
def skipTags (g : Rules) : Reader Unit := do
  let _ ← tags g

/-- The tags at the beginning of a group. -/
def innerTags (g : Rules) : Reader Unit :=
  iterate do
    let ts ← tokens
    if nextIsMark "#" ts && nextIsMark "!" (ts.drop 1) then
      mark "#"
      mark "!"
      let _ ← group .bracket (tagContent g)
      return true
    else return false

/-- A block that has no tags of its own. -/
def block (g : Rules) : Reader Unit := group .brace g.statements

/-- A block with tags of its own. -/
def body (g : Rules) : Reader Unit :=
  group .brace do
    innerTags g
    g.statements

/-- A constant block. -/
def constantBlock (g : Rules) : Reader Unit := do
  word "const"
  body g

end Dimensional.Derive.Grammar
