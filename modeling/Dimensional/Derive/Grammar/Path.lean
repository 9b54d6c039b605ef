import Dimensional.Derive.Grammar.Tags

/-!
# Paths with arguments

The segments of a path may have arguments in angles. In a value a separator must stand before them, lest
the first angle be a comparison. A path may begin with a type in angles instead, of which it is a part.
-/

namespace Dimensional.Derive.Grammar

open Source

/-- A separator is next, and an angle behind it. -/
def nextIsTurbofish (ts : List Tree) : Bool := nextIsMark "::" ts && nextIsMark "<" (ts.drop 2)

/-- An angle is next that opens arguments. -/
def nextIsAngle (ts : List Tree) : Bool :=
  nextIsMark "<" ts && !nextIsMark "<=" ts && !nextIsMark "<<=" ts

/-- One segment, in a value or elsewhere. -/
def segment (g : Rules) (value : Bool) : Reader Segment := do
  if ← next (nextIsWordIn ["super", "self", "crate", "try"]) then return ⟨(← name).1, []⟩
  let (i, _) ← if ← next (nextIsWord "Self") then name else ident
  let ts ← tokens
  if (!value && nextIsAngle ts) || nextIsTurbofish ts then
    let (_, read) ← capture do
      let _ ← mark? "::"
      g.arguments
    write read
    return ⟨i, Tree.render read⟩
  else return ⟨i, []⟩

/-- Further segments as long as a separator is next of which `more` is true, `fuel` at most. -/
def segmentsFor (g : Rules) (value : Bool) (more : List Tree → Bool) : Nat → Reader (List Segment)
  | 0 => return []
  | fuel + 1 => do
    if ← next fun ts => nextIsMark "::" ts && more ts then
      mark "::"
      let s ← segment g value
      return s :: (← segmentsFor g value more fuel)
    else return []

/-- A path. A separator before parentheses is not the path's. -/
def path (g : Rules) (value : Bool) : Reader Path := do
  let fuel := (← tokens).length
  let leading ← mark? "::"
  let first ← segment g value
  return ⟨leading, first, ← segmentsFor g value (fun ts => !nextIsGroup .parenthesis (ts.drop 2)) fuel⟩

/-- A path, possibly behind a type in angles; is there such a type? -/
def qualifiedPath (g : Rules) (value : Bool) : Reader (Bool × Path) := do
  if ← mark? "<" then
    g.anyType
    if ← word? "as" then
      let _ ← path g false
    mark ">"
    let fuel := (← tokens).length
    mark "::"
    let first ← segment g value
    return (true, ⟨true, first, ← segmentsFor g value (fun _ => true) fuel⟩)
  else return (false, ← path g value)

/-- A path may begin here. -/
def nextIsPath (ts : List Tree) : Bool :=
  nextIsIdent ts || nextIsMarkIn ["::", "<"] ts || nextIsWordIn ["self", "Self", "super", "crate"] ts

/-- The sign of a macro's call is next. -/
def nextIsBang (ts : List Tree) : Bool := nextIsMark "!" ts && !nextIsMark "!=" ts

/-- The call of a macro behind its path, if there is one; the delimiters of its arguments are answered. -/
def macroCall? (qualified : Bool) (p : Path) : Reader (Option Delimiter) := do
  if !qualified && p.isPlain && (← next nextIsBang) then
    mark "!"
    return some (← anyGroup)
  else return none

/-- The call of something that is built in, kept as it stands. -/
def builtin : Reader Unit :=
  copied do
    word "builtin"
    mark "#"
    let _ ← ident
    group .parenthesis skipRest

/-- Something that is built in is called. -/
def nextIsBuiltin (ts : List Tree) : Bool := nextIsWord "builtin" ts && nextIsMark "#" (ts.drop 1)

/-- A visibility, if there is one; is there? Parentheses that do not restrict it belong to what
follows. -/
def visibility : Reader Bool := do
  if ← word? "pub" then
    match ← tokens with
    | .group .parenthesis inner _ _ _ :: _ =>
      if inner.length = 1 && nextIsWordIn ["crate", "self", "super"] inner then skip
      else if nextIsWord "in" inner then
        group .parenthesis do
          word "in"
          let _ ← Path.readPlain
    | _ => pure ()
    return true
  else return false

end Dimensional.Derive.Grammar
