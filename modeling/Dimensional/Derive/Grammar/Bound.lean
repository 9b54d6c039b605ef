import Dimensional.Derive.Grammar.Path

/-!
# Bounds, arguments and parameters

What stands between angles, and what is said of types and lifetimes behind a colon. Between angles the
lifetimes are written first, whatever their place was.
-/

namespace Dimensional.Derive.Grammar

open Source

/-! ### Between angles -/

/-- What has been read between two commas. -/
structure Entry where
  isLifetime : Bool
  trees : List Tree
  comma : Bool

namespace Entry

/-- What is written of an entry. -/
def text (e : Entry) : List Tree := e.trees ++ if e.comma then markTrees [','] else []

end Entry

/-- The entries in the order in which they are written; a lifetime that is no longer the last one gets
the comma that it lacks. -/
def lifetimesFirst (entries : List Entry) : List Entry :=
  let (lifetimes, others) := entries.partition Entry.isLifetime
  if others.isEmpty then lifetimes
  else lifetimes.map (fun e => { e with comma := true }) ++ others

/-- Entries up to the closing angle, `fuel` at most. `item` answers whether it has read a lifetime. -/
def entriesFor (item : Reader Bool) (comma : Reader Unit) : Nat → Reader (List Entry)
  | 0 => return []
  | fuel + 1 => do
    if ← next (nextIsMark ">") then return []
    let (isLifetime, trees) ← capture item
    if ← next (nextIsMark ">") then return [⟨isLifetime, trees, false⟩]
    let _ ← capture comma
    return ⟨isLifetime, trees, true⟩ :: (← entriesFor item comma fuel)

/-- Entries between angles, and where they are. -/
def inAngles (item : Reader Bool) (comma : Reader Unit) : Reader (List Entry × Span) := do
  let start := (← cursor).here
  mark "<"
  let entries ← entriesFor item comma ((← tokens).length + 1)
  write ((lifetimesFirst entries).flatMap Entry.text)
  let stop := (← cursor).here
  mark ">"
  return (entries, start.join stop)

/-! ### Bounds -/

/-- The names that a type captures, and where they are said to be captured. -/
def capturedNames : Reader Span := do
  let ((), span) ← spanned do
    word "use"
    let item : Reader Bool := do
      if ← lifetime? then return true
      else if ← next fun ts => nextIsIdent ts || nextIsWord "Self" ts then
        skip
        return false
      else failAmong [Wish.lifetime, Wish.ident, Wish.mark ">"]
    let comma : Reader Unit := do
      if !(← mark? ",") then failAmong [Wish.mark ",", Wish.mark ">"]
    let _ ← inAngles item comma
  return span

/-- The type behind an arrow, if there is an arrow. -/
def returnType (g : Rules) (plus : Bool) : Reader Unit := do
  if ← mark? "->" then
    let _ ← g.type plus

/-- The arguments of a trait for functions, and its result. -/
def functionArguments (g : Rules) : Reader Unit := do
  group .parenthesis (commaList g.anyType)
  returnType g false

/-- Arguments that hold nothing. -/
def isVoid (arguments : Text) : Bool := arguments.all fun c => " :<>".toList.contains c

/-- A trait as a bound, which may be relaxed by a question mark, or may be constant; is it not
constant? -/
def traitBound (g : Rules) (constant : Bool) : Reader Bool := do
  let early ← next (nextIsWord "for")
  if early then g.binder
  let start := ((← tokens).head?.map Tree.span).getD .whole
  let conditional ← next (nextIsGroup .bracket)
  let unconditional ← next (nextIsWord "const")
  if conditional then group .bracket (word "const")
  else if unconditional then word "const"
  if (conditional || unconditional) && !constant then failAt start (.constantBound conditional)
  let relaxation := (← cursor).here
  let relaxed ← mark? "?"
  let late ← next fun ts => !early && relaxed && nextIsWord "for" ts
  if late then g.binder
  let p ← path g false
  if isVoid p.last.arguments then
    let called ← next fun ts =>
      nextIsGroup .parenthesis ts || (nextIsMark "::" ts && nextIsGroup .parenthesis (ts.drop 2))
    if called then
      let void := (p.last.arguments.filter (· != ' ')).length
      note fun c => { c with written := c.written.take (c.written.length - void) }
      let _ ← capture (mark? "::")
      functionArguments g
  if (early || late) && relaxed then failAt relaxation .relaxedBinder
  return !(conditional || unconditional)

/-- One bound: where it is, unless it is a trait. -/
def bound (g : Rules) (captures constant : Bool) : Reader (Option Span) := do
  let before ← cursor
  if nextIsLifetime before.tokens then
    let ((), span) ← spanned lifetime
    return some span
  else if nextIsWord "use" before.tokens then
    let span ← capturedNames
    if captures then return some span else failAt span .capture
  else
    let plain ←
      if nextIsGroup .parenthesis before.tokens then group .parenthesis (traitBound g constant)
      else traitBound g constant
    if !plain then copySince before
    return none

/-- A bound of a parameter or in a condition. -/
def anyBound (g : Rules) : Reader Unit := do
  let _ ← bound g false true

/-- Another bound may follow a plus sign. -/
def nextIsBound (constant : Bool) (ts : List Tree) : Bool :=
  nextIsName ts || nextIsMarkIn ["::", "?"] ts || nextIsLifetime ts || nextIsGroup .parenthesis ts ||
    (constant && nextIsGroup .bracket ts)

/-- Bounds between plus signs, `fuel` at most. -/
def boundsFor (g : Rules) (plus captures constant : Bool) : Nat → Reader (List (Option Span))
  | 0 => return []
  | fuel + 1 => do
    let first ← bound g captures constant
    if ← next fun ts => plus && nextIsMark "+" ts then
      mark "+"
      if ← next (nextIsBound constant) then
        return first :: (← boundsFor g plus captures constant fuel)
    return [first]

/-- Bounds between plus signs, one trait at least; `start` is where the type begins that has them. -/
def someBounds (g : Rules) (start : Span) (plus captures constant : Bool) (otherwise : Cause) :
    Reader Unit := do
  let bounds ← boundsFor g plus captures constant ((← tokens).length + 1)
  match (bounds.mapM id).bind List.getLast? with
  | some last => failAt (start.join last) otherwise
  | none => return

/-- The bounds of an object type. -/
def objectBounds (g : Rules) (start : Span) (plus : Bool) : Reader Unit :=
  someBounds g start plus false false .noTraitInObject

/-- Further bounds of an object type, each behind a plus sign. -/
def furtherBounds (g : Rules) : Reader Unit :=
  iterate do
    if ← mark? "+" then
      let _ ← bound g false false
      return true
    else return false

/-! ### Arguments -/

/-- A constant as an argument: a literal, a name, or a block. -/
def constant (g : Rules) : Reader Unit := do
  let ts ← tokens
  if nextIsLiteral ts then literal
  else if nextIsIdent ts then skip
  else if nextIsGroup .brace ts then body g
  else failAmong []

/-- A literal or a block is next. -/
def nextIsConstant (ts : List Tree) : Bool := nextIsLiteral ts || nextIsGroup .brace ts

/-- One argument: a lifetime, a constant, a type, or what is said of an associated type. Is it a
lifetime? -/
def argument (g : Rules) : Reader Bool := do
  let ts ← tokens
  if nextIsLifetime ts && !nextIsMark "+" (behind ts) then
    lifetime
    return true
  if nextIsConstant ts then constant g
  else
    match ← g.type true with
    | .path false ⟨false, _, []⟩ =>
      if ← mark? "=" then
        if ← next nextIsConstant then constant g else g.anyType
      else if ← mark? ":" then chainUntil (nextIsMarkIn [",", ">"]) "+" (anyBound g)
    | _ => pure ()
  return false

/-- Arguments in angles. -/
def arguments (g : Rules) : Reader Unit := do
  let _ ← inAngles (argument g) (mark ",")

/-! ### Parameters -/

/-- A lifetime as a parameter. -/
def lifetimeParameter : Reader Unit := do
  lifetime
  afterColon (chainUntil (nextIsMarkIn [",", ">"]) "+" lifetime)

/-- A type as a parameter. -/
def typeParameter (g : Rules) : Reader Unit := do
  let _ ← ident
  afterColon (chainUntil (nextIsMarkIn [",", ">", "="]) "+" (anyBound g))
  if ← mark? "=" then g.anyType

/-- A constant as a parameter. -/
def constantParameter (g : Rules) : Reader Unit := do
  word "const"
  let _ ← ident
  mark ":"
  g.anyType
  if ← mark? "=" then constant g

/-- What a `for` introduces. -/
def binder (g : Rules) : Reader Unit := do
  word "for"
  mark "<"
  listUntil (nextIsMark ">") "," do
    skipTags g
    let ts ← tokens
    if nextIsIdent ts then typeParameter g
    else if nextIsLifetime ts then lifetimeParameter
    else if nextIsWord "const" ts then constantParameter g
    else failAmong [Wish.ident, Wish.lifetime, Wish.word "const"]
  mark ">"

/-- One parameter: a lifetime, a type or a constant. Is it a lifetime? -/
def parameter (g : Rules) : Reader Bool := do
  skipTags g
  let ts ← tokens
  if nextIsLifetime ts then
    lifetimeParameter
    return true
  if nextIsIdent ts then typeParameter g
  else if nextIsWord "const" ts then constantParameter g
  else if nextIsWord "_" ts then skip
  else failAmong [Wish.lifetime, Wish.ident, Wish.word "const"]
  return false

/-- Parameters in angles, if there are any, and where they are. Angles with nothing between them are
not written. -/
def parameters (g : Rules) : Reader (Option Span) := do
  if ← next (nextIsMark "<") then
    let ((entries, span), read) ← capture (inAngles (parameter g) (mark ","))
    if entries.isEmpty then return none
    write read
    return some span
  else return none

/-- Angles are next that open parameters, and no path. -/
def nextIsParameters (ts : List Tree) : Bool :=
  nextIsMark "<" ts &&
    let second := behind ts
    let third := behind second
    nextIsMarkIn [">", "#"] second || nextIsWord "const" second ||
      ((nextIsLifetime second || nextIsIdent second) &&
        (nextIsMarkIn [">", ",", "="] third || (nextIsMark ":" third && !nextIsMark "::" third)))

/-! ### Conditions -/

/-- Bounds in a condition are over here. -/
def endOfCondition (ts : List Tree) : Bool :=
  ts.isEmpty || nextIsGroup .brace ts || nextIsMarkIn [",", ";", "="] ts ||
    (nextIsMark ":" ts && !nextIsMark "::" ts)

/-- One condition on lifetimes or types. -/
def condition (g : Rules) : Reader Unit := do
  let ts ← tokens
  if nextIsLifetime ts && nextIsMark ":" (behind ts) then
    lifetime
    mark ":"
    chainUntil (fun ts => endOfCondition ts || nextIsMark ":" ts) "+" lifetime
  else
    if nextIsWord "for" ts then g.binder
    g.anyType
    mark ":"
    chainUntil endOfCondition "+" (anyBound g)

/-- Conditions behind the keyword for them, if it is there; is it? The keyword with nothing behind it is
not written. -/
def conditions (g : Rules) : Reader Bool := do
  if ← next (nextIsWord "where") then
    let (_, keyword) ← capture (word "where")
    if ← next nextIsParameters then fail .conditionParameters
    let (_, read) ← capture (chainUntil endOfCondition "," (condition g))
    if !read.isEmpty then write (keyword ++ read)
    return true
  else return false

end Dimensional.Derive.Grammar
