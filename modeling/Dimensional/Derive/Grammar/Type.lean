import Dimensional.Derive.Grammar.Bound

/-!
# Types

Where a plus sign may join bounds, a path is the first of several bounds if a plus sign follows it, and
so is a path in parentheses.
-/

namespace Dimensional.Derive.Grammar

open Source

/-- What may begin a type, in the order in which a message lists it. -/
def typeWishes : List Wish :=
  [.word "for", .group .parenthesis, .word "fn", .word "unsafe", .word "extern", .ident, .mark "::",
   .mark "<", .word "dyn", .group .bracket, .mark "*", .mark "&", .mark "!", .word "impl", .word "_",
   .lifetime]

/-- What may follow the lifetimes of a type. -/
def boundTypeWishes : List Wish :=
  [.ident, .word "fn", .word "unsafe", .word "extern", .word "super", .word "self", .word "Self",
   .word "crate"]

/-! ### Parentheses -/

/-- What stands between the parentheses of a type. -/
inductive Enclosed where
  /-- A type that nothing can be added to. -/
  | closed
  /-- A relaxed bound, to which further bounds can be added. -/
  | relaxed
  /-- A single type. -/
  | single (form : TypeForm)

/-- The tokens between the parentheses of a type. -/
def enclosed (g : Rules) : Reader Enclosed := do
  let c ← cursor
  if c.tokens.isEmpty then return .closed
  else if nextIsLifetime c.tokens then
    objectBounds g c.here true
    return .closed
  else if nextIsMark "?" c.tokens then
    let _ ← traitBound g false
    return .relaxed
  else
    let form ← g.type true
    if ← mark? "," then
      commaList g.anyType
      return .closed
    else return .single form

/-- What follows the parentheses of a type. -/
def afterEnclosed (g : Rules) (plus : Bool) : Enclosed → Reader TypeForm
  | .closed => return .other
  | .relaxed => do
    let more ← next (nextIsMark "+")
    furtherBounds g
    return if more then .other else .bound
  | .single form => do
    let joins : Bool := match form with
      | .path qualified _ => !qualified
      | .bound => true
      | .other => false
    if ← next fun ts => plus && joins && nextIsMark "+" ts then furtherBounds g
    return .other

/-! ### Functions -/

/-- The convention by which a function is called, if one is named. -/
def convention : Reader Unit := do
  if ← word? "extern" then
    match ← tokens with
    | .literal text _ :: _ => if Literal.isString text then skip
    | _ => return

/-- Arguments without end are next, with a name or without. -/
def nextIsVariadic (ts : List Tree) : Bool :=
  nextIsMark "..." ts ||
    ((nextIsIdent ts || nextIsWord "_" ts) && nextIsMark ":" (ts.drop 1) &&
      nextIsMark "..." (ts.drop 2))

/-- A changeable receiver is next. -/
def nextIsMutableSelf (ts : List Tree) : Bool :=
  nextIsWord "mut" ts && nextIsWord "self" (ts.drop 1)

/-- The argument of a function type, with a name or without. The first one may be a receiver. -/
def typedArgument (g : Rules) (first : Bool) : Reader Unit := do
  let before ← cursor
  let changed := first && nextIsMutableSelf before.tokens
  if changed then skip
  let ts ← tokens
  let byName := nextIsIdent ts || nextIsWord "_" ts
  let bySelf := !byName && first && nextIsWord "self" ts
  let named := (byName || bySelf) && nextIsMark ":" (ts.drop 1) && !nextIsMark "::" (ts.drop 1)
  if named then
    skip
    mark ":"
  if ← next fun ts => first && !(bySelf && named) && nextIsMutableSelf ts then
    skip
    skip
    copySince before
  else if changed && !named then
    word "self"
    copySince before
  else
    g.anyType
    if changed then copySince before

/-- The arguments of a function type, `fuel` at most. -/
def typedArgumentsFor (g : Rules) : Nat → Bool → Reader Unit
  | 0, _ => return
  | fuel + 1, first => do
    if ← atEnd then return
    skipTags g
    if ← next nextIsVariadic then
      if ← next nextIsName then
        skip
        mark ":"
      mark "..."
      let _ ← mark? ","
    else
      typedArgument g first
      if ← atEnd then return
      mark ","
      typedArgumentsFor g fuel false

/-- The type of a function. -/
def functionType (g : Rules) : Reader Unit := do
  let _ ← word? "unsafe"
  convention
  word "fn"
  let arguments : Reader Unit := do
    typedArgumentsFor g ((← tokens).length + 1) true
  groupThen .parenthesis arguments fun () => returnType g false

/-! ### Any type -/

/-- A type that begins with a path. -/
def pathType (g : Rules) (plus bound : Bool) : Reader TypeForm := do
  let (qualified, p) ← qualifiedPath g false
  if qualified then return .path true p
  if (← macroCall? qualified p).isSome then return .other
  let more ← next fun ts => plus && nextIsMark "+" ts
  if bound || more then
    if more then
      iterate do
        if ← mark? "+" then
          if ← next (nextIsBound false) then
            let _ ← Grammar.bound g false false
            return true
        return false
    return if more then .other else .bound
  else return .path false p

/-- A pointer. -/
def pointerType (g : Rules) : Reader Unit := do
  mark "*"
  if ← next (nextIsWordIn ["const", "mut"]) then skip
  else failAmong [Wish.word "const", Wish.word "mut"]
  let _ ← g.type false

/-- A reference. -/
def referenceType (g : Rules) : Reader Unit := do
  mark "&"
  let _ ← lifetime?
  let _ ← word? "mut"
  let _ ← g.type false

/-- A slice or an array. -/
def sliceType (g : Rules) : Reader Unit :=
  group .bracket do
    g.anyType
    if ← mark? ";" then g.anyExpression

/-- An object type behind its keyword. -/
def objectType (g : Rules) (plus : Bool) : Reader Unit := do
  let before ← cursor
  word "dyn"
  let thin ← mark? "*"
  objectBounds g before.here plus
  if thin then copySince before

/-- An anonymous type. -/
def anonymousType (g : Rules) (plus : Bool) : Reader Unit := do
  let start := (← cursor).here
  word "impl"
  someBounds g start plus true true .noTrait

/-- A type; `plus` allows several bounds. -/
def type (g : Rules) (plus : Bool) : Reader TypeForm := do
  let bound ← next (nextIsWord "for")
  if bound then
    g.binder
    let ts ← tokens
    if !boundTypeWishes.any fun wish => wish.isNext ts then failAmong boundTypeWishes
  let ts ← tokens
  if nextIsGroup .parenthesis ts then groupThen .parenthesis (enclosed g) (afterEnclosed g plus)
  else if nextIsWordIn ["fn", "unsafe", "extern"] ts then
    functionType g
    return .other
  else if nextIsBuiltin ts then
    builtin
    return .other
  else if nextIsPath ts then pathType g plus bound
  else
    if nextIsWord "dyn" ts then objectType g plus
    else if nextIsGroup .bracket ts then sliceType g
    else if nextIsMark "*" ts then pointerType g
    else if nextIsMark "&" ts then referenceType g
    else if nextIsMark "!" ts then mark "!"
    else if nextIsWord "impl" ts then anonymousType g plus
    else if nextIsWord "_" ts then skip
    else if nextIsLifetime ts then objectBounds g (← cursor).here plus
    else failAmong typeWishes
    return .other

end Dimensional.Derive.Grammar
