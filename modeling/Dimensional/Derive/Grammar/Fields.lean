import Dimensional.Derive.Grammar.Bound

/-!
# Fields and variants

Fields with names stand in braces, fields without in parentheses. A field without a name in braces may
have a type that is declared there and then.
-/

namespace Dimensional.Derive.Grammar

open Source

/-- A field without a name. -/
def tupleField (g : Rules) : Reader Unit := do
  skipTags g
  let _ ← visibility
  g.anyType

/-- A field with a name. -/
def namedField (g : Rules) : Reader Unit := do
  skipTags g
  let _ ← visibility
  let unnamed ← word? "_"
  if !unnamed then
    let _ ← ident
  mark ":"
  let declared ← next fun ts => unnamed && (nextIsWord "struct" ts ||
    (nextIsWord "union" ts && nextIsGroup .brace (ts.drop 1)))
  if declared then
    copied do
      skip
      g.fields
  else g.anyType

/-- Fields without names, in parentheses. -/
def tupleFields (g : Rules) : Reader Unit := group .parenthesis (commaList (tupleField g))

/-- Fields with names, in braces. -/
def fields (g : Rules) : Reader Unit := group .brace (commaList (namedField g))

/-- A variant of an enumeration. Its visibility is not written. -/
def variant (g : Rules) : Reader Unit := do
  skipTags g
  let _ ← capture visibility
  let _ ← ident
  let ts ← tokens
  if nextIsGroup .brace ts then fields g
  else if nextIsGroup .parenthesis ts then tupleFields g
  if ← mark? "=" then g.anyExpression

/-- What may follow the name of a structure; `early` conditions leave no choice but braces. -/
def structureWishes (early : Bool) : List Wish :=
  (if early then [] else [.word "where", .group .parenthesis]) ++ [.group .brace, .mark ";"]

/-- The body of a structure: fields in braces, fields in parentheses, or nothing. Conditions stand
before braces and behind parentheses. -/
def structureBody (g : Rules) : Reader Unit := do
  let early ← conditions g
  let ts ← tokens
  if !early && nextIsGroup .parenthesis ts then
    tupleFields g
    let late ← conditions g
    if !(← mark? ";") then
      failAmong ((if late then [] else [.word "where"]) ++ [Wish.mark ";"])
  else if nextIsGroup .brace ts then fields g
  else if !(← mark? ";") then failAmong (structureWishes early)

/-- The body of an enumeration. -/
def enumerationBody (g : Rules) : Reader Unit := do
  let _ ← conditions g
  group .brace (commaList (variant g))

/-- The body of a union. -/
def unionBody (g : Rules) : Reader Unit := do
  let _ ← conditions g
  fields g

end Dimensional.Derive.Grammar
