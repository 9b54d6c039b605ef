import Dimensional.Derive.Grammar.Level

/-!
# Items that declare a type

A structure, an enumeration or a union, with its tags, visibility, parameters, conditions and
fields. Of all this a marker needs the tags, the name, and whether there are parameters; the rest
is read to see that it is in order.
-/

namespace Dimensional.Derive

open Source

/-- What a marker needs to know of an item. -/
structure Item where
  tags : List Tag
  name : Ident
  /-- The stretch of the type parameters, if there are any. -/
  parameters : Option Span

namespace Grammar

/-- An item that declares a type. -/
def typeItem (g : Rules) : Reader Item := do
  let tags ← tags g
  let _ ← visibility
  if ← word? "struct" then
    let (name, parameters) ← head g
    structureBody g
    return { tags, name, parameters }
  else if ← word? "enum" then
    let (name, parameters) ← head g
    enumerationBody g
    return { tags, name, parameters }
  else if ← word? "union" then
    let (name, parameters) ← head g
    unionBody g
    return { tags, name, parameters }
  else failAmong [Wish.word "struct", Wish.word "enum", Wish.word "union"]
where
  /-- The name of a type and its parameters. -/
  head (g : Rules) : Reader (Ident × Option Span) := do
    let (i, _) ← ident
    return (i, ← parameters g)

end Grammar

namespace Item

/-- An item that declares a type, its parts as deep as the tokens go. -/
def read : Reader Item := do
  Grammar.typeItem (Grammar.Rules.enough (← tokens))

/-- The item that these tokens are. -/
def ofTrees (ts : List Tree) : Except Failure Item := readAll read ts .whole

end Item

end Dimensional.Derive
