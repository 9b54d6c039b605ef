import Dimensional.Derive.Path

/-!
# Tags of an item

What is written as `#[path …]` in front of an item or a part of it: a path alone, with arguments in
any delimiters, or with a value. The arguments are kept unread, for the one who knows the path.
-/

namespace Dimensional.Derive

open Source

/-- What follows the path of a tag. -/
inductive Content where
  | bare
  /-- Tokens between delimiters that close there. -/
  | arguments (tokens : List Tree) (closing : Span)
  /-- A value behind an equals sign that is there. -/
  | value (sign : Span)

/-- A tag. -/
structure Tag where
  path : Path
  /-- From the first segment of the path to the last. -/
  pathSpan : Span
  content : Content
  /-- From the `#` to the closing bracket. -/
  span : Span

namespace Tag

/-- The tag has this name. -/
def isNamed (a : Tag) (name : String) : Bool := a.path.isIdent name

end Tag

end Dimensional.Derive
