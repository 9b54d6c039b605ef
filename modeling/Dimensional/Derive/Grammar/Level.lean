import Dimensional.Derive.Grammar.Declaration
import Dimensional.Derive.Grammar.Expression
import Dimensional.Derive.Grammar.Statement

/-!
# The grammar, as deep as it is needed

One level of the grammar reads what is nested with the level below. Going down a level takes a token
sooner or later, so that the number of tokens bounds the levels that are needed.
-/

namespace Dimensional.Derive.Grammar

open Source

namespace Rules

/-- The level above. -/
def above (g : Rules) : Rules where
  type := Grammar.type g
  arguments := Grammar.arguments g
  binder := Grammar.binder g
  pattern := Grammar.pattern g
  unary := Grammar.unary g
  operation := Grammar.operation g
  bounded := Grammar.bounded g
  statements := Grammar.statements g
  fields := Grammar.fields g
  item := Grammar.item g

/-- The rules that go down as many levels. -/
def level : Nat → Rules
  | 0 => bottom
  | n + 1 => (level n).above

/-- Rules that go deep enough for these tokens: four levels down at most before a token is taken. -/
def enough (ts : List Tree) : Rules := level (4 * Tree.sizes ts + 16)

end Rules

end Dimensional.Derive.Grammar
