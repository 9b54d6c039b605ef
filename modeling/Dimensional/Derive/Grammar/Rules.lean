import Dimensional.Derive.Grammar.Precedence
import Dimensional.Derive.Path
import Dimensional.Derive.Tag

/-!
# The rules that refer to one another

Types hold expressions, expressions hold items, and items hold types. Each rule of the grammar is
written against a record of these rules, which it calls for what is nested in it. The record that it is
given reaches one level less deep than the rule itself, and the deepest one reads nothing.

A reader of the grammar answers the little that is asked about what it has read.

* `Rules.expression` — an operand with its signs, and the operations on it.
-/

namespace Dimensional.Derive.Grammar

open Source

/-- What is asked about a type. -/
inductive TypeForm where
  /-- A path, possibly under a type in angles. -/
  | path (qualified : Bool) (path : Path)
  /-- A single trait that stands for an object type. -/
  | bound
  | other

/-- What is asked about an expression. -/
inductive Form where
  /-- A range, with the mark between its ends. -/
  | range (limits : Span)
  | comparison
  /-- The call of a macro with its arguments in braces. -/
  | bracedMacro
  /-- One that ends in a block and needs nothing behind it to be a statement. -/
  | block
  | other
  deriving DecidableEq

/-- The rules that are called for what is nested. -/
structure Rules where
  /-- A type; several bounds may be joined by plus signs, or not. -/
  type : Bool → Reader TypeForm
  /-- Arguments in angles. -/
  arguments : Reader Unit
  /-- What a `for` introduces. -/
  binder : Reader Unit
  /-- A pattern without alternatives; the mark of a range that lacks one of its ends is answered. -/
  pattern : Reader (Option Span)
  /-- An operand with its signs; the braces of a structure may follow its name, or not. -/
  unary : Bool → Reader Form
  /-- The operations on an operand that hold it at least that tightly. -/
  operation : Bool → Form → Precedence → Reader Form
  /-- An expression that is over behind its block if it begins with one. -/
  bounded : Reader Form
  /-- Statements to the end. -/
  statements : Reader Unit
  /-- Fields with names, in braces. -/
  fields : Reader Unit
  /-- An item behind its tags, which began there. -/
  item : Cursor → Reader Unit

namespace Rules

/-- No rule at all. -/
def bottom : Rules where
  type _ := fail (.unexpected none)
  arguments := fail (.unexpected none)
  binder := fail (.unexpected none)
  pattern := fail (.unexpected none)
  unary _ := fail (.unexpected none)
  operation _ _ _ := fail (.unexpected none)
  bounded := fail (.unexpected none)
  statements := fail (.unexpected none)
  fields := fail (.unexpected none)
  item _ := fail (.unexpected none)

/-- An expression; the braces of a structure may follow its name, or not. -/
def expression (g : Rules) (structures : Bool) : Reader Form := do
  g.operation structures (← g.unary structures) .jump

/-- A type of which nothing is asked. -/
def anyType (g : Rules) : Reader Unit := do
  let _ ← g.type true

/-- An expression of which nothing is asked. -/
def anyExpression (g : Rules) : Reader Unit := do
  let _ ← g.expression true

end Rules

end Dimensional.Derive.Grammar
