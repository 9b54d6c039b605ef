import Dimensional.Derive.Cursor

/-!
# Operators between two operands

How tightly an operator binds, and the operators by their spelling. An operator is found by its first
characters, so that the longer spelling is looked for first.
-/

namespace Dimensional.Derive.Grammar

open Source

/-- How tightly an expression holds its operands, the loosest first. -/
inductive Precedence where
  | jump
  | assign
  | range
  | or
  | and
  | binding
  | compare
  | bitOr
  | bitXor
  | bitAnd
  | shift
  | sum
  | product
  | cast
  deriving DecidableEq, Repr

namespace Precedence

/-- The place of a precedence in their order. -/
def rank : Precedence → Nat
  | jump => 0
  | assign => 1
  | range => 2
  | or => 3
  | and => 4
  | binding => 5
  | compare => 6
  | bitOr => 7
  | bitXor => 8
  | bitAnd => 9
  | shift => 10
  | sum => 11
  | product => 12
  | cast => 13

instance : LE Precedence := ⟨fun a b => a.rank ≤ b.rank⟩

instance : LT Precedence := ⟨fun a b => a.rank < b.rank⟩

instance (a b : Precedence) : Decidable (a ≤ b) := inferInstanceAs (Decidable (a.rank ≤ b.rank))

instance (a b : Precedence) : Decidable (a < b) := inferInstanceAs (Decidable (a.rank < b.rank))

end Precedence

/-- The operators, the longer spellings first. -/
def operators : List (String × Precedence) :=
  [("+=", .assign), ("-=", .assign), ("*=", .assign), ("/=", .assign), ("%=", .assign),
   ("^=", .assign), ("&=", .assign), ("|=", .assign), ("<<=", .assign), (">>=", .assign),
   ("&&", .and), ("||", .or), ("<<", .shift), (">>", .shift), ("==", .compare), ("<=", .compare),
   ("!=", .compare), (">=", .compare), ("+", .sum), ("-", .sum), ("*", .product), ("/", .product),
   ("%", .product), ("^", .bitXor), ("&", .bitAnd), ("|", .bitOr), ("<", .compare), (">", .compare)]

/-- The operator that is next. -/
def operator? (ts : List Tree) : Option (String × Precedence) :=
  operators.find? fun operator => nextIsMark operator.1 ts

/-- An assignment is next: its sign is not the head of an arrow. -/
def nextIsAssignment (ts : List Tree) : Bool := nextIsMark "=" ts && !nextIsMark "=>" ts

/-- How tightly what is next holds the operand before it. -/
def nextPrecedence (ts : List Tree) : Precedence :=
  match operator? ts with
  | some (_, precedence) => precedence
  | none =>
    if nextIsAssignment ts then .assign
    else if nextIsMark ".." ts then .range
    else if nextIsWord "as" ts then .cast
    else .jump

end Dimensional.Derive.Grammar
