import Dimensional.Derive.Grammar.Expression
import Dimensional.Derive.Grammar.Statement
import Dimensional.Proofs.Derive.Levels.Types

/-!
# Levels of the grammar: patterns, expressions and statements

The readers of patterns, expressions and statements are alike on agreeing rules.  Operands and operations take a token
before they call each other, so that only an operand on its own, an expression and a statement need room for more
than one level.

* the instances — the readers of patterns, operands, expressions and statements on agreeing rules.
-/

namespace Dimensional.Derive.Grammar

open Source

-- what follows a choice is looked at once for each of its branches
set_option synthInstance.maxSize 10000

variable {n k : Nat} {g g' : Rules} [rules : AgreeingRules n g g']

/-! ### Patterns -/

instance (old : Bool) : Takes (rangeMark old) := by
  unfold rangeMark
  infer_instance

instance : Alike n k (patternEnd g) (patternEnd g') := by
  unfold patternEnd
  infer_instance

instance : Alike n k (upperRange g) (upperRange g') := by
  unfold upperRange
  infer_instance

instance : Alike n k (lowerOpenRange g) (lowerOpenRange g') := by
  unfold lowerOpenRange
  infer_instance

instance : Alike n (k + 1) (patterns g) (patterns g') := by
  unfold patterns
  infer_instance

instance : Alike n (k + 1) (anyPatterns g) (anyPatterns g') := by
  unfold anyPatterns
  infer_instance

instance : Alike n k (fieldPattern g) (fieldPattern g') := by
  unfold fieldPattern
  infer_instance

instance : Alike n k (structurePattern g) (structurePattern g') := by
  unfold structurePattern
  infer_instance

instance : Alike n k (pathPattern g) (pathPattern g') := by
  unfold pathPattern
  infer_instance

instance : Alike n k (namePattern g) (namePattern g') := by
  unfold namePattern
  infer_instance

instance : Alike n k (slicePattern g) (slicePattern g') := by
  unfold slicePattern
  infer_instance

instance : Alike n k (pattern g) (pattern g') := by
  unfold pattern
  infer_instance

/-! ### Operands -/

instance (structures : Bool) (p : Precedence) (fuel : Nat) (form : Form) :
    Alike n (k + 1) (tighterFor g structures p fuel form) (tighterFor g' structures p fuel form) := by
  induction fuel generalizing k form with
  | zero => exact .refl _
  | succ fuel ih =>
    unfold tighterFor
    infer_instance

instance (structures : Bool) (p : Precedence) :
    Alike n (k + 2) (rightOperand g structures p) (rightOperand g' structures p) := by
  unfold rightOperand
  infer_instance

instance (structures : Bool) : Alike n k (rangeFrom g structures) (rangeFrom g' structures) := by
  unfold rangeFrom
  infer_instance

instance : Alike n k (callArguments g) (callArguments g') := by
  unfold callArguments
  infer_instance

instance : Alike n k (memberAccess g) (memberAccess g') := by
  unfold memberAccess
  infer_instance

instance (fuel : Nat) (form : Form) : Alike n k (trailersFor g fuel form) (trailersFor g' fuel form) := by
  induction fuel generalizing k form with
  | zero => exact .refl _
  | succ fuel ih =>
    unfold trailersFor
    infer_instance

instance (form : Form) : Alike n k (trailers g form) (trailers g' form) := by
  unfold trailers
  infer_instance

instance (fuel : Nat) : Alike n k (branchesFor g fuel) (branchesFor g' fuel) := by
  induction fuel generalizing k with
  | zero => exact .refl _
  | succ fuel ih =>
    unfold branchesFor
    infer_instance

instance : Alike n k (branches g) (branches g') := by
  unfold branches
  infer_instance

instance : Alike n k (whileLoop g) (whileLoop g') := by
  unfold whileLoop
  infer_instance

instance : Alike n k (forLoop g) (forLoop g') := by
  unfold forLoop
  infer_instance

instance : Alike n k (endlessLoop g) (endlessLoop g') := by
  unfold endlessLoop
  infer_instance

instance : Alike n (k + 3) (arm g) (arm g') := by
  unfold arm
  infer_instance

instance : Alike n k (choice g) (choice g') := by
  unfold choice
  infer_instance

/-! ### Expressions -/

instance : Alike n (k + 2) (expression? g) (expression? g') := by
  unfold expression?
  infer_instance

instance : Alike n (k + 2) (closureArgument g) (closureArgument g') := by
  unfold closureArgument
  infer_instance

instance (structures : Bool) : Alike n (k + 1) (closure g structures) (closure g' structures) := by
  unfold closure
  infer_instance

instance : Alike n k (fieldValue g) (fieldValue g') := by
  unfold fieldValue
  infer_instance

instance : Alike n k (structureValue g) (structureValue g') := by
  unfold structureValue
  infer_instance

instance (structures : Bool) : Alike n k (namedValue g structures) (namedValue g' structures) := by
  unfold namedValue
  refine .after inferInstance fun (qualified, p) => .after inferInstance fun d => ?_
  cases d <;> infer_instance

instance : Alike n k (arrayValue g) (arrayValue g') := by
  unfold arrayValue
  infer_instance

instance (structures : Bool) : Alike n k (breakJump g structures) (breakJump g' structures) := by
  unfold breakJump
  infer_instance

instance (structures : Bool) : Alike n k (bindingCondition g structures) (bindingCondition g' structures) := by
  unfold bindingCondition
  infer_instance

instance : Alike n k (labeled g) (labeled g') := by
  unfold labeled
  infer_instance

variable (n k g g') in
/-- What ends in a block is chosen by what is next. -/
theorem alike_blockLike (ts : List Tree) :
    blockLike? g ts = none ∧ blockLike? g' ts = none ∨
      ∃ r r', blockLike? g ts = some r ∧ blockLike? g' ts = some r' ∧ Alike n k r r' := by
  unfold blockLike?
  repeat' split
  all_goals first
    | exact .inl ⟨rfl, rfl⟩
    | exact .inr ⟨_, _, rfl, rfl, inferInstance⟩

instance (structures : Bool) : Alike n (k + 1) (atom g structures) (atom g' structures) := by
  unfold atom
  refine .ofTokens fun ts => ?_
  rcases alike_blockLike n (k + 1) g g' ts with ⟨none, none'⟩ | ⟨r, r', some, some', alike⟩
  · simp only [none, none']
    infer_instance
  · simp only [some, some']
    infer_instance

instance (structures : Bool) : Alike n k (referenceValue g structures) (referenceValue g' structures) := by
  unfold referenceValue
  infer_instance

instance (structures : Bool) : Alike n (k + 1) (unary g structures) (unary g' structures) := by
  unfold unary
  refine .after inferInstance fun tags => .ofTokens fun ts => ?_
  split
  · infer_instance
  · split <;> infer_instance

instance : Alike n k (cast g) (cast g') := by
  unfold cast
  infer_instance

instance (structures : Bool) (base : Precedence) (fuel : Nat) (form : Form) :
    Alike n k (operationFor g structures base fuel form) (operationFor g' structures base fuel form) := by
  induction fuel generalizing k form with
  | zero => exact .refl _
  | succ fuel ih =>
    cases form with
    | range limits => exact .refl _
    | _ =>
      refine .ofTokens fun ts => ?_
      split <;> infer_instance

instance (structures : Bool) (form : Form) (base : Precedence) :
    Alike n k (operation g structures form base) (operation g' structures form base) := by
  unfold operation
  infer_instance

instance : Alike n (k + 2) (bounded g) (bounded g') := by
  unfold bounded
  infer_instance

/-! ### Statements -/

instance : Alike n k (declaration g) (declaration g') := by
  unfold declaration
  infer_instance

instance : Alike n (k + 3) (statement g) (statement g') := by
  unfold statement
  infer_instance

instance : Alike n (k + 3) (statements g) (statements g') := by
  unfold statements
  infer_instance

end Dimensional.Derive.Grammar
