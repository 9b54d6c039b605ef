import Dimensional.Derive.Grammar.Fields
import Dimensional.Derive.Grammar.Type
import Dimensional.Proofs.Derive.Levels.Readers

/-!
# Levels of the grammar: types

Two levels of the grammar agree on little if their rules do.  Some rules call others before they take a token, which
takes room: a type may begin with what a `for` introduces, an operand with a closure that does, an expression with
its operand, and a statement with its expression.

* `AgreeingRules` — the rules of two levels are alike, each with the room that it takes;
* the instances — the readers of tags, paths, bounds, types and fields are alike on agreeing rules.
-/

namespace Dimensional.Derive.Grammar

open Source

/-- The rules do the same where what is left counts no more than `n`. -/
class AgreeingRules (n : Nat) (g g' : Rules) : Prop where
  binder : Alike n 1 g.binder g'.binder
  arguments : Alike n 1 g.arguments g'.arguments
  pattern : Alike n 1 g.pattern g'.pattern
  operation : ∀ structures form base, Alike n 1 (g.operation structures form base) (g'.operation structures form base)
  fields : Alike n 1 g.fields g'.fields
  item : ∀ before, Alike n 1 (g.item before) (g'.item before)
  type : ∀ plus, Alike n 2 (g.type plus) (g'.type plus)
  unary : ∀ structures, Alike n 2 (g.unary structures) (g'.unary structures)
  bounded : Alike n 3 g.bounded g'.bounded
  statements : Alike n 4 g.statements g'.statements

-- what follows a choice is looked at once for each of its branches
set_option synthInstance.maxSize 65536

variable {n k : Nat} {g g' : Rules} [rules : AgreeingRules n g g']

/-! ### Calls -/

instance : Alike n (k + 1) g.binder g'.binder := rules.binder.mono (Nat.le_add_left 1 k)
instance : Alike n (k + 1) g.arguments g'.arguments := rules.arguments.mono (Nat.le_add_left 1 k)
instance : Alike n (k + 1) g.pattern g'.pattern := rules.pattern.mono (Nat.le_add_left 1 k)
instance (structures : Bool) (form : Form) (base : Precedence) :
    Alike n (k + 1) (g.operation structures form base) (g'.operation structures form base) :=
  (rules.operation structures form base).mono (Nat.le_add_left 1 k)
instance : Alike n (k + 1) g.fields g'.fields := rules.fields.mono (Nat.le_add_left 1 k)
instance (before : Cursor) : Alike n (k + 1) (g.item before) (g'.item before) :=
  (rules.item before).mono (Nat.le_add_left 1 k)
instance (plus : Bool) : Alike n (k + 2) (g.type plus) (g'.type plus) := (rules.type plus).mono (Nat.le_add_left 2 k)
instance (structures : Bool) : Alike n (k + 2) (g.unary structures) (g'.unary structures) :=
  (rules.unary structures).mono (Nat.le_add_left 2 k)
instance : Alike n (k + 3) g.bounded g'.bounded := rules.bounded.mono (Nat.le_add_left 3 k)
instance : Alike n (k + 4) g.statements g'.statements := rules.statements.mono (Nat.le_add_left 4 k)

instance (structures : Bool) : Alike n (k + 2) (g.expression structures) (g'.expression structures) := by
  unfold Rules.expression
  infer_instance

instance : Alike n (k + 2) g.anyType g'.anyType := by
  unfold Rules.anyType
  infer_instance

instance : Alike n (k + 2) g.anyExpression g'.anyExpression := by
  unfold Rules.anyExpression
  infer_instance

/-! ### Tags and blocks -/

instance : Alike n (k + 2) (tagValue g) (tagValue g') := by
  unfold tagValue
  infer_instance

instance (path : Path) (span : Span) : Alike n (k + 2) (contentBehind g path span) (contentBehind g' path span) :=
  .ofTokens fun ts => by split <;> infer_instance

instance : Alike n (k + 2) (tagContent g) (tagContent g') := by
  unfold tagContent
  infer_instance

instance (fuel : Nat) : Alike n k (tagsFor g fuel) (tagsFor g' fuel) := by
  induction fuel generalizing k with
  | zero => exact .refl _
  | succ fuel ih =>
    unfold tagsFor
    infer_instance

instance : Alike n k (tags g) (tags g') := by
  unfold tags
  infer_instance

instance : Alike n k (skipTags g) (skipTags g') := by
  unfold skipTags
  infer_instance

instance : Alike n k (innerTags g) (innerTags g') := by
  unfold innerTags
  infer_instance

instance : Alike n k (block g) (block g') := by
  unfold block
  infer_instance

instance : Alike n k (body g) (body g') := by
  unfold body
  infer_instance

instance : Alike n k (constantBlock g) (constantBlock g') := by
  unfold constantBlock
  infer_instance

/-! ### Paths -/

instance (value : Bool) : Alike n k (segment g value) (segment g' value) := by
  unfold segment
  infer_instance

instance (value : Bool) (more : List Tree → Bool) (fuel : Nat) :
    Alike n k (segmentsFor g value more fuel) (segmentsFor g' value more fuel) := by
  induction fuel generalizing k with
  | zero => exact .refl _
  | succ fuel ih =>
    unfold segmentsFor
    infer_instance

instance (value : Bool) : Alike n k (path g value) (path g' value) := by
  unfold path
  infer_instance

instance (value : Bool) : Alike n k (qualifiedPath g value) (qualifiedPath g' value) := by
  unfold qualifiedPath
  infer_instance

/-! ### Between angles -/

section Angles

variable {item item' : Reader Bool} [Alike n 4 item item'] (comma : Reader Unit)

instance (fuel : Nat) : Alike n 4 (entriesFor item comma fuel) (entriesFor item' comma fuel) := by
  induction fuel with
  | zero => exact .refl _
  | succ fuel ih =>
    unfold entriesFor
    infer_instance

instance : Alike n k (inAngles item comma) (inAngles item' comma) := by
  unfold inAngles
  infer_instance

end Angles

/-! ### Bounds -/

instance (plus : Bool) : Alike n k (returnType g plus) (returnType g' plus) := by
  unfold returnType
  infer_instance

instance : Alike n k (functionArguments g) (functionArguments g') := by
  unfold functionArguments
  infer_instance

instance (constant : Bool) : Alike n (k + 1) (traitBound g constant) (traitBound g' constant) := by
  unfold traitBound
  infer_instance

instance (captures constant : Bool) : Alike n (k + 1) (bound g captures constant) (bound g' captures constant) := by
  unfold bound
  infer_instance

instance : Alike n (k + 1) (anyBound g) (anyBound g') := by
  unfold anyBound
  infer_instance

instance (plus captures constant : Bool) (fuel : Nat) :
    Alike n (k + 1) (boundsFor g plus captures constant fuel) (boundsFor g' plus captures constant fuel) := by
  induction fuel generalizing k with
  | zero => exact .refl _
  | succ fuel ih =>
    unfold boundsFor
    infer_instance

instance (start : Span) (plus captures constant : Bool) (otherwise : Cause) :
    Alike n (k + 1) (someBounds g start plus captures constant otherwise)
      (someBounds g' start plus captures constant otherwise) := by
  unfold someBounds
  infer_instance

instance (start : Span) (plus : Bool) : Alike n (k + 1) (objectBounds g start plus) (objectBounds g' start plus) := by
  unfold objectBounds
  infer_instance

instance : Alike n (k + 1) (furtherBounds g) (furtherBounds g') := by
  unfold furtherBounds
  infer_instance

/-! ### Arguments -/

instance : Alike n k (constant g) (constant g') := by
  unfold constant
  infer_instance

instance : Alike n (k + 2) (argument g) (argument g') := by
  unfold argument
  refine .ofTokens fun ts => ?_
  dsimp only
  split
  · infer_instance
  split
  · infer_instance
  refine .after inferInstance fun form => ?_
  split <;> infer_instance

instance : Alike n k (arguments g) (arguments g') := by
  unfold arguments
  infer_instance

/-! ### Parameters -/

instance : Alike n k (typeParameter g) (typeParameter g') := by
  unfold typeParameter
  infer_instance

instance : Alike n k (constantParameter g) (constantParameter g') := by
  unfold constantParameter
  infer_instance

instance : Alike n k (binder g) (binder g') := by
  unfold binder
  infer_instance

instance : Alike n k (parameter g) (parameter g') := by
  unfold parameter
  infer_instance

instance : Alike n k (parameters g) (parameters g') := by
  unfold parameters
  infer_instance

/-! ### Conditions -/

instance : Alike n (k + 2) (condition g) (condition g') := by
  unfold condition
  infer_instance

instance : Alike n k (conditions g) (conditions g') := by
  unfold conditions
  infer_instance

/-! ### Types -/

instance : Alike n (k + 2) (enclosed g) (enclosed g') := by
  unfold enclosed
  infer_instance

instance (plus : Bool) (e : Enclosed) : Alike n (k + 1) (afterEnclosed g plus e) (afterEnclosed g' plus e) := by
  cases e <;>
    unfold afterEnclosed <;>
    infer_instance

instance (first : Bool) : Alike n (k + 2) (typedArgument g first) (typedArgument g' first) := by
  unfold typedArgument
  infer_instance

instance (fuel : Nat) (first : Bool) :
    Alike n (k + 2) (typedArgumentsFor g fuel first) (typedArgumentsFor g' fuel first) := by
  induction fuel generalizing k first with
  | zero => exact .refl _
  | succ fuel ih =>
    unfold typedArgumentsFor
    infer_instance

instance : Alike n k (functionType g) (functionType g') := by
  unfold functionType
  infer_instance

instance (plus bound : Bool) : Alike n k (pathType g plus bound) (pathType g' plus bound) := by
  unfold pathType
  infer_instance

instance : Alike n k (pointerType g) (pointerType g') := by
  unfold pointerType
  infer_instance

instance : Alike n k (referenceType g) (referenceType g') := by
  unfold referenceType
  infer_instance

instance : Alike n k (sliceType g) (sliceType g') := by
  unfold sliceType
  infer_instance

instance (plus : Bool) : Alike n k (objectType g plus) (objectType g' plus) := by
  unfold objectType
  infer_instance

instance (plus : Bool) : Alike n k (anonymousType g plus) (anonymousType g' plus) := by
  unfold anonymousType
  infer_instance

instance (plus : Bool) : Alike n (k + 1) (type g plus) (type g' plus) := by
  unfold type
  infer_instance

/-! ### Fields -/

instance : Alike n (k + 2) (tupleField g) (tupleField g') := by
  unfold tupleField
  infer_instance

instance : Alike n k (namedField g) (namedField g') := by
  unfold namedField
  infer_instance

instance : Alike n k (tupleFields g) (tupleFields g') := by
  unfold tupleFields
  infer_instance

instance : Alike n k (fields g) (fields g') := by
  unfold fields
  infer_instance

instance : Alike n k (variant g) (variant g') := by
  unfold variant
  infer_instance

instance : Alike n k (structureBody g) (structureBody g') := by
  unfold structureBody
  infer_instance

instance : Alike n k (enumerationBody g) (enumerationBody g') := by
  unfold enumerationBody
  infer_instance

instance : Alike n k (unionBody g) (unionBody g') := by
  unfold unionBody
  infer_instance

end Dimensional.Derive.Grammar
