import Dimensional.Program.Step

/-!
# Bare programs

The same arithmetic without dimensions.  A bare program keeps scalars in named registers, and asks of its
operands only that their kinds agree.  A step on quantities turns into a bare one when the dimensions in it
are left out: what changes nothing but a dimension is a move then, and what is computed in place is
computed and moved back.

* `Step.bare`, `bareProgram` — the bare form of a step and of a program, where all steps compute;
* `Scalars.run` — a run of bare steps;
* `Joint.apply_eq`, `Mixed.apply_eq` — an operation on quantities is that on their scalars, under a dimension.
-/

namespace Dimensional.Program

/-- Where a bare operation finds a scalar. -/
inductive Operand where
  | register (name : String)
  | literal (scalar : AnyScalar)
  deriving DecidableEq

/-- Operations on two scalars of one kind. -/
inductive Arithmetic where
  | add
  | sub
  | mul
  | div
  | min
  | max
  deriving DecidableEq, Repr

/-- One step of a bare program. Where a `target` is named, the resulting scalar is kept there. -/
inductive BareStep where
  | move (x : Operand) (target : Option String)
  | set (a : String) (scalar : AnyScalar)
  | sum (kind : ScalarKind) (items : List String) (target : Option String)
  | sort (kind : ScalarKind) (items : List String)
  | arithmetic (op : Arithmetic) (x y : Operand) (target : Option String)
  | compare (a b : String)
  | neg (a : String) (target : Option String)
  | abs (a : String) (target : Option String)
  | sqrt (a : String) (target : Option String)
  | cast (a : String) (kind : ScalarKind) (target : Option String)
  | hash (a : String)
  deriving DecidableEq

def Arithmetic.apply {k : ScalarKind} : Arithmetic → Scalar k → Scalar k → Except Fault (Scalar k)
  | add, a, b => Scalar.add a b
  | sub, a, b => Scalar.sub a b
  | mul, a, b => Scalar.mul a b
  | div, a, b => Scalar.div a b
  | min, a, b => .ok (Scalar.min a b)
  | max, a, b => .ok (Scalar.max a b)

/-! ### Leaving the dimensions out -/

def Joint.bare : Joint → Arithmetic
  | add => .add
  | sub => .sub
  | min => .min
  | max => .max

def Mixed.bare : Mixed → Arithmetic
  | mul => .mul
  | div => .div

/-- The dimension that is left out. -/
def Mixed.dimension : Mixed → Dimension → Dimension → Dimension
  | mul, d, e => d.product e
  | div, d, e => d.quotient e

/-- The step without its dimensions. Reading and writing have no bare form: their texts may hold exponents. -/
def Step.bare : Step → Option BareStep
  | .make _ s target => some (.move (.literal s) target)
  | .zero _ k target => some (.move (.literal ⟨k, Scalar.zero⟩) target)
  | .sum _ k items _ target => some (.sum k items target)
  | .sort _ k items => some (.sort k items)
  | .value a => some (.move (.register a) none)
  | .copy a target => some (.move (.register a) target)
  | .set a s => some (.set a s)
  | .joint op a b target => some (.arithmetic op.bare (.register a) (.register b) target)
  | .jointUpdate op a b => some (.arithmetic op.byValue.bare (.register a) (.register b) (some a))
  | .mixed op a b target => some (.arithmetic op.bare (.register a) (.register b) target)
  | .compare a b => some (.compare a b)
  | .scaling .mul a s target => some (.arithmetic .mul (.register a) (.literal s) target)
  | .scaling .mulLeft a s target => some (.arithmetic .mul (.literal s) (.register a) target)
  | .scaling .div a s target => some (.arithmetic .div (.register a) (.literal s) target)
  | .scalingUpdate .mul a s => some (.arithmetic .mul (.register a) (.literal s) (some a))
  | .scalingUpdate .div a s => some (.arithmetic .div (.register a) (.literal s) (some a))
  | .under s a target => some (.arithmetic .div (.literal s) (.register a) target)
  | .neg a target => some (.neg a target)
  | .abs a target => some (.abs a target)
  | .sqrt a target => some (.sqrt a target)
  | .squared a target => some (.arithmetic .mul (.register a) (.register a) target)
  | .convert a _ target => some (.move (.register a) target)
  | .cast a k target => some (.cast a k target)
  | .hash a => some (.hash a)
  | .read .. | .readTagged .. | .format .. | .write .. | .writeTagged .. => none

/-- The program without its dimensions, if every step has a bare form. -/
def bareProgram (steps : List Step) : Option (List BareStep) := steps.mapM Step.bare

/-- The answer without the dimension: a bare scalar in place of a quantity. -/
def Answer.bare : Answer → Answer
  | quantity h => .scalar h.scalar
  | answer => answer

/-! ### Runs -/

/-- Scalars by name; the registers that were never stored hold nothing. -/
abbrev Scalars := String → Option AnyScalar

/-- The registers without their dimensions. -/
def Registers.bare (r : Registers) : Scalars := fun name => (r name).map Held.scalar

namespace Scalars

/-- The scalar in a register. -/
def fetch (r : Scalars) (name : String) : Except Refusal AnyScalar :=
  match r name with
  | some s => .ok s
  | none => .error .noRegister

/-- The scalar of an operand. -/
def load (r : Scalars) : Operand → Except Refusal AnyScalar
  | .register name => r.fetch name
  | .literal s => .ok s

/-- Keep a scalar if a register is named for it. -/
def keep (r : Scalars) (target : Option String) (s : AnyScalar) : Scalars :=
  match target with
  | some name => fun other => if other = name then some s else r other
  | none => r

/-- The named scalars, each of which must be of the kind. -/
def gather (r : Scalars) (k : ScalarKind) (items : List String) : Except Refusal (List (Scalar k)) :=
  items.mapM fun name => do (← r.fetch name).as k

/-- Answer a scalar and keep it. -/
def give (r : Scalars) (target : Option String) (s : AnyScalar) : Answer × Scalars :=
  (.scalar s, r.keep target s)

/-- One bare step: the answer and the scalars after it. -/
def step (r : Scalars) : BareStep → Except Refusal (Answer × Scalars)
  | .move x target => do
    let s ← r.load x
    return r.give target s
  | .set a s => do
    let x ← r.fetch a
    let s ← s.as x.kind
    return r.give (some a) ⟨x.kind, s⟩
  | .sum k items target => do
    let xs ← r.gather k items
    let total ← orFault (xs.foldlM Scalar.add Scalar.zero)
    return r.give target ⟨k, total⟩
  | .sort k items => do
    let xs ← r.gather k items
    let _ ← require (k.isTotal = true)
    return (.scalars k (Scalar.sort xs), r)
  | .arithmetic op x y target => do
    let x ← r.load x
    let y ← (← r.load y).as x.kind
    let result ← orFault (op.apply x.value y)
    return r.give target ⟨x.kind, result⟩
  | .compare a b => do
    let x ← r.fetch a
    let y ← (← r.fetch b).as x.kind
    return (.comparison (Scalar.compare x.value y), r)
  | .neg a target => do
    let x ← r.fetch a
    let _ ← require (x.kind.hasNegatives = true)
    let result ← orFault (Scalar.neg x.value)
    return r.give target ⟨x.kind, result⟩
  | .abs a target => do
    match ← r.fetch a with
    | ⟨.float p, x⟩ => return r.give target ⟨.float p, Binary.abs x⟩
    | ⟨.int _, _⟩ => .error .illTyped
  | .sqrt a target => do
    match ← r.fetch a with
    | ⟨.float p, x⟩ => return r.give target ⟨.float p, Binary.sqrt x⟩
    | ⟨.int _, _⟩ => .error .illTyped
  | .cast a k target => do
    let x ← r.fetch a
    let ⟨wider⟩ ← require (x.kind.widens k = true)
    return r.give target ⟨k, Scalar.widen wider x.value⟩
  | .hash a => do
    let x ← r.fetch a
    match Scalar.hashBytes? x.value with
    | some bytes => return (.bytes bytes, r)
    | none => .error .illTyped

/-- What a bare step answers, and the scalars after it: those before it if it is refused. -/
def perform (r : Scalars) (b : BareStep) : Except Refusal Answer × Scalars :=
  match r.step b with
  | .ok (answer, r) => (.ok answer, r)
  | .error refusal => (.error refusal, r)

/-- Run a bare program: the answers of its steps, and the scalars in the end. -/
def run (r : Scalars) : List BareStep → List (Except Refusal Answer) × Scalars
  | [] => ([], r)
  | b :: program =>
    let (answer, r) := r.perform b
    let (answers, r) := run r program
    (answer :: answers, r)

end Scalars

/-! ### Laws -/

section Operations

variable {d e : Dimension} {k : ScalarKind}

theorem Joint.apply_eq (op : Joint) (q r : Quantity d k) :
    op.apply q r = Quantity.mk <$> op.bare.apply q.value r.value := by
  cases op <;> rfl

theorem Mixed.apply_eq (op : Mixed) (q : Quantity d k) (r : Quantity e k) :
    op.apply q r =
      (fun v => Held.of (⟨v⟩ : Quantity (op.dimension d e) k)) <$> op.bare.apply q.value r.value := by
  cases op with
  | mul =>
    show Held.of <$> (Quantity.mk <$> Scalar.mul q.value r.value) = _ <$> Scalar.mul q.value r.value
    cases Scalar.mul q.value r.value <;> rfl
  | div =>
    show Held.of <$> (Quantity.mk <$> Scalar.div q.value r.value) = _ <$> Scalar.div q.value r.value
    cases Scalar.div q.value r.value <;> rfl

end Operations

theorem bareProgram_cons_eq_some {s : Step} {steps : List Step} {program : List BareStep} :
    bareProgram (s :: steps) = some program ↔
      ∃ b rest, s.bare = some b ∧ bareProgram steps = some rest ∧ program = b :: rest := by
  simp only [bareProgram, List.mapM_cons, Option.bind_eq_bind, Option.bind_eq_some_iff, Option.pure_def,
    Option.some.injEq, eq_comm (a := program), exists_and_left]

/-- A store keeps the scalar of what it stores. -/
theorem Registers.bare_store (r : Registers) (name : String) (h : Held) :
    (r.store name h).bare = r.bare.keep (some name) h.scalar := by
  funext other
  show (if other = name then some h else r other).map Held.scalar =
    if other = name then some h.scalar else r.bare other
  split <;> rfl

theorem Registers.bare_keep (r : Registers) (target : Option String) (h : Held) :
    (r.keep target h).bare = r.bare.keep target h.scalar := by
  cases target with
  | none => rfl
  | some name => exact r.bare_store name h

end Dimensional.Program
