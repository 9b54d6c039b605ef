import Dimensional.Program.Registers

/-!
# Programs on quantities

A program is a list of steps, each an operation on registers. A step first fetches its operands, then
checks their types, and only then computes; one that is refused on the way changes nothing.

* `JointUpdate.apply_eq`, `ScalingUpdate.apply_eq` — a change in place computes what the operation computes;
* `Registers.step_jointUpdate`, `Registers.step_scalingUpdate` — and is the operation, kept in the first
  operand;
* `Registers.step_sum` — a sum does not depend on how its items are passed.
-/

namespace Dimensional.Program

open Format (Spec)
open Json (RealReader)

/-- How the items of a sum are passed. -/
inductive Passing where
  | byValue
  | byReference
  deriving DecidableEq, Repr

/-- Operations on two quantities of one type. -/
inductive Joint where
  | add
  | sub
  | min
  | max
  deriving DecidableEq, Repr

/-- Operations that change a quantity by another of its type. -/
inductive JointUpdate where
  | add
  | sub
  deriving DecidableEq, Repr

/-- Operations on two quantities with scalars of one kind. -/
inductive Mixed where
  | mul
  | div
  deriving DecidableEq, Repr

/-- Operations on a quantity and a bare scalar that keep the type. -/
inductive Scaling where
  /-- The quantity times the scalar. -/
  | mul
  /-- The scalar times the quantity. -/
  | mulLeft
  | div
  deriving DecidableEq, Repr

/-- Operations that change a quantity by a bare scalar. -/
inductive ScalingUpdate where
  | mul
  | div
  deriving DecidableEq, Repr

/-- One step of a program. Where a `target` is named, the resulting quantity is kept there. -/
inductive Step where
  | make (dimension : Dimension) (scalar : AnyScalar) (target : Option String)
  | zero (dimension : Dimension) (kind : ScalarKind) (target : Option String)
  | sum (dimension : Dimension) (kind : ScalarKind) (items : List String) (passing : Passing)
      (target : Option String)
  | sort (dimension : Dimension) (kind : ScalarKind) (items : List String)
  | read (reals : RealReader) (dimension : Dimension) (kind : ScalarKind) (json : Text) (target : Option String)
  | readTagged (reals : RealReader) (dimension : Dimension) (kind : ScalarKind) (json : Text)
      (target : Option String)
  | value (a : String)
  | copy (a : String) (target : Option String)
  | set (a : String) (scalar : AnyScalar)
  | joint (op : Joint) (a b : String) (target : Option String)
  | jointUpdate (op : JointUpdate) (a b : String)
  | mixed (op : Mixed) (a b : String) (target : Option String)
  | compare (a b : String)
  | scaling (op : Scaling) (a : String) (scalar : AnyScalar) (target : Option String)
  | scalingUpdate (op : ScalingUpdate) (a : String) (scalar : AnyScalar)
  | under (scalar : AnyScalar) (a : String) (target : Option String)
  | neg (a : String) (target : Option String)
  | abs (a : String) (target : Option String)
  | sqrt (a : String) (target : Option String)
  | squared (a : String) (target : Option String)
  | convert (a : String) (dimension : Dimension) (target : Option String)
  | cast (a : String) (kind : ScalarKind) (target : Option String)
  | hash (a : String)
  | format (a : String) (spec : Spec)
  | write (a : String)
  | writeTagged (a : String)

/-- What a step answers. -/
inductive Answer where
  | quantity (h : Held)
  | scalar (s : AnyScalar)
  | scalars (kind : ScalarKind) (values : List (Scalar kind))
  | comparison (c : Scalar.Comparison)
  | bytes (bytes : List UInt8)
  | text (text : Text)
  | json (text : Text)

section Operations

variable {d e : Dimension} {k : ScalarKind}

def Joint.apply : Joint → Quantity d k → Quantity d k → Except Fault (Quantity d k)
  | add, q, r => q.add r
  | sub, q, r => q.sub r
  | min, q, r => .ok (q.min r)
  | max, q, r => .ok (q.max r)

/-- The scalar of the quantity is replaced; its type has no part in this. -/
def JointUpdate.apply (op : JointUpdate) (q r : Quantity d k) : Except Fault (Quantity d k) :=
  let update := match op with
    | add => Scalar.add
    | sub => Scalar.sub
  return { q with value := ← update q.value r.value }

def Mixed.apply : Mixed → Quantity d k → Quantity e k → Except Fault Held
  | mul, q, r => Held.of <$> q.mul r
  | div, q, r => Held.of <$> q.div r

def Scaling.apply : Scaling → Quantity d k → Scalar k → Except Fault (Quantity d k)
  | mul, q, s => q.scale s
  | mulLeft, q, s => Quantity.scaleLeft s q
  | div, q, s => q.unscale s

/-- The scalar of the quantity is replaced; its type has no part in this. -/
def ScalingUpdate.apply (op : ScalingUpdate) (q : Quantity d k) (s : Scalar k) :
    Except Fault (Quantity d k) :=
  let update := match op with
    | mul => Scalar.mul
    | div => Scalar.div
  return { q with value := ← update q.value s }

/-- The operation that makes a new quantity of the same operands. -/
def JointUpdate.byValue : JointUpdate → Joint
  | add => .add
  | sub => .sub

/-- The operation that makes a new quantity of the same operands. -/
def ScalingUpdate.byValue : ScalingUpdate → Scaling
  | mul => .mul
  | div => .div

theorem JointUpdate.apply_eq (op : JointUpdate) (q r : Quantity d k) :
    op.apply q r = op.byValue.apply q r := by
  cases op with
  | add =>
    show Scalar.add q.value r.value >>= _ = Quantity.mk <$> Scalar.add q.value r.value
    cases Scalar.add q.value r.value <;> rfl
  | sub =>
    show Scalar.sub q.value r.value >>= _ = Quantity.mk <$> Scalar.sub q.value r.value
    cases Scalar.sub q.value r.value <;> rfl

theorem ScalingUpdate.apply_eq (op : ScalingUpdate) (q : Quantity d k) (s : Scalar k) :
    op.apply q s = op.byValue.apply q s := by
  cases op with
  | mul =>
    show Scalar.mul q.value s >>= _ = Quantity.mk <$> Scalar.mul q.value s
    cases Scalar.mul q.value s <;> rfl
  | div =>
    show Scalar.div q.value s >>= _ = Quantity.mk <$> Scalar.div q.value s
    cases Scalar.div q.value s <;> rfl

end Operations

namespace Registers

/-- The named quantities, each of which must have the type; the first one that is missing or has
another type decides. -/
def gather (r : Registers) (d : Dimension) (k : ScalarKind) (items : List String) :
    Except Refusal (List (Quantity d k)) :=
  items.mapM fun name => do (← r.fetch name).as d k

/-- Answer a quantity and keep it. -/
def give (r : Registers) (target : Option String) (h : Held) : Answer × Registers :=
  (.quantity h, r.keep target h)

/-- One step: the answer and the registers after it. -/
def step (r : Registers) : Step → Except Refusal (Answer × Registers)
  | .make d s target => return r.give target ⟨s.kind, d, ⟨s.value⟩⟩
  | .zero d k target => return r.give target (.of (Quantity.zero : Quantity d k))
  | .sum d k items passing target => do
    let qs ← r.gather d k items
    let total ← orFault <| match passing with
      | .byValue => Quantity.sum qs
      | .byReference => Quantity.sumOf id qs
    return r.give target (.of total)
  | .sort d k items => do
    let qs ← r.gather d k items
    let _ ← require (k.isTotal = true)
    return (.scalars k ((Quantity.sort qs).map Quantity.value), r)
  | .read reals d k json target => do
    let q ← orJson (Wire.read reals d k json)
    return r.give target (.of q)
  | .readTagged reals d k json target => do
    let q ← orJson (Wire.readTagged reals d k json)
    return r.give target (.of q)
  | .value a => do
    let h ← r.fetch a
    return (.scalar h.scalar, r)
  | .copy a target => do
    let h ← r.fetch a
    return r.give target h
  | .set a s => do
    let h ← r.fetch a
    let s ← s.as h.kind
    return r.give (some a) ⟨h.kind, h.dimension, ⟨s⟩⟩
  | .joint op a b target => do
    let h ← r.fetch a
    let q ← (← r.fetch b).as h.dimension h.kind
    let result ← orFault (op.apply h.quantity q)
    return r.give target (.of result)
  | .jointUpdate op a b => do
    let h ← r.fetch a
    let q ← (← r.fetch b).as h.dimension h.kind
    let result ← orFault (op.apply h.quantity q)
    return r.give (some a) (.of result)
  | .mixed op a b target => do
    let h ← r.fetch a
    let q ← (← r.fetch b).ofKind h.kind
    let result ← orFault (op.apply h.quantity q)
    return r.give target result
  | .compare a b => do
    let h ← r.fetch a
    let q ← (← r.fetch b).as h.dimension h.kind
    return (.comparison (h.quantity.compare q), r)
  | .scaling op a s target => do
    let h ← r.fetch a
    let s ← s.as h.kind
    let result ← orFault (op.apply h.quantity s)
    return r.give target (.of result)
  | .scalingUpdate op a s => do
    let h ← r.fetch a
    let s ← s.as h.kind
    let result ← orFault (op.apply h.quantity s)
    return r.give (some a) (.of result)
  | .under s a target => do
    let h ← r.fetch a
    let s ← s.as h.kind
    let result ← orFault (Quantity.under s h.quantity)
    return r.give target (.of result)
  | .neg a target => do
    let h ← r.fetch a
    let _ ← require (h.kind.hasNegatives = true)
    let result ← orFault h.quantity.neg
    return r.give target (.of result)
  | .abs a target => do
    match ← r.fetch a with
    | ⟨.float _, _, q⟩ => return r.give target (.of q.abs)
    | ⟨.int _, _, _⟩ => .error .illTyped
  | .sqrt a target => do
    match ← r.fetch a with
    | ⟨.float _, d, q⟩ =>
      let ⟨root⟩ ← require d.HasRoot
      return r.give target (.of (q.sqrt root))
    | ⟨.int _, _, _⟩ => .error .illTyped
  | .squared a target => do
    let h ← r.fetch a
    let result ← orFault h.quantity.squared
    return r.give target (.of result)
  | .convert a d target => do
    let h ← r.fetch a
    let ⟨same⟩ ← require (h.dimension.Same d)
    return r.give target (.of (h.quantity.convert same))
  | .cast a k target => do
    let h ← r.fetch a
    let ⟨wider⟩ ← require (h.kind.widens k = true)
    return r.give target (.of (h.quantity.cast wider))
  | .hash a => do
    let h ← r.fetch a
    match Scalar.hashBytes? h.quantity.value with
    | some bytes => return (.bytes bytes, r)
    | none => .error .illTyped
  | .format a spec => do
    let h ← r.fetch a
    let spec ← orFault spec.checked
    return (.text (h.quantity.format spec), r)
  | .write a => do
    let h ← r.fetch a
    return (.json (Wire.write h.quantity), r)
  | .writeTagged a => do
    let h ← r.fetch a
    return (.json (Wire.writeTagged h.quantity), r)

theorem step_sum (r : Registers) (d : Dimension) (k : ScalarKind) (items : List String) (passing : Passing)
    (target : Option String) :
    r.step (.sum d k items passing target) = r.step (.sum d k items .byValue target) := by
  cases passing with
  | byValue => rfl
  | byReference => simp only [step, Quantity.sumOf_id]

/-- A change in place is the operation that keeps its result in the first operand. -/
theorem step_jointUpdate (r : Registers) (op : JointUpdate) (a b : String) :
    r.step (.jointUpdate op a b) = r.step (.joint op.byValue a b (some a)) := by
  simp only [step, JointUpdate.apply_eq]

theorem step_scalingUpdate (r : Registers) (op : ScalingUpdate) (a : String) (s : AnyScalar) :
    r.step (.scalingUpdate op a s) = r.step (.scaling op.byValue a s (some a)) := by
  simp only [step, ScalingUpdate.apply_eq]

/-- What a step answers, and the registers after it: those before it if it is refused.  No step stores anything in
front of a check.  It has at most one store, of a result that it has computed by then: an addition in place, say, is
one checked operation on the scalar, which writes the sum back where there is one. -/
def perform (r : Registers) (s : Step) : Except Refusal Answer × Registers :=
  match r.step s with
  | .ok (answer, r) => (.ok answer, r)
  | .error refusal => (.error refusal, r)

/-- Run a program: the answers of its steps, and the registers in the end. -/
def run (r : Registers) : List Step → List (Except Refusal Answer) × Registers
  | [] => ([], r)
  | s :: steps =>
    let (answer, r) := r.perform s
    let (answers, r) := run r steps
    (answer :: answers, r)

end Registers

end Dimensional.Program
