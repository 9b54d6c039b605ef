import Dimensional.Binary.Text
import Dimensional.Integer.Fixed

/-!
# Scalars

A quantity stores one scalar: an integer of one of twelve kinds or a floating-point value in one of
two formats. `Scalar k` is the type of values of kind `k`; the operations dispatch on the kind once,
here, and integers stop where floating point goes on.

* `Scalar.compare_eq` — all relations between two scalars follow from one partial order.
-/

namespace Dimensional

open Format (Spec)

/-- The type of a scalar. -/
inductive ScalarKind where
  | int (k : IntKind)
  | float (p : Precision)
  deriving DecidableEq

/-- The scalars of a kind. -/
abbrev Scalar : ScalarKind → Type
  | .int k => Fixed k
  | .float p => Binary p

namespace ScalarKind

/-- All kinds. -/
def all : List ScalarKind :=
  [.float .single, .float .double] ++ IntKind.all.map .int

/-- Name of the type. -/
def name : ScalarKind → String
  | int k => k.name
  | float p => p.name

/-- The kind of this name. -/
def ofName? (s : String) : Option ScalarKind := all.find? fun k => k.name == s

/-- Size of a scalar in bytes, which is also that of a quantity of it. -/
def bytes : ScalarKind → Nat
  | int k => k.width.bytes
  | float p => p.bytes

/-- The kind has negative values, so that negation makes sense on it. -/
def hasNegatives : ScalarKind → Bool
  | int k => k.signed
  | float _ => true

/-- The values are totally ordered, so that they can be sorted and hashed. -/
def isTotal : ScalarKind → Bool
  | int _ => true
  | float _ => false

/-- There is a lossless conversion from the first kind to the second. An integer type of fixed width
goes into the floating-point formats that hold all of its values exactly. -/
def widens : ScalarKind → ScalarKind → Bool
  | int k, int l => k.widens l
  | int k, float p => k.width ≠ .word && k.width.bits ≤ p.fractionBits
  | float .double, float .single => false
  | float _, float _ => true
  | float _, int _ => false

end ScalarKind

/-- A kind that widens to another has no value outside it. -/
theorem IntKind.bounds_of_widens {k l : IntKind} (h : k.widens l = true) :
    l.min ≤ k.min ∧ k.max ≤ l.max := by
  revert h
  obtain ⟨ks, kw⟩ := k
  obtain ⟨ls, lw⟩ := l
  cases ks <;> cases ls <;> cases kw <;> cases lw <;> decide

/-- The same integer in a kind that the first one widens to. -/
def Fixed.widen {k l : IntKind} (h : k.widens l = true) (a : Fixed k) : Fixed l where
  toInt := a.toInt
  min_le := Int.le_trans (IntKind.bounds_of_widens h).1 a.min_le
  le_max := Int.le_trans a.le_max (IntKind.bounds_of_widens h).2

namespace Scalar

variable {k : ScalarKind}

instance : DecidableEq (Scalar k) :=
  match k with
  | .int _ => inferInstanceAs (DecidableEq (Fixed _))
  | .float _ => inferInstanceAs (DecidableEq (Binary _))

/-- Zero. -/
def zero : {k : ScalarKind} → Scalar k
  | .int _ => Fixed.zero
  | .float _ => Binary.zero

/-! ### Arithmetic -/

def add : {k : ScalarKind} → Scalar k → Scalar k → Except Fault (Scalar k)
  | .int _, a, b => Fixed.add a b
  | .float _, a, b => .ok (Binary.add a b)

def sub : {k : ScalarKind} → Scalar k → Scalar k → Except Fault (Scalar k)
  | .int _, a, b => Fixed.sub a b
  | .float _, a, b => .ok (Binary.sub a b)

def mul : {k : ScalarKind} → Scalar k → Scalar k → Except Fault (Scalar k)
  | .int _, a, b => Fixed.mul a b
  | .float _, a, b => .ok (Binary.mul a b)

def div : {k : ScalarKind} → Scalar k → Scalar k → Except Fault (Scalar k)
  | .int _, a, b => Fixed.div a b
  | .float _, a, b => .ok (Binary.div a b)

def neg : {k : ScalarKind} → Scalar k → Except Fault (Scalar k)
  | .int _, a => Fixed.neg a
  | .float _, a => .ok (Binary.neg a)

/-- The same value in a kind that this one widens to. -/
def widen : {k l : ScalarKind} → k.widens l = true → Scalar k → Scalar l
  | .int _, .int _, h, a => Fixed.widen h a
  | .int _, .float _, _, a => Binary.ofInt a.toInt
  | .float _, .float q, _, a => Binary.convert q a
  | .float p, .int _, h, _ => absurd h (by cases p <;> exact Bool.false_ne_true)

/-! ### Order -/

/-- Equality: of integers, or of floating-point values, none of which equals what is not a number. -/
def equals : {k : ScalarKind} → Scalar k → Scalar k → Bool
  | .int _, a, b => a.toInt == b.toInt
  | .float _, a, b => Binary.equals a b

/-- The order of two scalars, where they have one. -/
def order : {k : ScalarKind} → Scalar k → Scalar k → Option Ordering
  | .int _, a, b => some (compare a.toInt b.toInt)
  | .float _, a, b => Binary.partialCompare a b

/-- The order of two scalars of a kind all of whose values have one. -/
def totalOrder? : {k : ScalarKind} → Scalar k → Scalar k → Option Ordering
  | .int _, a, b => some (if a.toInt < b.toInt then .lt else if a.toInt = b.toInt then .eq else .gt)
  | .float _, _, _ => none

/-- The first is strictly smaller. -/
def less (a b : Scalar k) : Bool := order a b == some .lt

/-- The smaller of two, the first if neither is. -/
def min (a b : Scalar k) : Scalar k := if less b a then b else a

/-- The greater of two, the first if neither is. -/
def max (a b : Scalar k) : Scalar k := if less a b then b else a

/-- All that is asked about two scalars. -/
structure Comparison where
  eq : Bool
  ne : Bool
  lt : Bool
  le : Bool
  gt : Bool
  ge : Bool
  partialOrder : Option Ordering
  /-- The order again, for kinds that are totally ordered. -/
  totalOrder : Option Ordering
  deriving DecidableEq

/-- Two scalars are unequal where they are not equal; the other relations are those of the partial order. -/
def compare (a b : Scalar k) : Comparison where
  eq := equals a b
  ne := !equals a b
  lt := order a b == some .lt
  le := order a b == some .lt || order a b == some .eq
  gt := order a b == some .gt
  ge := order a b == some .gt || order a b == some .eq
  partialOrder := order a b
  totalOrder := totalOrder? a b

/-- Ascending order, stable. -/
def sort (xs : List (Scalar k)) : List (Scalar k) := xs.mergeSort fun a b => !less b a

/-! ### Bytes and text -/

/-- What a hash of an integer is computed from; floating-point values are not hashed. -/
def hashBytes? : {k : ScalarKind} → Scalar k → Option (List UInt8)
  | .int _, a => some a.littleEndian
  | .float _, _ => none

/-- The text under a specification. -/
def format (spec : Spec) : {k : ScalarKind} → Scalar k → Text
  | .int k, a => spec.integer k.width.bits a.toInt
  | .float _, a => Binary.format spec a

/-! ### Laws -/

/-- Scalars are equal where neither is before the other. -/
theorem equals_eq (a b : Scalar k) : equals a b = (order a b == some .eq) := by
  cases k with
  | int l =>
    rw [Bool.eq_iff_iff, equals, order, beq_iff_eq, beq_iff_eq, Option.some.injEq, Int.compare_eq_eq]
  | float p => exact Binary.equals_eq a b

/-- The total order is the partial one, where there is a total one. -/
theorem totalOrder?_eq (a b : Scalar k) : totalOrder? a b = if k.isTotal then order a b else none := by
  cases k with
  | int l =>
    show some _ = some (Ord.compare a.toInt b.toInt)
    rcases Int.lt_trichotomy a.toInt b.toInt with below | same | above
    · rw [if_pos below, Int.compare_eq_lt.2 below]
    · rw [if_neg (by omega), if_pos same, Int.compare_eq_eq.2 same]
    · rw [if_neg (by omega), if_neg (by omega), Int.compare_eq_gt.2 above]
  | float p => rfl

/-- **All relations between two scalars follow from one partial order.** -/
theorem compare_eq (a b : Scalar k) :
    compare a b =
      { eq := order a b == some .eq
        ne := order a b != some .eq
        lt := order a b == some .lt
        le := order a b == some .lt || order a b == some .eq
        gt := order a b == some .gt
        ge := order a b == some .gt || order a b == some .eq
        partialOrder := order a b
        totalOrder := if k.isTotal then order a b else none } := by
  rw [compare, equals_eq, totalOrder?_eq]
  rfl

end Scalar

end Dimensional
