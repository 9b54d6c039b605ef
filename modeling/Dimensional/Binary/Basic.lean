import Dimensional.Power

/-!
# Binary floating point

A pattern is a sign and a magnitude: the exponent field above the fraction field, read as one natural
number. Magnitudes below that of infinity are finite values, those above it are not numbers. Every
finite value is a whole number of *units*, a unit being the least positive value, so arithmetic on
patterns is exact integer arithmetic followed by one rounding.

* `Binary.ofBits?_bits`, `Binary.bits_injective` — a pattern is determined by its bits;
* `Binary.partialCompare_eq_none` — only what is not a number is unordered;
* `Binary.equals_eq` — equality is that of the order.
-/

namespace Dimensional

/-- The two binary formats. -/
inductive Precision where
  | single
  | double
  deriving DecidableEq, Repr

namespace Precision

/-- Bits of the fraction field. -/
def fractionBits : Precision → Nat
  | single => 23
  | double => 52

/-- Bits of the exponent field. -/
def exponentBits : Precision → Nat
  | single => 8
  | double => 11

/-- Size in bytes. -/
def bytes : Precision → Nat
  | single => 4
  | double => 8

/-- Name of the scalar type. -/
def name : Precision → String
  | single => "f32"
  | double => "f64"

/-- How many halvings lead from one to the unit. -/
def unitBits (p : Precision) : Nat := 2 ^ (p.exponentBits - 1) - 2 + p.fractionBits

/-- Units in one. -/
def unitsPerOne (p : Precision) : Nat := 2 ^ p.unitBits

/-- The weight of the fraction's hidden bit. -/
def hidden (p : Precision) : Nat := 2 ^ p.fractionBits

/-- The magnitude of infinity. -/
def infinity (p : Precision) : Nat := (2 ^ p.exponentBits - 1) * p.hidden

/-- The weight of the sign bit, above every magnitude. -/
def signWeight (p : Precision) : Nat := 2 ^ p.exponentBits * p.hidden

/-- The units in the value of a magnitude: the fraction alone in the lowest two binades, and above
them the fraction with its hidden bit, doubled for every step of the exponent. -/
def units (p : Precision) (magnitude : Nat) : Nat :=
  let exponent := magnitude / p.hidden
  let fraction := magnitude % p.hidden
  if exponent = 0 then fraction else (p.hidden + fraction) * 2 ^ (exponent - 1)

theorem hidden_pos (p : Precision) : 0 < p.hidden := Nat.two_pow_pos _

theorem infinity_lt_signWeight (p : Precision) : p.infinity < p.signWeight := by
  cases p <;> decide

theorem infinity_pos (p : Precision) : 0 < p.infinity := by cases p <;> decide

end Precision

/-- A floating-point pattern. -/
structure Binary (p : Precision) where
  negative : Bool
  magnitude : Nat
  bound : magnitude < p.signWeight

namespace Binary

variable {p : Precision}

@[ext] theorem ext {a b : Binary p} (sign : a.negative = b.negative)
    (size : a.magnitude = b.magnitude) : a = b := by
  cases a; cases b; cases sign; cases size; rfl

instance : DecidableEq (Binary p) := fun a b =>
  if h : a.negative = b.negative ∧ a.magnitude = b.magnitude then .isTrue (ext h.1 h.2)
  else .isFalse fun e => h ⟨congrArg negative e, congrArg magnitude e⟩

/-- The bits of a pattern as one number, the sign on top. -/
def bits (a : Binary p) : Nat := (if a.negative then p.signWeight else 0) + a.magnitude

/-- The pattern with these bits. -/
def ofBits? (p : Precision) (n : Nat) : Option (Binary p) :=
  if plain : n < p.signWeight then some ⟨false, n, plain⟩
  else if signed : n - p.signWeight < p.signWeight then some ⟨true, n - p.signWeight, signed⟩
  else none

/-! ### Special patterns -/

/-- Positive zero. -/
def zero : Binary p := ⟨false, 0, Nat.lt_trans p.infinity_pos p.infinity_lt_signWeight⟩

instance : Inhabited (Binary p) := ⟨zero⟩

/-- Zero with a sign. -/
def signedZero (negative : Bool) : Binary p := { zero with negative }

/-- Infinity with a sign. -/
def signedInfinity (negative : Bool) : Binary p := ⟨negative, p.infinity, p.infinity_lt_signWeight⟩

/-- What is not a number: the quiet pattern that operations without an answer give. -/
def nan : Binary p :=
  ⟨false, p.infinity + p.hidden / 2, by cases p <;> decide⟩

def isNaN (a : Binary p) : Bool := p.infinity < a.magnitude

def isInfinite (a : Binary p) : Bool := a.magnitude == p.infinity

def isZero (a : Binary p) : Bool := a.magnitude == 0

/-- The magnitude in units, for finite patterns. -/
def units (a : Binary p) : Nat := p.units a.magnitude

/-- The value in units, for finite patterns. -/
def signedUnits (a : Binary p) : Int := if a.negative then -(a.units : Int) else a.units

/-! ### Order -/

/-- A number whose order is that of the values; both zeros have the same. -/
def orderKey (a : Binary p) : Int := if a.negative then -(a.magnitude : Int) else a.magnitude

/-- Equality of two values: of one pattern, or both zero; what is not a number equals nothing. -/
def equals (a b : Binary p) : Bool := !a.isNaN && !b.isNaN && (a == b || a.isZero && b.isZero)

/-- The order of two values; nothing is ordered with what is not a number. -/
def partialCompare (a b : Binary p) : Option Ordering :=
  if a.isNaN || b.isNaN then none else some (compare a.orderKey b.orderKey)

/-! ### Laws -/

theorem ofBits?_bits (a : Binary p) : ofBits? p a.bits = some a := by
  have size := a.bound
  obtain ⟨negative, magnitude, bound⟩ := a
  cases negative with
  | false =>
    show ofBits? p (0 + magnitude) = _
    rw [Nat.zero_add, ofBits?, dif_pos bound]
  | true =>
    have above : ¬ p.signWeight + magnitude < p.signWeight := by omega
    have rest : p.signWeight + magnitude - p.signWeight = magnitude := by omega
    show ofBits? p (p.signWeight + magnitude) = _
    simp only [ofBits?, dif_neg above, rest, dif_pos bound]

theorem bits_injective {a b : Binary p} (h : a.bits = b.bits) : a = b :=
  Option.some.inj (by rw [← ofBits?_bits a, h, ofBits?_bits])

theorem partialCompare_eq_none {a b : Binary p} :
    partialCompare a b = none ↔ a.isNaN = true ∨ b.isNaN = true := by
  unfold partialCompare
  cases a.isNaN <;> cases b.isNaN <;> simp

theorem orderKey_eq_iff {a b : Binary p} : a.orderKey = b.orderKey ↔ a = b ∨ a.isZero = true ∧ b.isZero = true := by
  obtain ⟨sign, size, _⟩ := a
  obtain ⟨sign', size', _⟩ := b
  cases sign <;> cases sign' <;> simp [orderKey, isZero] <;> omega

/-- Values are equal where neither is before the other. -/
theorem equals_eq (a b : Binary p) : equals a b = (partialCompare a b == some .eq) := by
  rw [Bool.eq_iff_iff, equals, partialCompare]
  cases ha : a.isNaN with
  | true => simp
  | false =>
    cases hb : b.isNaN with
    | true => simp
    | false =>
      simp only [Bool.not_false, Bool.true_and, Bool.or_self, Bool.false_eq_true, if_false, beq_iff_eq,
        Option.some.injEq, Int.compare_eq_eq, orderKey_eq_iff, Bool.or_eq_true, Bool.and_eq_true]

end Binary

end Dimensional
