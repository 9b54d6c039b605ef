import Dimensional.Binary.Arithmetic
import Dimensional.Text.Decimal

/-!
# The shortest decimal of a floating-point value

The reals that round to a finite value lie between the midpoints to its two neighbours, the midpoints
included when its magnitude is even. Among the decimals in that window the shortest is taken, and of
those the nearest to the value. The search runs over digit counts, and at each count looks at the two
neighbours of the value on the decimal grid of that count; all of it is exact.

* `Decimal10.dropZeros_value` — dropping trailing zeros keeps the value.
-/

namespace Dimensional

/-- A decimal: a natural number times a power of ten. -/
structure Decimal10 where
  significand : Nat
  exponent : Int
  deriving DecidableEq, Repr

/-- Which of two equally near decimals is taken. -/
inductive Tie where
  | up
  /-- The one with an even last digit. -/
  | even
  deriving DecidableEq, Repr

namespace Decimal10

/-- The numerator of ten to the power `e`. -/
def scaleUp (e : Int) : Nat := 10 ^ e.toNat

/-- The denominator of ten to the power `e`. -/
def scaleDown (e : Int) : Nat := 10 ^ (-e).toNat

/-- The number without its trailing zeros, and how many there were. -/
def dropZeros (n : Nat) : Nat × Nat :=
  if h : n = 0 then (0, 0)
  else if n % 10 = 0 then
    have : n / 10 < n := Nat.div_lt_self (Nat.pos_of_ne_zero h) (by decide)
    ((dropZeros (n / 10)).1, (dropZeros (n / 10)).2 + 1)
  else (n, 0)
termination_by n

/-- The same decimal with no trailing zeros in the significand. -/
def normalize (d : Decimal10) : Decimal10 :=
  let (significand, zeros) := dropZeros d.significand
  ⟨significand, d.exponent + zeros⟩

/-- Digits of the significand, first to last. -/
def digits (d : Decimal10) : Text := Decimal.ofNat d.significand

/-- The power of ten of the first digit. -/
def leadingExponent (d : Decimal10) : Int := d.exponent + d.digits.length - 1

theorem dropZeros_value (n : Nat) : (dropZeros n).1 * 10 ^ (dropZeros n).2 = n := by
  fun_induction dropZeros n with
  | case1 => rfl
  | case2 n nonzero whole smaller ih =>
    rw [Nat.pow_succ, ← Nat.mul_assoc, ih]
    omega
  | case3 => simp

end Decimal10

namespace Precision

/-- As many digits as are ever needed to tell two values apart. -/
def maxDigits : Precision → Nat
  | single => 9
  | double => 17

/-- The decimal lies in the window of the magnitude. Both sides are counted in half units. -/
def inWindow (p : Precision) (magnitude significand : Nat) (exponent : Int) : Bool :=
  let decimal := significand * Decimal10.scaleUp exponent * (2 * p.unitsPerOne)
  let low := (p.units (magnitude - 1) + p.units magnitude) * Decimal10.scaleDown exponent
  let high := (p.units magnitude + p.units (magnitude + 1)) * Decimal10.scaleDown exponent
  if magnitude % 2 = 0 then low ≤ decimal && decimal ≤ high
  else low < decimal && decimal < high

/-- The power of ten at or below the value of a magnitude other than zero. -/
def decimalExponent (p : Precision) (magnitude : Nat) : Int :=
  let u := p.units magnitude
  if p.unitsPerOne ≤ u then ((Decimal.ofNat (u / p.unitsPerOne)).length : Int) - 1
  else -((Decimal.ofNat ((p.unitsPerOne - 1) / u)).length : Int)

/-- The better of the value's two neighbours among the multiples of ten to the power `exponent`, if
one of them lies in the window. -/
def onGrid? (p : Precision) (tie : Tie) (magnitude : Nat) (exponent : Int) : Option Nat :=
  let value := p.units magnitude * Decimal10.scaleDown exponent
  let step := Decimal10.scaleUp exponent * p.unitsPerOne
  let below := value / step
  let far := 2 * (value % step)
  match p.inWindow magnitude below exponent, p.inWindow magnitude (below + 1) exponent with
  | true, true =>
    if far < step then some below
    else if step < far then some (below + 1)
    else match tie with
      | .up => some (below + 1)
      | .even => some (below + below % 2)
  | true, false => some below
  | false, true => some (below + 1)
  | false, false => none

/-- The value of a magnitude in full. -/
def exactDecimal (p : Precision) (magnitude : Nat) : Decimal10 :=
  ⟨p.units magnitude * 5 ^ p.unitBits, -(p.unitBits : Int)⟩

/-- The first grid, from `exponent` down to finer ones, on which a decimal of the window lies; the
value in full if `count` grids have none. -/
def search (p : Precision) (tie : Tie) (magnitude : Nat) : Nat → Int → Decimal10
  | 0, _ => p.exactDecimal magnitude
  | count + 1, exponent =>
    match p.onGrid? tie magnitude exponent with
    | some significand => ⟨significand, exponent⟩
    | none => search p tie magnitude count (exponent - 1)

/-- The shortest decimal of a finite magnitude. -/
def shortest (p : Precision) (tie : Tie) (magnitude : Nat) : Decimal10 :=
  if magnitude = 0 then ⟨0, 0⟩
  else (p.search tie magnitude p.maxDigits (p.decimalExponent magnitude)).normalize

/-- One tenth in double precision. -/
example : shortest .double .up 0x3fb999999999999a = ⟨1, -1⟩ := by decide +kernel

/-- The least value of all. -/
example : shortest .double .even 1 = ⟨5, -324⟩ := by decide +kernel

/-- The greatest value of single precision. -/
example : shortest .single .up 0x7f7fffff = ⟨34028235, 31⟩ := by decide +kernel

end Precision

end Dimensional
