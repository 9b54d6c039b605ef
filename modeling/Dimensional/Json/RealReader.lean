import Dimensional.Json.Numeral

/-!
# Readers of decimals

Two ways to turn a written decimal into a floating-point value. One rounds it once, in the format that is
wanted. The other stays in double precision all the way: it rounds the leading digits, multiplies or divides
by powers of ten, rounding each time, and converts what it has in the end. It is quick, and off by a few
patterns where one of those steps is not exact.

* `RealReader.once`, `RealReader.stepwise` — the two readers;
* `Numeral.takeDigits_of_lt` — digits that fit 64 bits are all taken.
-/

namespace Dimensional.Json

namespace Numeral

/-! ### One rounding -/

/-- The nearest value of a format, unless it lies beyond the finite ones. A power of ten beyond the
reach of every format is settled without being computed. -/
def nearest? (p : Precision) (n : Numeral) : Option (Binary p) :=
  let size := n.exponent + (Decimal.ofNat n.significand).length
  if n.significand = 0 ∨ size < -1000 then some (Binary.signedZero n.negative)
  else if 1000 < size then none
  else
    let value : Binary p :=
      Binary.nearest n.negative
        (n.significand * Decimal10.scaleUp n.exponent * p.unitsPerOne) (Decimal10.scaleDown n.exponent)
    if value.isInfinite then none else some value

/-! ### One rounding a step -/

/-- Digits taken behind a number, as long as the number fits 64 bits; and how many of them are left. -/
def takeDigits : Nat → Text → Nat × Nat
  | taken, [] => (taken, 0)
  | taken, c :: cs =>
    let next := 10 * taken + (c.toNat - '0'.toNat)
    if next < 2 ^ 64 then takeDigits next cs else (taken, (c :: cs).length)

/-- The leading digits of a numeral that fit 64 bits, and the power of ten behind them. The digits behind the
point are tried even where some in front of it are left. -/
def leading (n : Numeral) : Nat × Int :=
  let (front, left) := takeDigits 0 n.integral
  let (taken, ignored) := takeDigits front n.decimals
  (taken, n.power?.getD 0 + left - (n.decimals.length - ignored : Nat))

/-- The greatest power of ten in the table. -/
def greatestPower : Nat := 308

/-- A power of ten of the table. -/
def tenPower (e : Nat) : Binary .double := Binary.ofInt (10 ^ e : Nat)

/-- A value times a power of ten, rounded once for every power of the table. -/
def scale (a : Binary .double) (e : Int) : Option (Binary .double) :=
  if e.natAbs ≤ greatestPower then
    if 0 ≤ e then
      let product := a.mul (tenPower e.natAbs)
      if product.isInfinite then none else some product
    else some (a.div (tenPower e.natAbs))
  else if a.isZero then some a
  else if 0 ≤ e then none
  else scale (a.div (tenPower greatestPower)) (e + greatestPower)
termination_by e.natAbs
decreasing_by
  rw [greatestPower] at *
  omega

/-- The value found in double precision, with the sign. -/
def stepwise? (n : Numeral) : Option (Binary .double) :=
  let (taken, e) := n.leading
  (scale (Binary.ofInt taken) e).map fun a => if n.negative then a.neg else a

end Numeral

/-- The decimal is rounded once. -/
def RealReader.once : RealReader := Numeral.nearest?

/-- The decimal is put together in double precision, and converted. -/
def RealReader.stepwise : RealReader := fun p n => n.stepwise?.map (Binary.convert p)

/-! ### Laws -/

namespace Numeral

theorem le_ofDigitChars (cs : Text) (taken : Nat) : taken ≤ Nat.ofDigitChars 10 cs taken := by
  induction cs generalizing taken with
  | nil => exact Nat.le_refl taken
  | cons c cs ih =>
    rw [Nat.ofDigitChars_cons]
    have next := ih (10 * taken + (c.toNat - '0'.toNat))
    omega

/-- Digits that make a number of 64 bits are all taken. -/
theorem takeDigits_of_lt {cs : Text} {taken : Nat} (h : Nat.ofDigitChars 10 cs taken < 2 ^ 64) :
    takeDigits taken cs = (Nat.ofDigitChars 10 cs taken, 0) := by
  induction cs generalizing taken with
  | nil => rfl
  | cons c cs ih =>
    rw [Nat.ofDigitChars_cons] at h ⊢
    have fits := Nat.lt_of_le_of_lt (le_ofDigitChars cs _) h
    rw [takeDigits]
    exact (if_pos fits).trans (ih h)

/-- A numeral whose digits fit 64 bits is taken as a whole. -/
theorem leading_of_lt {n : Numeral} (h : n.significand < 2 ^ 64) : n.leading = (n.significand, n.exponent) := by
  have split : n.significand = Nat.ofDigitChars 10 n.decimals (Nat.ofDigitChars 10 n.integral 0) :=
    Nat.ofDigitChars_append 0
  rw [split] at h
  have front := takeDigits_of_lt (Nat.lt_of_le_of_lt (le_ofDigitChars n.decimals _) h)
  simp only [leading, front, takeDigits_of_lt h, split, exponent]
  congr 1
  omega

end Numeral

end Dimensional.Json
