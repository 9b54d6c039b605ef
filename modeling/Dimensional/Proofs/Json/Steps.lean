import Dimensional.Json.RealReader
import Dimensional.Proofs.Binary.Errors

/-!
# Decimals put together in steps

The reader that stays in double precision rounds at most four times for a number of the format: the digits, the
powers of ten, and what each of them gives.  Where the digits and the power are exact, only the last of these
roundings is left.

* `Numeral.nearest_tenPower`, `Numeral.amount_tenPower` — the powers of the table, the first of which are exact;
* `Numeral.nearest_scale` — one step is the nearest pattern to what it computes;
* `Numeral.within_scale` — how far a step is off.
-/

namespace Dimensional.Json.Numeral

open Binary (Nearest)

/-- The relative error of one step. -/
def stepError : ℚ :=
  Precision.double.roundoff + Precision.double.roundoff + Precision.double.roundoff * Precision.double.roundoff

theorem stepError_nonneg : 0 ≤ stepError := by
  have roundoff := Precision.double.roundoff_pos
  unfold stepError
  positivity

theorem stepError_le : 2 ^ 54 * stepError ≤ 9 / 2 := by
  norm_num [stepError, Precision.roundoff, Precision.hidden, Precision.fractionBits]

/-- The least positive value is nothing against a number that is not small. -/
theorem least_mul_le : Precision.double.least * 2 ^ 204 ≤ 1 := by
  have room : 2 ^ 204 ≤ Precision.double.unitsPerOne := by decide +kernel
  rw [Precision.least, one_div_mul_eq_div, div_le_one (Binary.one_pos .double)]
  exact_mod_cast room

/-! ### Powers of ten -/

/-- A natural number is rounded to the nearest pattern, if it is not beyond the finite ones. -/
theorem nearest_ofNat {p : Precision} {n m : Nat} (hm : m < p.infinity) (h : n * p.unitsPerOne ≤ p.units m) :
    (Binary.ofInt n : Binary p).Nearest n := by
  have value : ((n * p.unitsPerOne : Nat) / (1 : Nat) : ℚ) = n * p.unitsPerOne := by push_cast; ring
  have le : ((n * p.unitsPerOne : Nat) / (1 : Nat) : ℚ) ≤ p.units m := by
    rw [value]
    exact_mod_cast h
  obtain ⟨least, finite, rounds⟩ := p.exists_rounds_of_le (by positivity) le
  have sign : decide ((n : Int) < 0) = false := decide_eq_false (by omega)
  have shape : (Binary.ofInt n : Binary p) = Binary.nearest false (n * p.unitsPerOne) 1 := by
    rw [Binary.ofInt, sign, Int.natAbs_natCast]
  rw [shape]
  exact Binary.nearest_nearest Nat.one_pos value
    (Binary.isInfinite_nearest Nat.one_pos (finite.trans_lt hm) rounds)

theorem greatestPower_le : 10 ^ greatestPower * Precision.double.unitsPerOne ≤
    Precision.double.units (Precision.double.infinity - 1) := by decide +kernel

/-- The magnitude of one. -/
theorem units_one : Precision.double.units (1023 * Precision.double.hidden) = Precision.double.unitsPerOne := by
  decide +kernel

variable {n : Nat} {e : Int} {a y : Binary .double}

/-- A number other than zero is not rounded below one. -/
theorem one_le_amount (h : a.Nearest n) (positive : 0 < n) : 1 ≤ a.amount := by
  have one := Binary.one_pos .double
  have units : (Precision.double.units (1023 * Precision.double.hidden) : ℚ) ≤ n * Precision.double.unitsPerOne := by
    rw [units_one]
    exact le_mul_of_one_le_left one.le (by exact_mod_cast positive)
  have bound := h.le_amount units
  rw [units_one] at bound
  exact (le_mul_iff_one_le_left one).1 bound

/-- Its error is relative. -/
theorem least_le_amount (h : a.Nearest n) (positive : 0 < n) :
    Precision.double.hidden * Precision.double.least ≤ a.amount := by
  have small : Precision.double.hidden ≤ Precision.double.unitsPerOne := by decide +kernel
  refine le_trans ?_ (one_le_amount h positive)
  rw [Precision.least, mul_one_div, div_le_one (Binary.one_pos .double)]
  exact_mod_cast small

/-- The powers of the table are rounded once. -/
theorem nearest_tenPower (h : n ≤ greatestPower) : (tenPower n).Nearest (10 ^ n : Nat) := by
  refine nearest_ofNat (m := Precision.double.infinity - 1) (by decide) (le_trans ?_ greatestPower_le)
  exact Nat.mul_le_mul_right _ (Nat.pow_le_pow_right (by decide) h)

theorem one_le_tenPower (h : n ≤ greatestPower) : 1 ≤ (tenPower n).amount :=
  one_le_amount (nearest_tenPower h) (Nat.pow_pos (by decide))

theorem isZero_of_one_le (h : 1 ≤ a.amount) : a.isZero = false := by
  refine beq_eq_false_iff_ne.2 fun zero => ?_
  rw [Binary.amount, Binary.units, zero, Precision.units_zero, Nat.cast_zero, zero_div] at h
  exact absurd h (by norm_num)

/-- **The first powers are exact.** -/
theorem amount_tenPower (h : n ≤ 22) : (tenPower n).amount = (10 ^ n : Nat) := by
  have five : 5 ^ n ≤ 2 * Precision.double.hidden :=
    (Nat.pow_le_pow_right (by decide) h).trans (by decide)
  have ten : 5 ^ n * 2 ^ (n + Precision.double.unitBits) = 10 ^ n * Precision.double.unitsPerOne := by
    rw [Nat.pow_add, ← Nat.mul_assoc, ← Nat.mul_pow, Precision.unitsPerOne]
  obtain ⟨m, units⟩ := Precision.double.exists_units five (n + Precision.double.unitBits)
  refine (nearest_tenPower (h.trans (by decide))).amount_eq (m := m) ?_
  rw [units, ten, Nat.cast_mul]

/-! ### One step -/

theorem scale_of_nonneg (a : Binary .double) (table : e.natAbs ≤ greatestPower) (nonneg : 0 ≤ e) :
    scale a e = if (a.mul (tenPower e.natAbs)).isInfinite then none else some (a.mul (tenPower e.natAbs)) := by
  rw [scale, if_pos table, if_pos nonneg]

theorem scale_of_neg (a : Binary .double) (table : e.natAbs ≤ greatestPower) (neg : e < 0) :
    scale a e = some (a.div (tenPower e.natAbs)) := by
  rw [scale, if_pos table, if_neg (Int.not_le.2 neg)]

theorem scale_of_deep (positive : a.isZero = false) (deep : e < -greatestPower) :
    scale a e = scale (a.div (tenPower greatestPower)) (e + greatestPower) := by
  rw [scale, if_neg (by omega), if_neg (by rw [positive]; exact Bool.false_ne_true), if_neg (by omega)]

/-- What one step computes, before it is rounded. -/
def step (a : Binary .double) (e : Int) : ℚ :=
  if 0 ≤ e then a.amount * (tenPower e.natAbs).amount else a.amount / (tenPower e.natAbs).amount

section

variable (finite : a.magnitude < Precision.double.infinity) (sign : a.negative = false)
  (table : e.natAbs ≤ greatestPower)

include finite sign table

/-- A division is not by zero, and what it gives is finite. -/
theorem div_tenPower :
    a.div (tenPower e.natAbs) = .nearest false (a.units * Precision.double.unitsPerOne) (tenPower e.natAbs).units ∧
      0 < (tenPower e.natAbs).units ∧ (a.div (tenPower e.natAbs)).isInfinite = false := by
  have power := nearest_tenPower table
  have zero := isZero_of_one_le (one_le_tenPower table)
  have positive : 0 < (tenPower e.natAbs).units :=
    Precision.double.units_pos.2 (Nat.pos_of_ne_zero (beq_eq_false_iff_ne.1 zero))
  have shape := Binary.div_of_finite finite power.finite sign power.sign zero
  refine ⟨shape, positive, ?_⟩
  rw [shape]
  have le : ((a.units * Precision.double.unitsPerOne : Nat) / (tenPower e.natAbs).units : ℚ) ≤
      Precision.double.units a.magnitude := by
    rw [Binary.quotient_units, a.units_eq]
    exact mul_le_mul_of_nonneg_right (div_le_self a.amount_nonneg (one_le_tenPower table))
      (Binary.one_pos .double).le
  obtain ⟨m, below, rounds⟩ :=
    Precision.double.exists_rounds_of_le (div_nonneg (Nat.cast_nonneg _) (Nat.cast_nonneg _)) le
  exact Binary.isInfinite_nearest positive (below.trans_lt finite) rounds

/-- **One step is the nearest pattern to what it computes.** -/
theorem nearest_scale (h : scale a e = some y) : y.Nearest (step a e) := by
  rcases Int.lt_or_le e 0 with neg | nonneg
  · obtain ⟨shape, positive, finite⟩ := div_tenPower finite sign table
    rw [scale_of_neg a table neg] at h
    cases h
    rw [step, if_neg (Int.not_le.2 neg)]
    rw [shape] at finite ⊢
    exact Binary.nearest_nearest positive (Binary.quotient_units a _) finite
  · have power := nearest_tenPower table
    rw [scale_of_nonneg a table nonneg, Binary.mul_of_finite finite power.finite sign power.sign] at h
    rw [step, if_pos nonneg]
    split at h
    · cases h
    · next finite =>
      cases h
      exact Binary.nearest_nearest Precision.double.unitsPerOne_pos (Binary.product_units a _)
        (Bool.eq_false_iff.2 finite)

/-- A step gives a value if what it computes is not rounded beyond the finite ones. -/
theorem exists_scale {m : Nat} (hm : m < Precision.double.infinity)
    (h : Precision.double.Rounds (step a e * Precision.double.unitsPerOne) m) : ∃ y, scale a e = some y := by
  rcases Int.lt_or_le e 0 with neg | nonneg
  · exact ⟨_, scale_of_neg a table neg⟩
  · have power := nearest_tenPower table
    rw [step, if_pos nonneg, ← Binary.product_units] at h
    have below : (a.mul (tenPower e.natAbs)).isInfinite = false := by
      rw [Binary.mul_of_finite finite power.finite sign power.sign]
      exact Binary.isInfinite_nearest Precision.double.unitsPerOne_pos hm h
    refine ⟨a.mul (tenPower e.natAbs), ?_⟩
    rw [scale_of_nonneg a table nonneg, below]
    rfl

end

/-- A power of ten, above or below one. -/
theorem zpow_eq (e : Int) :
    (10 : ℚ) ^ e = if 0 ≤ e then ((10 ^ e.natAbs : Nat) : ℚ) else 1 / (10 ^ e.natAbs : Nat) := by
  rw [Nat.cast_pow, Nat.cast_ofNat, ← zpow_natCast, one_div, ← zpow_neg]
  split
  · congr 1
    omega
  · congr 1
    omega

/-- What a step computes is off by the error of its power of ten. -/
theorem within_step (table : e.natAbs ≤ greatestPower) (a : Binary .double) :
    Within Precision.double.roundoff 0 (step a e) (a.amount * 10 ^ e) := by
  have nearest := nearest_tenPower table
  have large := least_le_amount nearest (Nat.pow_pos (by decide))
  rw [zpow_eq, step]
  split
  · simpa using (nearest.within_of_le large).scale a.amount_nonneg
  · -- the error is relative to the rounded power, which cancels
    have error := nearest.error
    rw [max_eq_left large] at error
    have one := one_le_tenPower table
    have ten : (0 : ℚ) < (10 ^ e.natAbs : Nat) := by exact_mod_cast Nat.pow_pos (by decide : 0 < 10)
    generalize ((10 ^ e.natAbs : Nat) : ℚ) = power at *
    generalize (tenPower e.natAbs).amount = rounded at *
    have positive : 0 < rounded := by linarith
    have nonneg := a.amount_nonneg
    have difference : a.amount / rounded - a.amount * (1 / power) =
        a.amount / (rounded * power) * (power - rounded) := by
      field_simp
    have hidden : (0 : ℚ) < 2 * Precision.double.hidden - 1 := by
      norm_num [Precision.hidden, Precision.fractionBits]
    have near : |rounded - power| ≤ rounded * Precision.double.roundoff := by
      rw [Precision.roundoff, mul_one_div, le_div_iff₀ hidden]
      linarith [abs_nonneg (rounded - power)]
    rw [Within, difference, abs_mul, abs_sub_comm, abs_of_nonneg (by positivity), add_zero]
    calc a.amount / (rounded * power) * |rounded - power|
        ≤ a.amount / (rounded * power) * (rounded * Precision.double.roundoff) :=
          mul_le_mul_of_nonneg_left near (by positivity)
      _ = Precision.double.roundoff * (a.amount * (1 / power)) := by field_simp

theorem step_nonneg (table : e.natAbs ≤ greatestPower) (a : Binary .double) : 0 ≤ step a e := by
  have one := one_le_tenPower table
  have amount := a.amount_nonneg
  unfold step
  split <;> positivity

/-- It does so if what it computes is no greater than the greatest finite value. -/
theorem exists_scale_of_le (finite : a.magnitude < Precision.double.infinity) (sign : a.negative = false)
    (table : e.natAbs ≤ greatestPower)
    (below : step a e * Precision.double.unitsPerOne ≤ Precision.double.units (Precision.double.infinity - 1)) :
    ∃ y, scale a e = some y := by
  have nonneg := mul_nonneg (step_nonneg table a) (Binary.one_pos .double).le
  obtain ⟨m, le, rounds⟩ := Precision.double.exists_rounds_of_le nonneg below
  have last : Precision.double.infinity - 1 < Precision.double.infinity := by decide
  exact exists_scale finite sign table (le.trans_lt last) rounds

/-- **How far a step is off.** -/
theorem within_scale (finite : a.magnitude < Precision.double.infinity) (sign : a.negative = false)
    (table : e.natAbs ≤ greatestPower) (h : scale a e = some y) :
    Within stepError (Precision.double.least / 2) y.amount (a.amount * 10 ^ e) := by
  have rounded := (nearest_scale finite sign table h).within (step_nonneg table a)
  simpa [stepError] using rounded.trans Precision.double.roundoff_pos.le (within_step table a)

/-! ### Digits -/

/-- Digits of 64 bits are rounded once. -/
theorem nearest_digits (few : n < 2 ^ 64) : (Binary.ofInt n : Binary .double).Nearest n := by
  have room : 2 ^ 64 * Precision.double.unitsPerOne ≤ Precision.double.units (Precision.double.infinity - 1) := by
    decide +kernel
  exact nearest_ofNat (by decide) ((Nat.mul_le_mul_right _ few.le).trans room)

/-- **Digits up to twice the hidden bit are exact.** -/
theorem amount_digits (few : n ≤ 2 * Precision.double.hidden) : (Binary.ofInt n : Binary .double).amount = n := by
  obtain ⟨m, units⟩ := Precision.double.exists_units few Precision.double.unitBits
  have bits : 2 * Precision.double.hidden < 2 ^ 64 := by decide
  refine (nearest_digits (few.trans_lt bits)).amount_eq (m := m) ?_
  rw [units, Precision.unitsPerOne, Nat.cast_mul]

/-- Exact digits and an exact power leave one rounding. -/
theorem step_eq (few : n ≤ 2 * Precision.double.hidden) (short : e.natAbs ≤ 22) :
    step (Binary.ofInt n) e = Decimal10.value ⟨n, e⟩ := by
  rw [step, amount_digits few, amount_tenPower short, Decimal10.value, zpow_eq]
  split
  · rfl
  · rw [mul_one_div]

/-! ### A numeral -/

variable {p : Precision} {numeral : Numeral}

/-- The value of a pattern, with any sign, is rounded to the nearest magnitude of another format. -/
theorem convert_eq {b : Binary p} (finite : y.magnitude < Precision.double.infinity) (sign : y.negative = b.negative)
    (below : b.magnitude < p.infinity) (rounds : p.Rounds (y.amount * p.unitsPerOne) b.magnitude) :
    Binary.convert p y = b := by
  have value : ((y.units * p.unitsPerOne : Nat) / (Precision.double.unitsPerOne : Nat) : ℚ) =
      y.amount * p.unitsPerOne := by
    rw [Binary.amount, Nat.cast_mul, mul_div_right_comm]
  rw [← value] at rounds
  rw [Binary.convert, Binary.isNaN_of_finite finite, Binary.isInfinite_of_finite finite]
  refine Binary.ext sign ?_
  exact (p.round_eq Precision.double.unitsPerOne_pos rounds).trans (Nat.min_eq_right below.le)

/-- **What is found in double precision** gets the sign of the numeral, and is rounded to the format. -/
theorem stepwise_eq_some {b : Binary p} (few : numeral.significand < 2 ^ 64)
    (found : scale (Binary.ofInt numeral.significand) numeral.exponent = some y)
    (finite : y.magnitude < Precision.double.infinity) (positive : y.negative = false)
    (sign : numeral.negative = b.negative) (below : b.magnitude < p.infinity)
    (rounds : p.Rounds (y.amount * p.unitsPerOne) b.magnitude) : RealReader.stepwise p numeral = some b := by
  rw [RealReader.stepwise, stepwise?, leading_of_lt few]
  simp only [found, Option.map_some]
  refine congrArg some ?_
  cases negative : numeral.negative with
  | false => exact convert_eq finite (positive.trans (negative.symm.trans sign)) below rounds
  | true => exact convert_eq (y := y.neg) finite (by rw [← sign, negative, Binary.neg, positive]; rfl) below rounds

/-- **Zero is read as zero**, with its sign. -/
theorem stepwise_of_zero {b : Binary p} (none : numeral.significand = 0)
    (table : numeral.exponent.natAbs ≤ greatestPower) (sign : numeral.negative = b.negative)
    (zero : b.magnitude = 0) : RealReader.stepwise p numeral = some b := by
  have digits := nearest_digits (show numeral.significand < 2 ^ 64 by omega)
  have amount : (Binary.ofInt numeral.significand : Binary .double).amount = 0 := by
    rw [none]
    exact (amount_digits (Nat.zero_le _)).trans Nat.cast_zero
  have nothing : step (Binary.ofInt numeral.significand) numeral.exponent = 0 := by
    rw [step, amount, zero_mul, zero_div, ite_self]
  have rounds {q : Precision} : q.Rounds (0 * q.unitsPerOne) 0 := by
    rw [zero_mul]
    exact Precision.rounds_zero_iff.2 rfl
  obtain ⟨y, found⟩ := exists_scale digits.finite digits.sign table (Precision.infinity_pos _) (nothing ▸ rounds)
  have nearest := nothing ▸ nearest_scale digits.finite digits.sign table found
  have read : y.amount = 0 := nearest.amount_eq (m := 0) (by rw [Precision.units_zero, Nat.cast_zero, zero_mul])
  refine stepwise_eq_some (by omega) found nearest.finite nearest.sign sign (zero ▸ p.infinity_pos) ?_
  rw [read, zero]
  exact rounds

end Dimensional.Json.Numeral
