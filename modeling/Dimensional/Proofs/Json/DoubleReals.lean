import Dimensional.Proofs.Json.Steps
import Dimensional.Proofs.Json.Written

/-!
# Double precision in steps

A value of double precision is always read from the digits that are written for it, and what is read has its sign and
is close to it: up to five roundings lie between.  It is the value itself where the digits and their power of ten are
exact, which leaves one rounding.

* `double_step`, `double_steps` — one step or two, and how far they are off;
* `double_finite` — they do not run over, not even from the greatest values;
* `stepwise_double`, `stepwise_double_exact` — what is read.
-/

namespace Dimensional.Json

open Numeral (scale step tenPower greatestPower stepError)
open Binary (Nearest)

variable {m : Nat} {d : Decimal10} {y : Binary .double}

/-! ### Errors -/

section

variable (some : 0 < d.significand) (few : d.significand < 2 ^ 64)

include some few

/-- Digits are off by one rounding, before any power of ten. -/
theorem within_digits : Within Precision.double.roundoff 0
    ((Binary.ofInt d.significand : Binary .double).amount * 10 ^ d.exponent) d.value := by
  have digits := Numeral.nearest_digits few
  have power : (0 : ℚ) ≤ 10 ^ d.exponent := by positivity
  have relative := (digits.within_of_le (Numeral.least_le_amount digits some)).scale power
  rw [mul_zero, mul_comm, mul_comm (10 ^ d.exponent : ℚ)] at relative
  exact relative

/-- **One step**, and how far it is off. -/
theorem double_step (table : d.exponent.natAbs ≤ greatestPower)
    (found : scale (Binary.ofInt d.significand) d.exponent = .some y) :
    Within (11 / 2 ^ 54) (2 * Precision.double.least) y.amount d.value := by
  have digits := Numeral.nearest_digits few
  have error := (Numeral.within_scale digits.finite digits.sign table found).trans Numeral.stepError_nonneg
    (within_digits some few)
  refine error.mono d.value_nonneg ?_ (by linarith [Precision.double.least_pos])
  norm_num [stepError, Precision.roundoff, Precision.hidden, Precision.fractionBits]

/-- **Two steps**, for a power of ten below the table, and how far they are off. -/
theorem double_steps (deep : d.exponent < -greatestPower) (table : -(2 * greatestPower : Int) ≤ d.exponent) :
    ∃ y, scale (Binary.ofInt d.significand) d.exponent = .some y ∧ y.negative = false ∧
      y.magnitude < Precision.double.infinity ∧
      Within (11 / 2 ^ 54) (2 * Precision.double.least) y.amount d.value := by
  have digits := Numeral.nearest_digits few
  have positive := Numeral.isZero_of_one_le (Numeral.one_le_amount digits some)
  have first : (-greatestPower : Int).natAbs ≤ greatestPower := by decide
  have second : (d.exponent + greatestPower).natAbs ≤ greatestPower := by omega
  have found := Numeral.scale_of_neg (Binary.ofInt d.significand) first (by decide)
  have found' := Numeral.scale_of_neg ((Binary.ofInt d.significand : Binary .double).div (tenPower greatestPower))
    second (by omega)
  have between := Numeral.nearest_scale digits.finite digits.sign first found
  have nearest := Numeral.nearest_scale between.finite between.sign second found'
  refine ⟨_, (Numeral.scale_of_deep positive deep).trans found', nearest.sign, nearest.finite, ?_⟩
  have ten : (10 : ℚ) ≠ 0 := by norm_num
  have power : (0 : ℚ) ≤ 10 ^ (d.exponent + greatestPower) := by positivity
  have small : (10 : ℚ) ^ (d.exponent + greatestPower) ≤ 1 := zpow_le_one_of_nonpos₀ (by norm_num) (by omega)
  have least := Precision.double.least_pos
  have one := (Numeral.within_scale digits.finite digits.sign first found).scale power
  have two := Numeral.within_scale between.finite between.sign second found'
  have exponent : (10 : ℚ) ^ (d.exponent + greatestPower) * ((Binary.ofInt d.significand : Binary .double).amount *
      10 ^ (-greatestPower : Int)) = (Binary.ofInt d.significand : Binary .double).amount * 10 ^ d.exponent := by
    rw [mul_left_comm, ← zpow_add₀ ten]
    congr 2
    omega
  rw [exponent, mul_comm (10 ^ (d.exponent + greatestPower) : ℚ) (Binary.amount _)] at one
  have nonneg : 0 ≤ stepError + stepError + stepError * stepError := by
    linarith [Numeral.stepError_nonneg, mul_self_nonneg stepError]
  have error := (two.trans Numeral.stepError_nonneg one).trans nonneg (within_digits some few)
  refine error.mono d.value_nonneg ?_ ?_
  · norm_num [stepError, Precision.roundoff, Precision.hidden, Precision.fractionBits]
  · have half : 10 ^ (d.exponent + greatestPower) * (Precision.double.least / 2) ≤ Precision.double.least / 2 :=
      mul_le_of_le_one_left (by linarith) small
    have error : stepError ≤ 1 := by linarith [Numeral.stepError_le]
    have product := mul_le_mul error half (by positivity) zero_le_one
    linarith

end

/-! ### The greatest values -/

/-- The digits of the greatest values do not run over. -/
theorem top_all : (List.range 4).all (fun i =>
    let d := Precision.double.shortest .even (Precision.double.infinity - 1 - i)
    !((Binary.ofInt d.significand : Binary .double).mul (tenPower d.exponent.natAbs)).isInfinite) = true := by
  decide +kernel

/-- Two roundings do not lead from the other values beyond the finite ones. -/
theorem below_top : (1 + Precision.double.roundoff) * ((1 + Precision.double.roundoff) *
      Precision.double.units (Precision.double.infinity - 4)) ≤
    Precision.double.units (Precision.double.infinity - 1) := by
  have whole : (2 * Precision.double.hidden) ^ 2 * Precision.double.units (Precision.double.infinity - 4) ≤
      (2 * Precision.double.hidden - 1) ^ 2 * Precision.double.units (Precision.double.infinity - 1) := by
    decide +kernel
  have hidden : (0 : ℚ) < 2 * Precision.double.hidden - 1 := by norm_num [Precision.hidden, Precision.fractionBits]
  have bound : (2 * Precision.double.hidden : ℚ) ^ 2 * Precision.double.units (Precision.double.infinity - 4) ≤
      (2 * Precision.double.hidden - 1) ^ 2 * Precision.double.units (Precision.double.infinity - 1) := by
    have one : 1 ≤ 2 * Precision.double.hidden := by decide
    have cast := Nat.cast_le (α := ℚ).2 whole
    rw [Nat.cast_mul, Nat.cast_mul, Nat.cast_pow, Nat.cast_pow, Nat.cast_sub one, Nat.cast_mul, Nat.cast_ofNat,
      Nat.cast_one] at cast
    exact cast
  generalize (Precision.double.units (Precision.double.infinity - 4) : ℚ) = before at bound ⊢
  generalize (Precision.double.units (Precision.double.infinity - 1) : ℚ) = top at bound ⊢
  have factor : 1 + Precision.double.roundoff = 2 * Precision.double.hidden / (2 * Precision.double.hidden - 1) := by
    rw [Precision.roundoff, add_div' _ _ _ hidden.ne', one_mul, sub_add_cancel]
  rw [factor, ← mul_assoc, div_mul_div_comm, div_mul_eq_mul_div, div_le_iff₀ (by positivity)]
  linarith

/-- **A step that multiplies does not run over.** -/
theorem double_finite (h : Writable .double m d) (nonzero : m ≠ 0) (finite : m < Precision.double.infinity)
    (few : d.significand < 2 ^ 64) (nonneg : 0 ≤ d.exponent) (table : d.exponent.natAbs ≤ greatestPower) :
    ∃ y, scale (Binary.ofInt d.significand) d.exponent = some y := by
  have digits := Numeral.nearest_digits few
  by_cases top : Precision.double.infinity ≤ m + 4
  · have written : d = Precision.double.shortest .even m := by
      rcases h with same | ⟨pointed, -⟩
      · exact same
      · have neg := exponent_pointed (Precision.double.shortest .even m)
        rw [← pointed] at neg
        omega
    have all := List.all_eq_true.1 top_all (Precision.double.infinity - 1 - m) (List.mem_range.2 (by omega))
    dsimp only at all
    rw [show Precision.double.infinity - 1 - (Precision.double.infinity - 1 - m) = m by omega, ← written,
      Bool.not_eq_true'] at all
    exact ⟨_, (Numeral.scale_of_nonneg _ table nonneg).trans (by rw [all]; rfl)⟩
  · have one := Binary.one_pos .double
    have next : (Precision.double.units (m + 1) : ℚ) ≤ Precision.double.units (Precision.double.infinity - 4) := by
      exact_mod_cast Precision.double.units_strictMono.monotone (show m + 1 ≤ Precision.double.infinity - 4 by omega)
    have own : (Precision.double.units m : ℚ) ≤ Precision.double.units (m + 1) := by
      exact_mod_cast Precision.double.units_strictMono.monotone (Nat.le_succ m)
    have value : d.value * Precision.double.unitsPerOne ≤ Precision.double.units (Precision.double.infinity - 4) := by
      linarith [h.rounds.high]
    have read := (abs_le.1 (within_digits (h.significand_pos nonzero) few)).2
    have product := (abs_le.1 (Numeral.within_step table (Binary.ofInt d.significand : Binary .double))).2
    have roundoff := Precision.double.roundoff_pos
    have below : step (Binary.ofInt d.significand) d.exponent * Precision.double.unitsPerOne ≤
        Precision.double.units (Precision.double.infinity - 1) := by
      have once : (Binary.ofInt d.significand : Binary .double).amount * 10 ^ d.exponent ≤
          (1 + Precision.double.roundoff) * d.value := by linarith
      have twice : step (Binary.ofInt d.significand) d.exponent ≤
          (1 + Precision.double.roundoff) * ((1 + Precision.double.roundoff) * d.value) := by
        have scaled := mul_le_mul_of_nonneg_left once (show 0 ≤ 1 + Precision.double.roundoff by linarith)
        linarith
      calc step (Binary.ofInt d.significand) d.exponent * Precision.double.unitsPerOne
          ≤ (1 + Precision.double.roundoff) * ((1 + Precision.double.roundoff) * d.value) *
              Precision.double.unitsPerOne := mul_le_mul_of_nonneg_right twice one.le
        _ = (1 + Precision.double.roundoff) * ((1 + Precision.double.roundoff) *
              (d.value * Precision.double.unitsPerOne)) := by ring
        _ ≤ (1 + Precision.double.roundoff) * ((1 + Precision.double.roundoff) *
              Precision.double.units (Precision.double.infinity - 4)) := by gcongr
        _ ≤ Precision.double.units (Precision.double.infinity - 1) := below_top
    exact Numeral.exists_scale_of_le digits.finite digits.sign table below

/-! ### Reading -/

/-- What was read is a finite value with the sign of what was written, and not far from it. -/
structure Near (written read : Binary .double) : Prop where
  sign : read.negative = written.negative
  finite : read.magnitude < Precision.double.infinity
  error : 2 ^ 50 * |(read.units : Int) - written.units| ≤ written.units + 2 ^ 52

/-- The table and its double are enough for the decimals that are written. -/
theorem double_exponent (h : Writable .double m d) (nonzero : m ≠ 0) (finite : m < Precision.double.infinity) :
    -(2 * greatestPower : Int) ≤ d.exponent ∧ d.exponent ≤ greatestPower := by
  obtain ⟨least, most⟩ :=
    h.exponent_bounds nonzero finite 342 309 (by decide +kernel) (by decide +kernel)
  rw [greatestPower]
  omega

/-- What the steps find, in the one or in the other way. -/
theorem double_scale (h : Writable .double m d) (nonzero : m ≠ 0) (finite : m < Precision.double.infinity)
    (few : d.significand < 2 ^ 64) :
    ∃ y, scale (Binary.ofInt d.significand) d.exponent = some y ∧ y.negative = false ∧
      y.magnitude < Precision.double.infinity ∧
      Within (11 / 2 ^ 54) (2 * Precision.double.least) y.amount d.value := by
  obtain ⟨low, high⟩ := double_exponent h nonzero finite
  have some := h.significand_pos nonzero
  rcases Int.lt_or_le d.exponent (-greatestPower) with deep | table
  · exact double_steps some few deep low
  have table : d.exponent.natAbs ≤ greatestPower := by omega
  have digits := Numeral.nearest_digits few
  obtain ⟨y, found⟩ : ∃ y, scale (Binary.ofInt d.significand) d.exponent = Option.some y := by
    rcases Int.lt_or_le d.exponent 0 with neg | nonneg
    · exact ⟨_, Numeral.scale_of_neg _ table neg⟩
    · exact double_finite h nonzero finite few nonneg table
  have nearest := Numeral.nearest_scale digits.finite digits.sign table found
  exact ⟨y, found, nearest.sign, nearest.finite, double_step some few table found⟩

/-- The error of the steps and that of the decimal add up. -/
theorem near_of_within {a : Binary .double} {x : ℚ}
    (rounds : Precision.double.Rounds (x * Precision.double.unitsPerOne) a.magnitude)
    (within : Within (11 / 2 ^ 54) (2 * Precision.double.least) y.amount x) :
    2 ^ 50 * |(y.units : Int) - a.units| ≤ a.units + 2 ^ 52 := by
  have one := Binary.one_pos .double
  have written := rounds.error
  have hidden : (Precision.double.hidden : ℚ) = 2 ^ 52 := by norm_num [Precision.hidden, Precision.fractionBits]
  have read : |(y.units : ℚ) - x * Precision.double.unitsPerOne| ≤
      11 / 2 ^ 54 * (x * Precision.double.unitsPerOne) + 2 := by
    have scaled := mul_le_mul_of_nonneg_right within one.le
    have unit : Precision.double.least * Precision.double.unitsPerOne = 1 := one_div_mul_cancel one.ne'
    rw [← abs_of_pos one, ← abs_mul, abs_of_pos one, sub_mul, ← y.units_eq] at scaled
    exact scaled.trans (by linarith)
  rw [hidden, max_def] at written
  have units : (0 : ℚ) ≤ a.units := Nat.cast_nonneg _
  have whole : 2 ^ 50 * |(y.units : ℚ) - a.units| ≤ a.units + 2 ^ 52 := by
    have sum := abs_sub_le (y.units : ℚ) (x * Precision.double.unitsPerOne) a.units
    rw [abs_sub_comm (x * Precision.double.unitsPerOne)] at sum
    have upper := (abs_le.1 (le_refl |(a.units : ℚ) - x * Precision.double.unitsPerOne|)).1
    change 2 * 2 ^ 52 * |(a.units : ℚ) - x * Precision.double.unitsPerOne| ≤ if (a.units : ℚ) ≤ 2 ^ 52 then 2 ^ 52
      else (a.units : ℚ) at written
    generalize x * Precision.double.unitsPerOne = value at *
    split at written <;> linarith
  exact_mod_cast whole

/-- **A value of double precision is read near to where it was**, whatever its decimal. -/
theorem stepwise_double {numeral : Numeral} {b : Binary .double} (finite : b.magnitude < Precision.double.infinity)
    (h : Writable .double b.magnitude numeral.decimal) (sign : numeral.negative = b.negative) :
    ∃ c, RealReader.stepwise .double numeral = some c ∧ Near b c := by
  by_cases nonzero : b.magnitude = 0
  · obtain ⟨none, power⟩ := (nonzero ▸ h : Writable .double 0 numeral.decimal).of_zero
    refine ⟨b, Numeral.stepwise_of_zero none (power.trans (by decide)) sign nonzero, rfl, finite, ?_⟩
    rw [sub_self, abs_zero, mul_zero]
    positivity
  have few : numeral.significand < 2 ^ 64 := h.significand_le.trans_lt (by decide)
  obtain ⟨y, found, positive, finite', within⟩ := double_scale h nonzero finite few
  refine ⟨⟨b.negative, y.magnitude, y.bound⟩, ?_, rfl, finite', near_of_within h.rounds within⟩
  exact Numeral.stepwise_eq_some few found finite' positive sign finite' (y.units_eq ▸ Precision.rounds_units _)

/-- **It is the value itself** where its digits and their power of ten are exact. -/
theorem stepwise_double_exact {numeral : Numeral} {b : Binary .double}
    (finite : b.magnitude < Precision.double.infinity) (h : Writable .double b.magnitude numeral.decimal)
    (sign : numeral.negative = b.negative) (few : numeral.significand ≤ 2 * Precision.double.hidden)
    (short : numeral.exponent.natAbs ≤ 22) : RealReader.stepwise .double numeral = some b := by
  have digits := Numeral.nearest_digits (few.trans_lt (by decide : 2 * Precision.double.hidden < 2 ^ 64))
  have table : numeral.exponent.natAbs ≤ greatestPower := short.trans (by decide)
  have rounds := h.rounds
  have step := Numeral.step_eq few short
  obtain ⟨y, found⟩ := Numeral.exists_scale digits.finite digits.sign table finite (step ▸ rounds)
  have nearest := step ▸ Numeral.nearest_scale digits.finite digits.sign table found
  have same : y.magnitude = b.magnitude := nearest.rounds.unique rounds
  refine Numeral.stepwise_eq_some (few.trans_lt (by decide)) found nearest.finite nearest.sign sign finite ?_
  rw [← y.units_eq, same]
  exact Precision.rounds_units _

end Dimensional.Json
