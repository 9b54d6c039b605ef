import Dimensional.Proofs.Binary.FewestDigits
import Dimensional.Proofs.Json.Reals

/-!
# How long written decimals are

The digits that are written for a finite value fit 64 bits, in either layout, and their power of ten is within twice
the table of the reader, above and below.

* `Precision.significand_shortest_le` — the digits of a shortest decimal;
* `Json.Writable.significand_le`, `Json.Writable.exponent_bounds` — those that are written, and their power of ten.
-/

namespace Dimensional

namespace Precision

variable {p : Precision} {m : Nat}

/-- No zeros behind them make more of the digits. -/
theorem significand_normalize_le (d : Decimal10) : d.normalize.significand ≤ d.significand := by
  have dropped := Decimal10.dropZeros_value d.significand
  have more := Nat.le_mul_of_pos_right (Decimal10.dropZeros d.significand).1
    (Nat.pow_pos (n := (Decimal10.dropZeros d.significand).2) (show 0 < 10 by decide))
  exact more.trans dropped.le

/-- The search ends with the digits of a grid that it looks at. -/
theorem significand_shortest_le (p : Precision) (tie : Tie) (m : Nat) :
    (p.shortest tie m).significand ≤ 10 ^ p.maxDigits := by
  by_cases h : m = 0
  · rw [h]
    exact Nat.zero_le _
  obtain ⟨stop, significand, result, bound, first, -⟩ := p.search_spec tie h
  obtain ⟨last, rounds⟩ := p.rounds_last h
  have few := first _ _ rounds
  have digits : 0 < p.maxDigits := by cases p <;> decide
  rw [shortest, if_neg h, result]
  refine (significand_normalize_le _).trans (bound.trans ?_)
  exact Nat.pow_le_pow_right (by decide) (by omega)

end Precision

namespace Json

variable {p : Precision} {m : Nat} {d : Decimal10}

/-- One digit more, and zeros up to the point. -/
theorem significand_pointed_lt (h : 0 ≤ d.exponent) {most : Nat} (leading : d.leadingExponent ≤ most) :
    (pointed d).significand < 10 ^ (most + 2) := by
  have digits := Decimal.lt_pow_length d.significand
  have places : d.exponent.toNat + 1 + d.digits.length ≤ most + 2 := by
    rw [Decimal10.leadingExponent] at leading
    omega
  rw [pointed_of_nonneg h]
  calc 10 ^ (d.exponent.toNat + 1) * d.significand
      < 10 ^ (d.exponent.toNat + 1) * 10 ^ d.digits.length :=
        Nat.mul_lt_mul_of_pos_left digits (Nat.pow_pos (by decide))
    _ = 10 ^ (d.exponent.toNat + 1 + d.digits.length) := (Nat.pow_add _ _ _).symm
    _ ≤ 10 ^ (most + 2) := Nat.pow_le_pow_right (by decide) places

/-- How many digits are written at most, a zero behind the point included. -/
def writtenDigits (p : Precision) : Nat := max p.maxDigits ((plainExponents p).2.toNat + 2)

namespace Writable

/-- **The digits that are written are not many.** -/
theorem significand_le (h : Writable p m d) : d.significand ≤ 10 ^ writtenDigits p := by
  have shortest := p.significand_shortest_le .even m
  rcases h with rfl | ⟨rfl, leading⟩
  · exact shortest.trans (Nat.pow_le_pow_right (by decide) (Nat.le_max_left _ _))
  rcases Int.lt_or_le (p.shortest .even m).exponent 0 with small | large
  · rw [pointed_of_neg small]
    exact shortest.trans (Nat.pow_le_pow_right (by decide) (Nat.le_max_left _ _))
  · have most : (p.shortest .even m).leadingExponent ≤ ((plainExponents p).2.toNat : Int) := by omega
    exact (significand_pointed_lt large most).le.trans (Nat.pow_le_pow_right (by decide) (Nat.le_max_right _ _))

theorem rounds (h : Writable p m d) : p.Rounds (d.value * p.unitsPerOne) m := by
  rw [h.value_eq]
  exact p.rounds_shortest .even m

/-- Zero is written as zero. -/
theorem of_zero (h : Writable p 0 d) : d.significand = 0 ∧ d.exponent.natAbs ≤ 1 := by
  have zero : p.shortest .even 0 = ⟨0, 0⟩ := rfl
  rcases h with rfl | ⟨rfl, -⟩
  · rw [zero]
    decide
  · rw [zero]
    decide

/-- Only zero is written without digits other than zero. -/
theorem significand_pos (h : Writable p m d) (nonzero : m ≠ 0) : 0 < d.significand :=
  Nat.pos_of_ne_zero fun none => nonzero ((Precision.rounds_of_zero none).1 h.rounds)

/-- Neither a half unit nor infinity is beyond what is written. -/
theorem value_bounds (h : Writable p m d) (nonzero : m ≠ 0) (finite : m < p.infinity) :
    1 ≤ 2 * (d.value * p.unitsPerOne) ∧ d.value * p.unitsPerOne ≤ p.units p.infinity := by
  have rounds := h.rounds
  have low := rounds.low
  have high := rounds.high
  have units : (1 : ℚ) ≤ p.units m := by exact_mod_cast p.units_pos.2 (Nat.pos_of_ne_zero nonzero)
  have own : (p.units m : ℚ) ≤ p.units p.infinity := by exact_mod_cast p.units_strictMono.monotone finite.le
  have next : (p.units (m + 1) : ℚ) ≤ p.units p.infinity := by exact_mod_cast p.units_strictMono.monotone finite
  have previous := Nat.cast_nonneg (α := ℚ) (p.units (m - 1))
  constructor <;> linarith

/-- **The power of ten that is written** is not far beyond those of the format. -/
theorem exponent_bounds (h : Writable p m d) (nonzero : m ≠ 0) (finite : m < p.infinity) (reach top : Nat)
    (low : 2 * p.unitsPerOne * 10 ^ writtenDigits p ≤ 10 ^ reach)
    (beyond : p.units p.infinity < 10 ^ top * p.unitsPerOne) : -(reach : Int) ≤ d.exponent ∧ d.exponent < top := by
  have ten : (1 : ℚ) < 10 := by norm_num
  obtain ⟨least, most⟩ := h.value_bounds nonzero finite
  have some : (1 : ℚ) ≤ d.significand := by exact_mod_cast h.significand_pos nonzero
  have few : (d.significand : ℚ) ≤ 10 ^ writtenDigits p := by exact_mod_cast h.significand_le
  have power : (0 : ℚ) < 10 ^ d.exponent := by positivity
  have one : (0 : ℚ) < p.unitsPerOne := by exact_mod_cast Nat.two_pow_pos p.unitBits
  constructor
  · have room : (2 * p.unitsPerOne * 10 ^ writtenDigits p : ℚ) ≤ 10 ^ reach := by exact_mod_cast low
    refine (zpow_le_zpow_iff_right₀ ten).1 ?_
    rw [zpow_neg, zpow_natCast, inv_le_iff_one_le_mul₀ (by positivity)]
    calc (1 : ℚ) ≤ 2 * (d.significand * 10 ^ d.exponent * p.unitsPerOne) := least
      _ ≤ 2 * (10 ^ writtenDigits p * 10 ^ d.exponent * p.unitsPerOne) := by gcongr
      _ = 2 * p.unitsPerOne * 10 ^ writtenDigits p * 10 ^ d.exponent := by ring
      _ ≤ 10 ^ reach * 10 ^ d.exponent := by gcongr
      _ = 10 ^ d.exponent * 10 ^ reach := mul_comm _ _
  · have less : (10 : ℚ) ^ d.exponent * p.unitsPerOne < 10 ^ (top : Int) * p.unitsPerOne := by
      rw [zpow_natCast]
      calc (10 : ℚ) ^ d.exponent * p.unitsPerOne
          ≤ d.value * p.unitsPerOne :=
            mul_le_mul_of_nonneg_right (le_mul_of_one_le_left power.le some) one.le
        _ ≤ p.units p.infinity := most
        _ < 10 ^ top * p.unitsPerOne := by exact_mod_cast beyond
    exact (zpow_lt_zpow_iff_right₀ ten).1 (lt_of_mul_lt_mul_right less one.le)

end Writable

end Json

end Dimensional
