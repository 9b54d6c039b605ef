import Dimensional.Proofs.Binary.Midpoints
import Dimensional.Proofs.Json.Steps
import Dimensional.Proofs.Json.Written

/-!
# Single precision survives the steps

A value of single precision is written with digits that double precision holds, and is read in one step.  What that
gives is off by less than any written decimal is from a midpoint that it is not, so that it is rounded to the value
that was written; where the decimal is a midpoint, nothing is rounded before.

* `single_step` — the one step, and how far it is off;
* `single_exact` — it is exact where the decimal is a midpoint;
* `exceptions_sides` — the two decimals that come near to a midpoint are on the right side of it;
* `single_near` — what comes near to a midpoint is the midpoint or one of the exceptions;
* `single_sides`, `stepwise_single` — so every value is read back.
-/

namespace Dimensional.Json

open Numeral (scale step tenPower greatestPower)
open Precision (SameSide)

variable {m : Nat} {d : Decimal10} {y : Binary .double}

section

variable (h : Writable .single m d) (nonzero : m ≠ 0) (finite : m < Precision.single.infinity)

include h

theorem single_digits : d.significand ≤ 10 ^ 14 := h.significand_le

include nonzero

/-- A decimal that is a midpoint has a power of ten that is exact in double precision: the fives of the one are
among the digits of the other. -/
theorem short_of_midpoint {M k : Nat} (few : M < 2 ^ 25) (midpoint : d.value * 2 ^ 150 = M * 2 ^ k) :
    d.exponent.natAbs ≤ 22 := by
  have positive := h.significand_pos nonzero
  have digits := single_digits h
  have five (count : Nat) : Nat.Coprime (5 ^ d.exponent.natAbs) (2 ^ count) := Nat.Coprime.pow _ _ (by decide)
  have split : (10 : Nat) ^ d.exponent.natAbs = 2 ^ d.exponent.natAbs * 5 ^ d.exponent.natAbs := by rw [← Nat.mul_pow]
  by_contra long
  have large : 5 ^ 22 < 5 ^ d.exponent.natAbs := Nat.pow_lt_pow_right (by decide) (by omega)
  rw [Decimal10.value, Numeral.zpow_eq] at midpoint
  split at midpoint
  · have whole : d.significand * 10 ^ d.exponent.natAbs * 2 ^ 150 = M * 2 ^ k := by exact_mod_cast midpoint
    have divides : 5 ^ d.exponent.natAbs ∣ M := by
      refine (five k).dvd_of_dvd_mul_right (whole ▸ ?_)
      rw [split]
      exact Dvd.dvd.mul_right (Dvd.dvd.mul_left (Dvd.intro_left _ rfl) _) _
    have some : M ≠ 0 := by
      rintro rfl
      rw [Nat.zero_mul] at whole
      have product : 0 < d.significand * 10 ^ d.exponent.natAbs * 2 ^ 150 :=
        Nat.mul_pos (Nat.mul_pos positive (Nat.pow_pos (by decide))) (Nat.two_pow_pos _)
      omega
    have bound := Nat.le_of_dvd (Nat.pos_of_ne_zero some) divides
    omega
  · have whole : d.significand * 2 ^ 150 = M * 2 ^ k * 10 ^ d.exponent.natAbs := by
      have power : (0 : ℚ) < (10 ^ d.exponent.natAbs : Nat) := by exact_mod_cast Nat.pow_pos (by decide : 0 < 10)
      rw [mul_one_div, div_mul_eq_mul_div, div_eq_iff power.ne'] at midpoint
      exact_mod_cast midpoint
    have divides : 5 ^ d.exponent.natAbs ∣ d.significand := by
      refine (five 150).dvd_of_dvd_mul_right (whole ▸ ?_)
      rw [split]
      exact Dvd.dvd.mul_left (Dvd.intro_left _ rfl) _
    have bound := Nat.le_of_dvd positive divides
    omega

/-- **Where the decimal is a midpoint, the step is exact.** -/
theorem single_exact {M k : Nat} (few : M < 2 ^ 25) (midpoint : d.value * 2 ^ 150 = M * 2 ^ k)
    (nearest : y.Nearest (step (Binary.ofInt d.significand) d.exponent)) : y.amount = d.value := by
  have digits : d.significand ≤ 2 * Precision.double.hidden := (single_digits h).trans (by decide)
  rw [Numeral.step_eq digits (short_of_midpoint h nonzero few midpoint)] at nearest
  obtain ⟨bits, one⟩ : ∃ bits, Precision.double.unitsPerOne = 2 ^ 150 * 2 ^ bits := ⟨924, by decide +kernel⟩
  obtain ⟨place, units⟩ := Precision.double.exists_units (few.le.trans (by decide)) (k + bits)
  refine nearest.amount_eq (m := place) ?_
  rw [units, one, Nat.cast_mul, Nat.cast_mul, Nat.cast_pow, Nat.cast_pow, Nat.cast_pow, Nat.cast_ofNat, ← mul_assoc,
    midpoint, pow_add, mul_assoc]

include finite

theorem single_table : d.exponent.natAbs ≤ greatestPower := by
  obtain ⟨least, most⟩ := h.exponent_bounds nonzero finite 60 39 (by decide +kernel) (by decide +kernel)
  rw [greatestPower]
  omega

/-- The decimals are neither small nor large in double precision. -/
theorem single_value : 1 ≤ d.value * 2 ^ 150 ∧ d.value ≤ 2 ^ 128 := by
  obtain ⟨least, most⟩ := h.value_bounds nonzero finite
  have top : (Precision.single.units Precision.single.infinity : ℚ) = 2 ^ 128 * 2 ^ 149 := by
    have whole : Precision.single.units Precision.single.infinity = 2 ^ 128 * 2 ^ 149 := by decide +kernel
    exact_mod_cast whole
  rw [Precision.unitsPerOne_single] at least most
  rw [top] at most
  constructor <;> linarith

/-- **The one step**, and how far it is off. -/
theorem single_step : ∃ y, scale (Binary.ofInt d.significand) d.exponent = some y ∧
    y.Nearest (step (Binary.ofInt d.significand) d.exponent) ∧ 2 ^ 54 * |y.amount - d.value| ≤ 5 * d.value := by
  have table := single_table h nonzero finite
  obtain ⟨least, most⟩ := single_value h nonzero finite
  have few : d.significand ≤ 2 * Precision.double.hidden := (single_digits h).trans (by decide)
  have digits := Numeral.nearest_digits (few.trans_lt (by decide))
  have value : (Binary.ofInt d.significand : Binary .double).amount * 10 ^ d.exponent = d.value := by
    rw [Numeral.amount_digits few, Decimal10.value]
  have off := value ▸ Numeral.within_step table (Binary.ofInt d.significand)
  have below : step (Binary.ofInt d.significand) d.exponent * Precision.double.unitsPerOne ≤
      Precision.double.units (Precision.double.infinity - 1) := by
    have room : 2 ^ 129 * Precision.double.unitsPerOne ≤ Precision.double.units (Precision.double.infinity - 1) := by
      decide +kernel
    have small : Precision.double.roundoff ≤ 1 := by
      norm_num [Precision.roundoff, Precision.hidden, Precision.fractionBits]
    have bound := mul_le_mul_of_nonneg_right small (show 0 ≤ d.value by linarith)
    have upper := (abs_le.1 off).2
    calc step (Binary.ofInt d.significand) d.exponent * Precision.double.unitsPerOne
        ≤ 2 ^ 129 * Precision.double.unitsPerOne :=
          mul_le_mul_of_nonneg_right (by linarith) (Binary.one_pos .double).le
      _ = ((2 ^ 129 * Precision.double.unitsPerOne : Nat) : ℚ) := by
          rw [Nat.cast_mul, Nat.cast_pow, Nat.cast_ofNat]
      _ ≤ Precision.double.units (Precision.double.infinity - 1) := Nat.cast_le.2 room
  obtain ⟨y, found⟩ := Numeral.exists_scale_of_le digits.finite digits.sign table below
  refine ⟨y, found, Numeral.nearest_scale digits.finite digits.sign table found, ?_⟩
  have error := value ▸ Numeral.within_scale digits.finite digits.sign table found
  have relative := mul_le_mul_of_nonneg_right Numeral.stepError_le (show 0 ≤ d.value by linarith)
  have absolute := Numeral.least_mul_le
  unfold Within at error
  linarith

end

/-! ### The exceptions -/

/-- The two decimals that come near to a midpoint, read in one step, are on the side of it that they were on. -/
theorem exceptions_all :
    Separation.exceptions.all (fun (k, i, D, M) => i == 28 && D % 10 != 0 &&
      compare (((Binary.ofInt D : Binary .double).div (tenPower 32)).units * 2 ^ 150)
        (M * 2 ^ k * Precision.double.unitsPerOne) == compare (D * 2 ^ 150) (M * 2 ^ k * 10 ^ 32)) = true := by
  decide +kernel

/-- Quotients are on the sides on which the products are. -/
theorem sameSide_of_compare {a b c d M : Nat} (hb : 0 < b) (hd : 0 < d)
    (h : compare a (M * b) = compare c (M * d)) : SameSide (a / b) (c / d) M := by
  have pb : (0 : ℚ) < b := by exact_mod_cast hb
  have pd : (0 : ℚ) < d := by exact_mod_cast hd
  constructor
  · rw [div_lt_iff₀ pb, div_lt_iff₀ pd]
    exact_mod_cast (Nat.compare_eq_lt.symm.trans (by rw [h])).trans Nat.compare_eq_lt
  · rw [lt_div_iff₀ pb, lt_div_iff₀ pd]
    exact_mod_cast (Nat.compare_eq_gt.symm.trans (by rw [h])).trans Nat.compare_eq_gt

theorem exceptions_sides {k i D M : Nat} (h : (k, i, D, M) ∈ Separation.exceptions) :
    i = 28 ∧ D % 10 ≠ 0 ∧ SameSide
      (2 * (((Binary.ofInt D : Binary .double).div (tenPower 32)).amount * Precision.single.unitsPerOne))
      (2 * (Decimal10.value ⟨D, -32⟩ * Precision.single.unitsPerOne)) ((M : ℚ) * 2 ^ k) := by
  have all := List.all_eq_true.1 exceptions_all _ h
  simp only [Bool.and_eq_true, beq_iff_eq, bne_iff_ne] at all
  obtain ⟨⟨power, digits⟩, sides⟩ := all
  have same := sameSide_of_compare Precision.double.unitsPerOne_pos (Nat.pow_pos (by decide)) sides
  generalize (Binary.ofInt D : Binary .double).div (tenPower 32) = y at same ⊢
  have read : 2 * (y.amount * Precision.single.unitsPerOne) =
      ((y.units * 2 ^ 150 : Nat) / Precision.double.unitsPerOne : ℚ) := by
    rw [Precision.unitsPerOne_single, Binary.amount, Nat.cast_mul, Nat.cast_pow, Nat.cast_ofNat]
    ring
  have written : 2 * (Decimal10.value ⟨D, -32⟩ * Precision.single.unitsPerOne) =
      ((D * 2 ^ 150 : Nat) / (10 ^ 32 : Nat) : ℚ) := by
    rw [Precision.unitsPerOne_single, Decimal10.value, zpow_neg]
    norm_num
    ring
  rw [read, written]
  refine ⟨power, digits, ?_⟩
  exact_mod_cast same

/-! ### Sides -/

/-- A decimal without a zero at its end stays as it is. -/
theorem normalize_of_mod {d : Decimal10} (h : d.significand % 10 ≠ 0) : d.normalize = d := by
  have nonzero : d.significand ≠ 0 := by
    intro none
    rw [none] at h
    exact h rfl
  have kept : Decimal10.dropZeros d.significand = (d.significand, 0) := by
    rw [Decimal10.dropZeros, dif_neg nonzero, if_neg h]
  rw [Decimal10.normalize, kept]
  exact congrArg (Decimal10.mk d.significand) (add_zero d.exponent)

/-- **A written decimal that comes near to a midpoint** beside its value is that midpoint, or one of the exceptions. -/
theorem single_near (h : Writable .single m d) (nonzero : m ≠ 0) (finite : m < Precision.single.infinity) {n : Nat}
    (around : n = m ∨ n + 1 = m)
    (near : 2 ^ 54 * |2 * (d.value * Precision.single.unitsPerOne) -
      (Precision.single.units n + Precision.single.units (n + 1))| ≤
        6 * (Precision.single.units n + Precision.single.units (n + 1) : ℚ)) :
    2 * (d.value * Precision.single.unitsPerOne) = Precision.single.units n + Precision.single.units (n + 1) ∨
      ∃ k D M, (k, 28, D, M) ∈ Separation.exceptions ∧ d = ⟨D, -32⟩ ∧
        (Precision.single.units n + Precision.single.units (n + 1) : ℚ) = M * 2 ^ k := by
  obtain ⟨stop, D, result, -, -, closest⟩ := Precision.single.search_spec .even nonzero
  generalize Precision.single.decimalExponent m - (stop : Int) = e at result closest
  have shortest : Precision.single.shortest .even m = Decimal10.normalize ⟨D, e⟩ := by
    rw [Precision.shortest, if_neg nonzero, result]
  have grid : d.value * Precision.single.unitsPerOne = D * Precision.single.gridStep e := by
    rw [h.value_eq, shortest, Decimal10.value_normalize, Precision.value_grid]
  have rounds := h.rounds
  have positive := Precision.single.gridStep_pos e
  rw [grid] at near rounds ⊢
  have coarse : (2 ^ 20 - 1) * (Precision.single.units m - Precision.single.units (m - 1) : ℚ) <
      2 ^ 20 * Precision.single.gridStep e := by
    rcases around with rfl | rfl
    · exact Precision.coarse_of_near_above nonzero positive rounds closest near
    · exact Precision.coarse_of_near_below nonzero positive rounds closest near
  have few := Precision.digits_of_coarse nonzero positive rounds coarse
  have some : 0 < D := by
    refine Nat.pos_of_ne_zero ?_
    rintro rfl
    rw [Nat.cast_zero, zero_mul] at rounds
    exact nonzero (Precision.rounds_zero_iff.1 rounds)
  rcases Precision.near_midpoint (by omega) some few near with exact | ⟨k, i, M, midpoint, rfl, exception⟩
  · exact .inl exact
  obtain ⟨rfl, digits, -⟩ := exceptions_sides exception
  refine .inr ⟨k, D, M, exception, ?_, by exact_mod_cast midpoint⟩
  have kept : Precision.single.shortest .even m = ⟨D, -32⟩ := shortest.trans (normalize_of_mod digits)
  rcases h with rfl | ⟨rfl, -⟩
  · exact kept
  · rw [kept]
    exact pointed_of_neg (show (-32 : Int) < 0 by decide)

/-- **What is read is on the side of a midpoint that the decimal is on.** -/
theorem single_sides (h : Writable .single m d) (nonzero : m ≠ 0) (finite : m < Precision.single.infinity)
    (found : scale (Binary.ofInt d.significand) d.exponent = some y)
    (nearest : y.Nearest (step (Binary.ofInt d.significand) d.exponent))
    (error : 2 ^ 54 * |y.amount - d.value| ≤ 5 * d.value) {n : Nat} (around : n = m ∨ n + 1 = m) :
    SameSide (2 * (y.amount * Precision.single.unitsPerOne)) (2 * (d.value * Precision.single.unitsPerOne))
      (Precision.single.units n + Precision.single.units (n + 1)) := by
  have one := Binary.one_pos .single
  by_cases near : 2 ^ 54 * |2 * (d.value * Precision.single.unitsPerOne) -
      (Precision.single.units n + Precision.single.units (n + 1))| ≤
        6 * (Precision.single.units n + Precision.single.units (n + 1) : ℚ)
  · rcases single_near h nonzero finite around near with exact | ⟨k, D, M, exception, written, middle⟩
    · -- the decimal is the midpoint, and the step does not move it
      obtain ⟨k, s, -, -, many, midpoint⟩ := Precision.single.midpoint n
      have bits : Precision.single.hidden = 2 ^ 23 := rfl
      have half : d.value * 2 ^ 150 = ((2 * s + 1 : Nat) : ℚ) * 2 ^ k := by
        have value : 2 * (d.value * Precision.single.unitsPerOne) = ((2 * s + 1 : Nat) : ℚ) * 2 ^ k := by
          rw [exact]
          exact_mod_cast midpoint
        rw [Precision.unitsPerOne_single] at value
        linarith
      rw [single_exact h nonzero (by omega) half nearest]
      exact ⟨Iff.rfl, Iff.rfl⟩
    · rw [written, Numeral.scale_of_neg _ (show (-32 : Int).natAbs ≤ greatestPower by decide)
        (show (-32 : Int) < 0 by decide)] at found
      obtain ⟨-, -, sides⟩ := exceptions_sides exception
      rw [middle, written, ← Option.some.inj found]
      exact sides
  · refine Precision.sameSide_of_far (by positivity) ?_ (not_le.1 near)
    have two : (0 : ℚ) ≤ 2 * Precision.single.unitsPerOne := by linarith
    have scaled := mul_le_mul_of_nonneg_right error two
    rw [mul_assoc, ← abs_of_nonneg two, ← abs_mul, abs_of_nonneg two] at scaled
    calc 2 ^ 54 * |2 * (y.amount * Precision.single.unitsPerOne) - 2 * (d.value * Precision.single.unitsPerOne)|
        = 2 ^ 54 * |(y.amount - d.value) * (2 * Precision.single.unitsPerOne)| := by ring_nf
      _ ≤ 5 * d.value * (2 * Precision.single.unitsPerOne) := scaled
      _ = 5 * (2 * (d.value * Precision.single.unitsPerOne)) := by ring

/-! ### Reading -/

/-- **Every value of single precision is read back**, from the digits that are written for it. -/
theorem stepwise_single {numeral : Numeral} {b : Binary .single} (finite : b.magnitude < Precision.single.infinity)
    (h : Writable .single b.magnitude numeral.decimal) (sign : numeral.negative = b.negative) :
    RealReader.stepwise .single numeral = some b := by
  by_cases nonzero : b.magnitude = 0
  · obtain ⟨none, power⟩ := (nonzero ▸ h : Writable .single 0 numeral.decimal).of_zero
    exact Numeral.stepwise_of_zero none (power.trans (by decide)) sign nonzero
  obtain ⟨y, found, nearest, error⟩ := single_step h nonzero finite
  have digits : numeral.significand < 2 ^ 64 := (single_digits h).trans_lt (by decide)
  have low := single_sides h nonzero finite found nearest error (n := b.magnitude - 1) (.inr (by omega))
  have high := single_sides h nonzero finite found nearest error (n := b.magnitude) (.inl rfl)
  rw [show b.magnitude - 1 + 1 = b.magnitude by omega] at low
  exact Numeral.stepwise_eq_some digits found nearest.finite nearest.sign sign finite (h.rounds.of_sides low high)

end Dimensional.Json
