import Dimensional.Binary.Shortest
import Dimensional.Proofs.Binary.Rounding
import Mathlib.Algebra.Order.Field.Power
import Mathlib.Tactic.FieldSimp

/-!
# The shortest decimal rounds back

Whatever digits the search for the shortest decimal of a magnitude ends with, the decimal lies in the window of
the magnitude, so that the magnitude is the nearest one to it.

* `Decimal10.value` — the number that a decimal stands for;
* `Precision.inWindow_iff` — in the window of a magnitude, it is the nearest one;
* `Precision.onGrid?_spec` — what is taken from a grid;
* `Precision.rounds_search` — the search does not leave the window;
* `Precision.rounds_shortest` — the shortest decimal of a magnitude rounds back to it.
-/

namespace Dimensional

namespace Decimal

/-- A number has as many digits as its power of ten says. -/
theorem lt_pow_length (n : Nat) : n < 10 ^ (ofNat n).length :=
  (Nat.length_toDigits_le_iff (by decide) (List.length_pos_of_ne_nil (ofNat_ne_nil n))).1 (Nat.le_refl _)

theorem pow_length_le {n : Nat} (h : n ≠ 0) : 10 ^ ((ofNat n).length - 1) ≤ n := by
  rcases Nat.eq_zero_or_pos ((ofNat n).length - 1) with single | more
  · rw [single]
    exact Nat.one_le_iff_ne_zero.2 h
  · rw [← Nat.not_lt, ← Nat.length_toDigits_le_iff (by decide) more]
    have positive := List.length_pos_of_ne_nil (ofNat_ne_nil n)
    show ¬ (ofNat n).length ≤ (ofNat n).length - 1
    omega

end Decimal

namespace Decimal10

/-! ### Values -/

/-- The number that a decimal stands for. -/
def value (d : Decimal10) : ℚ := d.significand * 10 ^ d.exponent

theorem value_nonneg (d : Decimal10) : 0 ≤ d.value := by unfold value; positivity

theorem scaleDown_pos (e : Int) : 0 < scaleDown e := Nat.pow_pos (by decide)

/-- A power of ten, from its numerator and its denominator. -/
theorem scale_eq (e : Int) : (scaleUp e / scaleDown e : ℚ) = 10 ^ e := by
  have ten : (10 : ℚ) ≠ 0 := by norm_num
  have up : (scaleUp e : ℚ) = 10 ^ (e.toNat : Int) := by rw [scaleUp, zpow_natCast]; push_cast; rfl
  have down : (scaleDown e : ℚ) = 10 ^ ((-e).toNat : Int) := by rw [scaleDown, zpow_natCast]; push_cast; rfl
  rw [up, down, ← zpow_sub₀ ten]
  congr 1
  omega

theorem value_of_zero {d : Decimal10} (h : d.significand = 0) : d.value = 0 := by
  rw [value, h, Nat.cast_zero, zero_mul]

/-- A value in units, as a quotient of whole numbers. -/
theorem value_units (d : Decimal10) (unitsPerOne : Nat) :
    d.value * unitsPerOne =
      ((d.significand * scaleUp d.exponent * unitsPerOne : Nat) : ℚ) / scaleDown d.exponent := by
  rw [value, ← scale_eq]
  push_cast
  ring

theorem value_normalize (d : Decimal10) : d.normalize.value = d.value := by
  have ten : (10 : ℚ) ≠ 0 := by norm_num
  have significand : (d.normalize.significand * 10 ^ (dropZeros d.significand).2 : ℚ) = d.significand := by
    exact_mod_cast dropZeros_value d.significand
  have exponent : d.normalize.exponent = d.exponent + (dropZeros d.significand).2 := rfl
  rw [value, value, exponent, zpow_add₀ ten, zpow_natCast, ← significand]
  ring

/-! ### Sizes -/

section

variable (d : Decimal10)

/-- How many digits stand before the point, less than none if zeros follow it. -/
def size : Int := d.exponent + d.digits.length

theorem value_lt : d.value < 10 ^ d.size := by
  have ten : (10 : ℚ) ≠ 0 := by norm_num
  have digits : (d.significand : ℚ) < 10 ^ d.digits.length := by exact_mod_cast Decimal.lt_pow_length d.significand
  rw [value, size, add_comm, zpow_add₀ ten, zpow_natCast]
  exact mul_lt_mul_of_pos_right digits (by positivity)

theorem le_value (h : d.significand ≠ 0) : (10 : ℚ) ^ (d.size - 1) ≤ d.value := by
  have ten : (10 : ℚ) ≠ 0 := by norm_num
  have positive : 0 < d.digits.length := List.length_pos_of_ne_nil (Decimal.ofNat_ne_nil _)
  have digits : (10 : ℚ) ^ (d.digits.length - 1) ≤ d.significand := by exact_mod_cast Decimal.pow_length_le h
  have places : d.size - 1 = (d.digits.length - 1 : Nat) + d.exponent := by rw [size]; omega
  rw [value, places, zpow_add₀ ten, zpow_natCast]
  exact mul_le_mul_of_nonneg_right digits (by positivity)

end

end Decimal10

namespace Precision

variable {p : Precision} {m : Nat}

/-- A decimal without digits other than zero is nearest to zero. -/
theorem rounds_of_zero {d : Decimal10} (h : d.significand = 0) :
    p.Rounds (d.value * p.unitsPerOne) m ↔ m = 0 := by
  rw [Decimal10.value_of_zero h, zero_mul, rounds_zero_iff]

/-! ### The window -/

/-- **In the window of a magnitude, it is the nearest one.** -/
theorem inWindow_iff {d : Decimal10} :
    p.inWindow m d.significand d.exponent = true ↔ p.Rounds (d.value * p.unitsPerOne) m := by
  have down : (0 : ℚ) < Decimal10.scaleDown d.exponent := by exact_mod_cast Decimal10.scaleDown_pos _
  rw [Decimal10.value_units]
  generalize hx : ((d.significand * Decimal10.scaleUp d.exponent * p.unitsPerOne : Nat) : ℚ) /
    Decimal10.scaleDown d.exponent = x
  -- twice the value, over its denominator
  have twice : ((d.significand * Decimal10.scaleUp d.exponent * (2 * p.unitsPerOne) : Nat) : ℚ) =
      2 * x * Decimal10.scaleDown d.exponent := by
    rw [← hx]
    field_simp
    push_cast
    ring
  have le_low {a : Nat} : a * Decimal10.scaleDown d.exponent ≤
      d.significand * Decimal10.scaleUp d.exponent * (2 * p.unitsPerOne) ↔ (a : ℚ) ≤ 2 * x := by
    rw [← Nat.cast_le (α := ℚ), twice, Nat.cast_mul, mul_le_mul_iff_left₀ down]
  have le_high {a : Nat} : d.significand * Decimal10.scaleUp d.exponent * (2 * p.unitsPerOne) ≤
      a * Decimal10.scaleDown d.exponent ↔ 2 * x ≤ (a : ℚ) := by
    rw [← Nat.cast_le (α := ℚ), twice, Nat.cast_mul, mul_le_mul_iff_left₀ down]
  unfold inWindow
  dsimp only
  split
  · next even =>
    rw [Bool.and_eq_true, decide_eq_true_iff, decide_eq_true_iff, le_low, le_high]
    push_cast
    exact ⟨fun h => ⟨h.1, h.2, fun odd => by omega⟩, fun h => ⟨h.low, h.high⟩⟩
  · next odd =>
    rw [Bool.and_eq_true, decide_eq_true_iff, decide_eq_true_iff, ← Nat.not_le, ← Nat.not_le, le_high, le_low,
      not_le, not_le]
    push_cast
    exact ⟨fun h => ⟨h.1.le, h.2.le, fun _ => h⟩, fun h => h.odd (by omega)⟩

/-! ### The grid -/

/-- The multiple of a power of ten below the value of a magnitude. -/
def gridBelow (p : Precision) (m : Nat) (exponent : Int) : Nat :=
  p.units m * Decimal10.scaleDown exponent / (Decimal10.scaleUp exponent * p.unitsPerOne)

/-- What the value of a magnitude exceeds that multiple by. -/
def gridRest (p : Precision) (m : Nat) (exponent : Int) : Nat :=
  p.units m * Decimal10.scaleDown exponent % (Decimal10.scaleUp exponent * p.unitsPerOne)

/-- **What is taken from a grid**: one of the two neighbours of the value if it lies in the window, and of two
that do the nearer one. -/
theorem onGrid?_spec (p : Precision) (tie : Tie) (m : Nat) (exponent : Int) :
    (p.onGrid? tie m exponent = none ∧ p.inWindow m (p.gridBelow m exponent) exponent = false ∧
      p.inWindow m (p.gridBelow m exponent + 1) exponent = false) ∨
    ∃ significand, p.onGrid? tie m exponent = some significand ∧ p.inWindow m significand exponent = true ∧
      ((significand = p.gridBelow m exponent ∧
          (p.inWindow m (p.gridBelow m exponent + 1) exponent = true →
            2 * p.gridRest m exponent ≤ Decimal10.scaleUp exponent * p.unitsPerOne)) ∨
        (significand = p.gridBelow m exponent + 1 ∧
          (p.inWindow m (p.gridBelow m exponent) exponent = true →
            Decimal10.scaleUp exponent * p.unitsPerOne ≤ 2 * p.gridRest m exponent))) := by
  unfold onGrid? gridBelow gridRest
  dsimp only
  generalize p.units m * Decimal10.scaleDown exponent / (Decimal10.scaleUp exponent * p.unitsPerOne) = below
  generalize p.units m * Decimal10.scaleDown exponent % (Decimal10.scaleUp exponent * p.unitsPerOne) = rest
  cases inBelow : p.inWindow m below exponent <;> cases inAbove : p.inWindow m (below + 1) exponent
  · exact .inl ⟨rfl, rfl, rfl⟩
  · exact .inr ⟨_, rfl, inAbove, .inr ⟨rfl, nofun⟩⟩
  · exact .inr ⟨_, rfl, inBelow, .inl ⟨rfl, nofun⟩⟩
  · refine .inr ?_
    dsimp only
    split
    · next less => exact ⟨_, rfl, inBelow, .inl ⟨rfl, fun _ => less.le⟩⟩
    · next notLess =>
      split
      · next more => exact ⟨_, rfl, inAbove, .inr ⟨rfl, fun _ => more.le⟩⟩
      · next notMore =>
        -- a tie
        cases tie with
        | up => exact ⟨_, rfl, inAbove, .inr ⟨rfl, fun _ => Nat.not_lt.1 notLess⟩⟩
        | even =>
          rcases Nat.mod_two_eq_zero_or_one below with even | odd
          · rw [even]
            exact ⟨_, rfl, inBelow, .inl ⟨rfl, fun _ => Nat.not_lt.1 notMore⟩⟩
          · rw [odd]
            exact ⟨_, rfl, inAbove, .inr ⟨rfl, fun _ => Nat.not_lt.1 notLess⟩⟩

/-- What is taken from a grid lies in the window. -/
theorem rounds_of_onGrid {tie : Tie} {exponent : Int} {significand : Nat}
    (h : p.onGrid? tie m exponent = some significand) :
    p.Rounds (Decimal10.value ⟨significand, exponent⟩ * p.unitsPerOne) m := by
  refine inWindow_iff.1 ?_
  obtain ⟨none, -⟩ | ⟨taken, found, inside, -⟩ := p.onGrid?_spec tie m exponent
  · rw [none] at h
    cases h
  · rw [found] at h
    exact Option.some.inj h ▸ inside

/-! ### The search -/

/-- The value in full is that of the magnitude. -/
theorem value_exactDecimal (p : Precision) (m : Nat) :
    (p.exactDecimal m).value * p.unitsPerOne = p.units m := by
  have ten : (10 : ℚ) ≠ 0 := by norm_num
  have factors : (10 : ℚ) ^ p.unitBits = 5 ^ p.unitBits * 2 ^ p.unitBits := by
    rw [← mul_pow]
    norm_num
  have positive : (10 : ℚ) ^ p.unitBits ≠ 0 := pow_ne_zero _ ten
  rw [exactDecimal, Decimal10.value, zpow_neg, zpow_natCast, unitsPerOne]
  push_cast
  rw [mul_right_comm, mul_assoc (p.units m : ℚ), ← factors, mul_inv_cancel_right₀ positive]

/-- **The search does not leave the window**, however many grids it looks at. -/
theorem rounds_search (p : Precision) (tie : Tie) (m count : Nat) (exponent : Int) :
    p.Rounds ((p.search tie m count exponent).value * p.unitsPerOne) m := by
  induction count generalizing exponent with
  | zero =>
    rw [search, value_exactDecimal]
    exact rounds_units m
  | succ count ih =>
    rw [search]
    split
    · next significand found => exact rounds_of_onGrid found
    · exact ih (exponent - 1)

/-- **The shortest decimal of a magnitude rounds back to it.** -/
theorem rounds_shortest (p : Precision) (tie : Tie) (m : Nat) :
    p.Rounds ((p.shortest tie m).value * p.unitsPerOne) m := by
  unfold shortest
  split
  · next zero => exact (rounds_of_zero rfl).2 zero
  · rw [Decimal10.value_normalize]
    exact p.rounds_search tie m _ _

/-- Only zero has a decimal without digits other than zero. -/
theorem significand_shortest {tie : Tie} (h : (p.shortest tie m).significand = 0) :
    p.shortest tie m = ⟨0, 0⟩ := by
  obtain rfl : m = 0 := (rounds_of_zero h).1 (p.rounds_shortest tie m)
  rfl

end Precision

end Dimensional
