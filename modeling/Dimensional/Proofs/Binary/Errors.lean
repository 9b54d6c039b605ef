import Dimensional.Proofs.Binary.FewestDigits

/-!
# How far rounding is off

A rounded result is off by a relative error of at most one part in twice the hidden bit, and near zero by half
of the least positive value.  Errors of several steps add up.

* `Precision.Rounds.error` — the error of one rounding, in units;
* `Within` — a relative error and an absolute one, and how they add up;
* `Binary.Nearest` — a pattern that is not negative, and is the finite one nearest to a number;
* `Binary.Nearest.within` — its error;
* `Binary.mul_of_finite`, `Binary.div_of_finite`, `Binary.nearest_nearest` — and the operations that give one.
-/

namespace Dimensional

namespace Precision

variable {p : Precision} {m : Nat}

/-- **The error of one rounding**: half of a step, which is small against the units of all but the least
magnitudes. -/
theorem Rounds.error {x : ℚ} (h : p.Rounds x m) :
    2 * p.hidden * |(p.units m : ℚ) - x| ≤ max (p.units m : ℚ) p.hidden := by
  obtain ⟨k, s, rfl, few, many⟩ := p.exists_steps m
  have own : (p.units (k * p.hidden + s) : ℚ) = s * 2 ^ k := by exact_mod_cast p.units_step few many.le
  have next : (p.units (k * p.hidden + s + 1) : ℚ) = (s + 1) * 2 ^ k := by exact_mod_cast p.units_succ few many
  have step : (0 : ℚ) < 2 ^ k := by positivity
  have previous : (s - 1) * 2 ^ k ≤ (p.units (k * p.hidden + s - 1) : ℚ) := by
    rcases Nat.eq_zero_or_pos s with rfl | positive
    · push_cast
      linarith [Nat.cast_nonneg (α := ℚ) (p.units (k * p.hidden + 0 - 1))]
    obtain equal | ⟨-, rfl, half⟩ := p.units_pred few many.le positive
    · rw [equal]
      push_cast [positive]
      exact le_rfl
    · have whole : 1 ≤ 2 * p.hidden := by omega
      have twice : 2 * (p.units (k * p.hidden + p.hidden - 1) : ℚ) = (2 * p.hidden - 1) * 2 ^ k := by
        rw [← Nat.cast_ofNat, ← Nat.cast_mul, half]
        push_cast [whole]
        rfl
      linarith
  have half : 2 * |(p.units (k * p.hidden + s) : ℚ) - x| ≤ 2 ^ k := by
    have low := h.low
    have high := h.high
    rw [next] at high
    have twice (t : ℚ) : 2 * |t| = |2 * t| := by rw [abs_mul, abs_two]
    rw [twice, abs_le]
    constructor <;> linarith
  have scaled : 2 * p.hidden * |(p.units (k * p.hidden + s) : ℚ) - x| ≤ p.hidden * 2 ^ k := by
    have product := mul_le_mul_of_nonneg_left half (Nat.cast_nonneg (α := ℚ) p.hidden)
    linarith
  refine scaled.trans (le_max_iff.2 ?_)
  rcases few with rfl | large
  · exact .inr (by rw [pow_zero, mul_one])
  · refine .inl ?_
    rw [own]
    exact mul_le_mul_of_nonneg_right (by exact_mod_cast large) step.le

/-- Every number has a nearest magnitude. -/
theorem exists_rounds (p : Precision) {x : ℚ} (hx : 0 ≤ x) : ∃ m, p.Rounds x m := by
  have value : ((x.num.natAbs : ℚ) / x.den) = x := by
    rw [Nat.cast_natAbs, abs_of_nonneg (Rat.num_nonneg.2 hx), Rat.num_div_den]
  exact ⟨_, value ▸ p.rounds_round x.num.natAbs x.den_pos⟩

/-- No magnitude beyond one that a number does not exceed is nearest to it. -/
theorem exists_rounds_of_le (p : Precision) {x : ℚ} (hx : 0 ≤ x) (h : x ≤ p.units m) : ∃ n ≤ m, p.Rounds x n := by
  obtain ⟨n, rounds⟩ := p.exists_rounds hx
  exact ⟨n, rounds.mono (rounds_units m) h, rounds⟩

/-- Whole multiples of a power of two are exact, up to twice the hidden bit of them. -/
theorem exists_units (p : Precision) {c : Nat} (few : c ≤ 2 * p.hidden) (k : Nat) : ∃ m, p.units m = c * 2 ^ k := by
  induction k generalizing c with
  | zero => exact ⟨0 * p.hidden + c, p.units_step (.inl rfl) few⟩
  | succ k ih =>
    rcases Nat.lt_or_ge c p.hidden with small | large
    · obtain ⟨m, units⟩ := ih (c := 2 * c) (by omega)
      exact ⟨m, by rw [units, Nat.pow_succ', Nat.mul_comm 2 c, Nat.mul_assoc]⟩
    · exact ⟨(k + 1) * p.hidden + c, p.units_step (.inr large) few⟩

end Precision

/-! ### Errors -/

/-- Off by a part of `x` and by something absolute. -/
def Within (relative absolute y x : ℚ) : Prop := |y - x| ≤ relative * x + absolute

namespace Within

variable {u v η θ x y z : ℚ}

/-- Errors of two steps. -/
theorem trans (hu : 0 ≤ u) (hzy : Within u η z y) (hyx : Within v θ y x) :
    Within (u + v + u * v) (η + θ + u * θ) z x := by
  have upper : y ≤ x + (v * x + θ) := by linarith [(abs_le.1 hyx).2]
  have bound := mul_le_mul_of_nonneg_left upper hu
  have sum := abs_sub_le z y x
  unfold Within at *
  linarith

/-- A smaller scale has no greater errors. -/
theorem scale {c : ℚ} (hc : 0 ≤ c) (h : Within u η y x) : Within u (c * η) (c * y) (c * x) := by
  have bound := mul_le_mul_of_nonneg_left h hc
  rw [Within, ← mul_sub, abs_mul, abs_of_nonneg hc]
  linarith

theorem mono (h : Within u η y x) (hx : 0 ≤ x) (huv : u ≤ v) (hηθ : η ≤ θ) : Within v θ y x := by
  have bound := mul_le_mul_of_nonneg_right huv hx
  unfold Within at *
  linarith

end Within

namespace Precision

theorem unitsPerOne_pos (p : Precision) : 0 < p.unitsPerOne := Nat.two_pow_pos p.unitBits

/-- The relative error of one rounding. -/
def roundoff (p : Precision) : ℚ := 1 / (2 * p.hidden - 1)

/-- The least positive value. -/
def least (p : Precision) : ℚ := 1 / p.unitsPerOne

theorem roundoff_pos (p : Precision) : 0 < p.roundoff := by cases p <;> norm_num [roundoff, hidden, fractionBits]

theorem least_pos (p : Precision) : 0 < p.least := by
  have one : (0 : ℚ) < p.unitsPerOne := by exact_mod_cast p.unitsPerOne_pos
  unfold least
  positivity

end Precision

/-! ### Nearest patterns -/

namespace Binary

variable {p : Precision} {a b : Binary p} {x y : ℚ}

/-- The number that a finite pattern stands for, without its sign. -/
def amount (a : Binary p) : ℚ := a.units / p.unitsPerOne

theorem amount_nonneg (a : Binary p) : 0 ≤ a.amount := by unfold amount; positivity

/-- **The pattern is the finite one nearest to a number** that is not negative. -/
structure Nearest (a : Binary p) (x : ℚ) : Prop where
  sign : a.negative = false
  finite : a.magnitude < p.infinity
  rounds : p.Rounds (x * p.unitsPerOne) a.magnitude

theorem one_pos (p : Precision) : (0 : ℚ) < p.unitsPerOne := by exact_mod_cast p.unitsPerOne_pos

theorem units_eq (a : Binary p) : (p.units a.magnitude : ℚ) = a.amount * p.unitsPerOne :=
  (div_mul_cancel₀ _ (one_pos p).ne').symm

namespace Nearest

/-- The error of a nearest pattern, as a number. -/
theorem error (h : a.Nearest x) : 2 * p.hidden * |a.amount - x| ≤ max a.amount (p.hidden * p.least) := by
  have one := one_pos p
  have units := h.rounds.error
  have hidden : (p.hidden : ℚ) = p.hidden * p.least * p.unitsPerOne := by
    rw [Precision.least, mul_assoc, one_div_mul_cancel one.ne', mul_one]
  rw [a.units_eq, ← sub_mul, abs_mul, abs_of_pos one, ← mul_assoc] at units
  nth_rewrite 2 [hidden] at units
  rw [← max_mul_of_nonneg _ _ one.le] at units
  exact le_of_mul_le_mul_right units one

/-- Above the least values the error is relative. -/
theorem within_of_le (h : a.Nearest x) (large : p.hidden * p.least ≤ a.amount) : Within p.roundoff 0 a.amount x := by
  have hidden : (1 : ℚ) < 2 * p.hidden := by exact_mod_cast (show 1 < 2 * p.hidden by cases p <;> decide)
  have error := h.error
  rw [max_eq_left large] at error
  have upper := (abs_le.1 (le_refl |a.amount - x|)).2
  rw [Within, add_zero, Precision.roundoff, one_div_mul_eq_div, le_div_iff₀ (by linarith)]
  linarith

/-- **What is nearest is near.** -/
theorem within (h : a.Nearest x) (hx : 0 ≤ x) : Within p.roundoff (p.least / 2) a.amount x := by
  rcases le_total (p.hidden * p.least) a.amount with large | small
  · exact (h.within_of_le large).mono hx le_rfl (by linarith [p.least_pos])
  · have error := h.error
    have hidden : (0 : ℚ) < p.hidden := by exact_mod_cast p.hidden_pos
    have half : |a.amount - x| ≤ p.least / 2 := by
      rw [max_eq_right small] at error
      have scaled : p.hidden * |a.amount - x| ≤ p.hidden * (p.least / 2) := by linarith
      exact le_of_mul_le_mul_left scaled hidden
    have nonneg := mul_nonneg p.roundoff_pos.le hx
    unfold Within
    linarith

/-- What is nearest to a number that a pattern stands for is that pattern. -/
theorem unique (ha : a.Nearest x) (hb : b.Nearest x) : a = b :=
  ext (ha.sign.trans hb.sign.symm) (ha.rounds.unique hb.rounds)

/-- It stands for the number itself, if any magnitude does. -/
theorem amount_eq (h : a.Nearest x) {m : Nat} (units : (p.units m : ℚ) = x * p.unitsPerOne) : a.amount = x := by
  have same : a.magnitude = m := h.rounds.unique (units ▸ Precision.rounds_units m)
  have value := a.units_eq
  rw [same, units] at value
  exact (mul_right_cancel₀ (one_pos p).ne' value).symm

/-- It stands for no less than a magnitude that is no more than the number. -/
theorem le_amount (h : a.Nearest x) {m : Nat} (units : (p.units m : ℚ) ≤ x * p.unitsPerOne) :
    (p.units m : ℚ) ≤ a.amount * p.unitsPerOne := by
  rw [← a.units_eq]
  exact_mod_cast p.units_strictMono.monotone ((Precision.rounds_units m).mono h.rounds units)

end Nearest

/-! ### Operations -/

/-- Rounding gives the nearest pattern, or infinity. -/
theorem nearest_nearest {n d : Nat} (hd : 0 < d) (hx : (n / d : ℚ) = x * p.unitsPerOne)
    (finite : (nearest false n d : Binary p).isInfinite = false) : (nearest false n d : Binary p).Nearest x := by
  have rounds := hx ▸ p.rounds_round n hd
  have cut : (nearest false n d : Binary p).magnitude = _ := p.round_eq hd (hx ▸ rounds)
  have notInfinite : (nearest false n d : Binary p).magnitude ≠ p.infinity := by simpa [isInfinite] using finite
  refine ⟨rfl, Nat.lt_of_le_of_ne (p.round_le_infinity n d) notInfinite, ?_⟩
  rw [cut] at notInfinite ⊢
  rwa [Nat.min_eq_right (by omega)]

/-- Rounding does not reach infinity if a finite magnitude is the nearest one. -/
theorem isInfinite_nearest {n d m : Nat} (hd : 0 < d) (hm : m < p.infinity) (h : p.Rounds (n / d) m) :
    (nearest false n d : Binary p).isInfinite = false := by
  have magnitude : (nearest false n d : Binary p).magnitude = _ := p.round_eq hd h
  rw [isInfinite, magnitude, beq_eq_false_iff_ne]
  omega

theorem isNaN_of_finite (h : a.magnitude < p.infinity) : a.isNaN = false := decide_eq_false (by omega)

theorem isInfinite_of_finite (h : a.magnitude < p.infinity) : a.isInfinite = false := beq_eq_false_iff_ne.2 h.ne

/-- The product of finite patterns without a sign. -/
theorem mul_of_finite (ha : a.magnitude < p.infinity) (hb : b.magnitude < p.infinity) (sa : a.negative = false)
    (sb : b.negative = false) : a.mul b = nearest false (a.units * b.units) p.unitsPerOne := by
  rw [mul, isNaN_of_finite ha, isNaN_of_finite hb, isInfinite_of_finite ha, isInfinite_of_finite hb, sa, sb]
  rfl

/-- The quotient of finite patterns without a sign. -/
theorem div_of_finite (ha : a.magnitude < p.infinity) (hb : b.magnitude < p.infinity) (sa : a.negative = false)
    (sb : b.negative = false) (positive : b.isZero = false) :
    a.div b = nearest false (a.units * p.unitsPerOne) b.units := by
  rw [div, isNaN_of_finite ha, isNaN_of_finite hb, isInfinite_of_finite ha, isInfinite_of_finite hb, positive, sa, sb]
  rfl

/-- The exact product, in units. -/
theorem product_units (a b : Binary p) :
    ((a.units * b.units : Nat) / p.unitsPerOne : ℚ) = a.amount * b.amount * p.unitsPerOne := by
  have one := (one_pos p).ne'
  rw [amount, amount]
  push_cast
  field_simp

/-- The exact quotient, in units. -/
theorem quotient_units (a b : Binary p) :
    ((a.units * p.unitsPerOne : Nat) / b.units : ℚ) = a.amount / b.amount * p.unitsPerOne := by
  have one := (one_pos p).ne'
  rw [amount, amount]
  push_cast
  field_simp

end Binary

end Dimensional
