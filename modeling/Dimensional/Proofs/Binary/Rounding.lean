import Dimensional.Binary.Arithmetic
import Dimensional.Proofs.Binary.Values
import Mathlib.Tactic.Ring

/-!
# Rounding to the nearest magnitude

A magnitude is the nearest one to a number of units if that number lies between the midpoints to the two
neighbours of the magnitude, and on a midpoint only if the magnitude is even.  There is one such magnitude,
and rounding finds it.

* `Precision.Rounds.mono`, `Precision.Rounds.unique` — a number has one nearest magnitude, a greater one no smaller;
* `Precision.rounds_round` — the magnitude that rounding computes, before it is cut off at infinity;
* `Precision.round_eq` — rounding gives the nearest magnitude.
-/

namespace Dimensional

/-! ### Whole numbers -/

/-- The rounded quotient is off by half at most, and by half only if it is even. -/
theorem roundHalfEven_near (n : Nat) {d : Nat} (hd : 0 < d) :
    (2 * roundHalfEven n d : ℚ) ≤ 2 * (n / d) + 1 ∧ (2 * (n / d) : ℚ) ≤ 2 * roundHalfEven n d + 1 ∧
      (roundHalfEven n d % 2 = 1 →
        (2 * roundHalfEven n d : ℚ) < 2 * (n / d) + 1 ∧ (2 * (n / d) : ℚ) < 2 * roundHalfEven n d + 1) := by
  have positive : (0 : ℚ) < d := by exact_mod_cast hd
  have parts : (n / d : ℚ) = (n / d : Nat) + (n % d : Nat) / d := by
    rw [add_div' _ _ _ positive.ne']
    congr 1
    exact_mod_cast (Nat.div_add_mod' n d).symm
  have below : 2 * (n % d) < d ↔ 2 * ((n % d : Nat) / d : ℚ) < 1 := by
    rw [← mul_div_assoc, div_lt_one positive]
    norm_cast
  have above : d < 2 * (n % d) ↔ 1 < 2 * ((n % d : Nat) / d : ℚ) := by
    rw [← mul_div_assoc, one_lt_div positive]
    norm_cast
  have nonneg : 0 ≤ ((n % d : Nat) / d : ℚ) := by positivity
  have small : ((n % d : Nat) / d : ℚ) < 1 := (div_lt_one positive).2 (by exact_mod_cast Nat.mod_lt n hd)
  rw [parts]
  unfold roundHalfEven
  simp only [below, above]
  generalize n / d = q
  generalize ((n % d : Nat) / d : ℚ) = rest at nonneg small
  split
  · next down => exact ⟨by linarith, by linarith, fun _ => ⟨by linarith, by linarith⟩⟩
  · split
    · next up =>
      push_cast
      exact ⟨by linarith, by linarith, fun _ => ⟨by linarith, by linarith⟩⟩
    · -- a tie
      next notDown notUp =>
      rcases Nat.mod_two_eq_zero_or_one q with even | odd
      · rw [even, Nat.add_zero]
        exact ⟨by linarith, by linarith, fun h => by omega⟩
      · rw [odd]
        push_cast
        exact ⟨by linarith, by linarith, fun h => by omega⟩

namespace Precision

variable (p : Precision)

/-- **The magnitude is the nearest one** to `x` units.  Of two that are equally near, it is the even one. -/
structure Rounds (x : ℚ) (magnitude : Nat) : Prop where
  low : (p.units (magnitude - 1) + p.units magnitude : ℚ) ≤ 2 * x
  high : 2 * x ≤ p.units magnitude + p.units (magnitude + 1)
  odd : magnitude % 2 = 1 →
    (p.units (magnitude - 1) + p.units magnitude : ℚ) < 2 * x ∧
      2 * x < p.units magnitude + p.units (magnitude + 1)

variable {p}

/-! ### One nearest magnitude -/

/-- A greater number has no smaller magnitude nearest to it. -/
theorem Rounds.mono {x y : ℚ} {m n : Nat} (hx : p.Rounds x m) (hy : p.Rounds y n) (h : x ≤ y) : m ≤ n := by
  by_contra beyond
  rw [Nat.not_le] at beyond
  have previous : (p.units n : ℚ) ≤ p.units (m - 1) := by
    exact_mod_cast p.units_strictMono.monotone (Nat.le_sub_one_of_lt beyond)
  have next : (p.units (n + 1) : ℚ) ≤ p.units m := by
    exact_mod_cast p.units_strictMono.monotone (Nat.succ_le_of_lt beyond)
  have high := hy.high
  have low := hx.low
  rcases Nat.mod_two_eq_zero_or_one n with even | odd
  · rcases Nat.mod_two_eq_zero_or_one m with even' | odd'
    · -- there is an odd one between them
      have apart : n + 1 < m := by omega
      have strict : (p.units (n + 1) : ℚ) < p.units m := by exact_mod_cast p.units_strictMono apart
      linarith
    · have strict := (hx.odd odd').1
      linarith
  · have strict := (hy.odd odd).2
    linarith

/-- **A number has one nearest magnitude.** -/
theorem Rounds.unique {x : ℚ} {m n : Nat} (hm : p.Rounds x m) (hn : p.Rounds x n) : m = n :=
  Nat.le_antisymm (hm.mono hn le_rfl) (hn.mono hm le_rfl)

/-- A magnitude is the nearest one to its own units. -/
theorem rounds_units (m : Nat) : p.Rounds (p.units m) m := by
  have previous : (p.units (m - 1) : ℚ) ≤ p.units m := by
    exact_mod_cast p.units_strictMono.monotone (Nat.sub_le m 1)
  have next : (p.units m : ℚ) < p.units (m + 1) := by
    exact_mod_cast p.units_strictMono (Nat.lt_succ_self m)
  refine ⟨by linarith, by linarith, fun odd => ⟨?_, by linarith⟩⟩
  have below : (p.units (m - 1) : ℚ) < p.units m := by
    exact_mod_cast p.units_strictMono (show m - 1 < m by omega)
  linarith

/-- Only zero is the nearest one to nothing. -/
theorem rounds_zero_iff {m : Nat} : p.Rounds 0 m ↔ m = 0 := by
  have own := rounds_units (p := p) 0
  rw [units_zero, Nat.cast_zero] at own
  exact ⟨fun h => h.unique own, fun h => h ▸ own⟩

/-! ### What rounding computes -/

variable (p)

/-- A number of `y` steps of `2 ^ k` units rounds to the magnitude with `s` steps if `s` is nearest to `y`. -/
theorem rounds_steps {k s : Nat} (few : k = 0 ∨ p.hidden ≤ s) (many : s ≤ 2 * p.hidden) {y : ℚ}
    (nonneg : 0 ≤ y) (above : k ≠ 0 → (p.hidden : ℚ) ≤ y)
    (low : (2 * s : ℚ) ≤ 2 * y + 1) (high : 2 * y ≤ 2 * s + 1)
    (odd : s % 2 = 1 → (2 * s : ℚ) < 2 * y + 1 ∧ 2 * y < 2 * s + 1) :
    p.Rounds (y * 2 ^ k) (k * p.hidden + s) := by
  have pos := p.hidden_pos
  have even : p.hidden % 2 = 0 := by cases p <;> decide
  have parity : (k * p.hidden + s) % 2 = s % 2 := by
    rw [Nat.add_mod, Nat.mul_mod, even, Nat.mul_zero, Nat.zero_mod, Nat.zero_add, Nat.mod_mod]
  have step : (0 : ℚ) < 2 ^ k := by positivity
  have own : (p.units (k * p.hidden + s) : ℚ) = s * 2 ^ k := by exact_mod_cast p.units_step few many
  have next : ((s + 1) * 2 ^ k : ℚ) ≤ p.units (k * p.hidden + s + 1) := by
    exact_mod_cast p.le_units_succ few many
  -- the magnitude below is one step away, or a smaller one where the number lies above the first step
  have previous : (p.units (k * p.hidden + s - 1) : ℚ) = (s - 1) * 2 ^ k ∨
      (p.units (k * p.hidden + s - 1) : ℚ) < s * 2 ^ k ∧ (s : ℚ) ≤ y ∨ k * p.hidden + s = 0 := by
    rcases Nat.eq_zero_or_pos s with rfl | positive
    · exact .inr (.inr (by rw [few.resolve_right (by omega), Nat.zero_mul]))
    obtain step | ⟨large, first, -⟩ := p.units_pred few many positive
    · refine .inl ?_
      rw [step]
      push_cast [positive]
      rfl
    · refine .inr (.inl ⟨?_, by rw [first]; exact above large⟩)
      rw [← own]
      exact_mod_cast p.units_strictMono (show k * p.hidden + s - 1 < k * p.hidden + s by omega)
  have top : 2 * (y * 2 ^ k) ≤ s * 2 ^ k + (s + 1) * 2 ^ k := by
    linarith [mul_le_mul_of_nonneg_right high step.le]
  refine ⟨?_, by rw [own]; linarith, fun h => ?_⟩
  · obtain equal | ⟨less, beyond⟩ | zero := previous
    · rw [own, equal]
      linarith [mul_le_mul_of_nonneg_right low step.le]
    · rw [own]
      linarith [mul_le_mul_of_nonneg_right beyond step.le]
    · rw [zero, Nat.zero_sub, units_zero]
      push_cast
      linarith [mul_nonneg nonneg step.le]
  · obtain ⟨strictLow, strictHigh⟩ := odd (parity.symm.trans h)
    refine ⟨?_, by rw [own]; linarith [mul_lt_mul_of_pos_right strictHigh step]⟩
    obtain equal | ⟨less, beyond⟩ | zero := previous
    · rw [own, equal]
      linarith [mul_lt_mul_of_pos_right strictLow step]
    · rw [own]
      linarith [mul_le_mul_of_nonneg_right beyond step.le]
    · rw [zero] at h
      cases h

/-- The steps in which rounding counts a number. -/
def stepBits (n d : Nat) : Nat := Nat.log2 (n / d) - p.fractionBits

/-- No number is as much as twice the steps of a hidden bit, and one that is counted in larger steps has them. -/
theorem stepBits_bounds (n : Nat) {d : Nat} (hd : 0 < d) :
    n < 2 * p.hidden * (d * 2 ^ p.stepBits n d) ∧
      (p.stepBits n d ≠ 0 → p.hidden * (d * 2 ^ p.stepBits n d) ≤ n) := by
  have weight (k : Nat) : p.hidden * (d * 2 ^ k) = d * 2 ^ (p.fractionBits + k) := by
    rw [hidden, Nat.mul_left_comm, ← Nat.pow_add]
  constructor
  · have below : n / d < 2 ^ (Nat.log2 (n / d) + 1) := Nat.lt_log2_self
    have bits : Nat.log2 (n / d) + 1 ≤ p.fractionBits + p.stepBits n d + 1 := by rw [stepBits]; omega
    have room := Nat.lt_of_lt_of_le below (Nat.pow_le_pow_right (by decide) bits)
    rw [Nat.div_lt_iff_lt_mul hd] at room
    rw [Nat.mul_assoc, weight, ← Nat.mul_assoc, Nat.mul_comm 2 d, Nat.mul_assoc, ← Nat.pow_succ', Nat.mul_comm d]
    exact room
  · intro large
    have bits : p.fractionBits + p.stepBits n d = Nat.log2 (n / d) := by rw [stepBits] at large ⊢; omega
    have nonzero : n / d ≠ 0 := by
      intro zero
      rw [stepBits, zero, Nat.log2_zero, Nat.zero_sub] at large
      exact large rfl
    rw [weight, bits, Nat.mul_comm]
    exact (Nat.le_div_iff_mul_le hd).1 (Nat.log2_self_le nonzero)

/-- **The magnitude that rounding computes is the nearest one**, before it is cut off at infinity. -/
theorem rounds_round (n : Nat) {d : Nat} (hd : 0 < d) :
    p.Rounds (n / d) (p.stepBits n d * p.hidden + roundHalfEven n (d * 2 ^ p.stepBits n d)) := by
  obtain ⟨below, above⟩ := p.stepBits_bounds n hd
  generalize p.stepBits n d = k at below above ⊢
  have step : 0 < d * 2 ^ k := Nat.mul_pos hd (Nat.two_pow_pos k)
  obtain ⟨low, high, odd⟩ := roundHalfEven_near n step
  generalize roundHalfEven n (d * 2 ^ k) = s at low high odd ⊢
  have positive : (0 : ℚ) < (d * 2 ^ k : Nat) := by exact_mod_cast step
  have less : (n / (d * 2 ^ k : Nat) : ℚ) < 2 * p.hidden := by
    rw [div_lt_iff₀ positive]
    exact_mod_cast below
  have least : k ≠ 0 → (p.hidden : ℚ) ≤ n / (d * 2 ^ k : Nat) := by
    intro large
    rw [le_div_iff₀ positive]
    exact_mod_cast above large
  have many : s ≤ 2 * p.hidden := by
    have bound : (2 * s : ℚ) < 2 * (2 * p.hidden) + 1 := by linarith
    have count : 2 * s < 2 * (2 * p.hidden) + 1 := by exact_mod_cast bound
    omega
  have few : k = 0 ∨ p.hidden ≤ s := by
    refine or_iff_not_imp_left.2 fun large => ?_
    have bound : (2 * p.hidden : ℚ) ≤ 2 * s + 1 := by linarith [least large]
    have count : 2 * p.hidden ≤ 2 * s + 1 := by exact_mod_cast bound
    omega
  have value : (n / d : ℚ) = n / (d * 2 ^ k : Nat) * 2 ^ k := by
    push_cast
    rw [← div_div, div_mul_cancel₀ _ (by positivity)]
  rw [value]
  exact p.rounds_steps few many (by positivity) least low high odd

/-- **Rounding gives the nearest magnitude**, or that of infinity. -/
theorem round_eq {n d m : Nat} (hd : 0 < d) (h : p.Rounds (n / d) m) : p.round n d = min p.infinity m := by
  rw [h.unique (p.rounds_round n hd)]
  rfl

end Precision

end Dimensional
