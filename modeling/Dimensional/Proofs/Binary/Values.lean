import Dimensional.Binary.Basic
import Mathlib.Algebra.Order.Field.Rat
import Mathlib.Order.WithBotTop
import Mathlib.Data.Nat.Cast.Order.Field
import Mathlib.Tactic.Linarith
import Mathlib.Tactic.Positivity

/-!
# The values of floating-point patterns

Magnitudes are counted off in steps: `s` steps of `2 ^ k` units each, where `s` has its hidden bit unless `k` is
zero.  One magnitude further is one step further, so that the values grow with the magnitudes, from zero to
the infinities.

* `Precision.units_step` — the units of a magnitude that is given by its steps;
* `Precision.units_succ`, `Precision.units_pred` — those of its neighbours;
* `Precision.units_strictMono` — a greater magnitude has more units;
* `Binary.exact_lt_iff`, `Binary.exact_eq_iff` — the order of the patterns is that of their values.
-/

namespace Dimensional

namespace Precision

variable (p : Precision)

/-! ### Steps -/

/-- The units of a magnitude that is given by its exponent and its fraction. -/
theorem units_fields (exponent : Nat) {fraction : Nat} (h : fraction < p.hidden) :
    p.units (exponent * p.hidden + fraction) =
      if exponent = 0 then fraction else (p.hidden + fraction) * 2 ^ (exponent - 1) := by
  have quotient : (exponent * p.hidden + fraction) / p.hidden = exponent := by
    rw [Nat.mul_comm, Nat.mul_add_div p.hidden_pos, Nat.div_eq_of_lt h, Nat.add_zero]
  have remainder : (exponent * p.hidden + fraction) % p.hidden = fraction := by
    rw [Nat.mul_comm, Nat.mul_add_mod, Nat.mod_eq_of_lt h]
  rw [units, quotient, remainder]

/-- **The units of a magnitude that is given by its steps.** The last step may be the first one of the next
exponent. -/
theorem units_step {k s : Nat} (low : k = 0 ∨ p.hidden ≤ s) (high : s ≤ 2 * p.hidden) :
    p.units (k * p.hidden + s) = s * 2 ^ k := by
  have pos := p.hidden_pos
  rcases Nat.lt_or_ge s p.hidden with below | above
  · -- without the hidden bit
    obtain rfl : k = 0 := low.resolve_right (Nat.not_le.2 below)
    rw [p.units_fields 0 below, if_pos rfl, Nat.pow_zero, Nat.mul_one]
  rcases Nat.eq_or_lt_of_le high with rfl | inside
  · -- the first step of the next exponent
    have split : k * p.hidden + 2 * p.hidden = (k + 2) * p.hidden + 0 := by rw [Nat.add_mul, Nat.add_zero]
    rw [split, p.units_fields (k + 2) pos, if_neg (by omega), Nat.add_zero]
    show p.hidden * 2 ^ (k + 1) = _
    rw [Nat.pow_succ', ← Nat.mul_assoc, Nat.mul_comm p.hidden 2]
  · have split : k * p.hidden + s = (k + 1) * p.hidden + (s - p.hidden) := by rw [Nat.succ_mul]; omega
    rw [split, p.units_fields (k + 1) (by omega), if_neg (by omega), Nat.add_sub_cancel, Nat.add_sub_cancel' above]

/-- Every magnitude is given by its steps. -/
theorem exists_steps (m : Nat) :
    ∃ k s, m = k * p.hidden + s ∧ (k = 0 ∨ p.hidden ≤ s) ∧ s < 2 * p.hidden := by
  have pos := p.hidden_pos
  have parts := Nat.div_add_mod' m p.hidden
  have fraction := Nat.mod_lt m pos
  cases exponent : m / p.hidden with
  | zero => exact ⟨0, m, by omega, .inl rfl, by rw [exponent] at parts; omega⟩
  | succ k =>
    rw [exponent, Nat.succ_mul] at parts
    exact ⟨k, p.hidden + m % p.hidden, by omega, .inr (by omega), by omega⟩

/-- One magnitude further is one step further. -/
theorem units_succ {k s : Nat} (low : k = 0 ∨ p.hidden ≤ s) (high : s < 2 * p.hidden) :
    p.units (k * p.hidden + s + 1) = (s + 1) * 2 ^ k :=
  p.units_step (low.imp_right Nat.le_succ_of_le) high

/-- It is no less than one step further where the steps end. -/
theorem le_units_succ {k s : Nat} (low : k = 0 ∨ p.hidden ≤ s) (high : s ≤ 2 * p.hidden) :
    (s + 1) * 2 ^ k ≤ p.units (k * p.hidden + s + 1) := by
  rcases Nat.lt_or_eq_of_le high with inside | rfl
  · exact (p.units_succ low inside).ge
  · -- the steps are twice as large from here on
    have pos := p.hidden_pos
    have larger := p.units_succ (k := k + 1) (s := p.hidden) (.inr (Nat.le_refl _)) (by omega)
    have place : (k + 1) * p.hidden + p.hidden = k * p.hidden + 2 * p.hidden := by
      rw [Nat.succ_mul, Nat.add_assoc, Nat.two_mul]
    rw [place] at larger
    rw [larger, Nat.pow_succ', ← Nat.mul_assoc]
    exact Nat.mul_le_mul_right _ (by omega)

/-- One magnitude back is one step back, or half a step where the steps of a hidden bit begin. -/
theorem units_pred {k s : Nat} (low : k = 0 ∨ p.hidden ≤ s) (high : s ≤ 2 * p.hidden) (positive : 0 < s) :
    p.units (k * p.hidden + s - 1) = (s - 1) * 2 ^ k ∨
      (k ≠ 0 ∧ s = p.hidden ∧ 2 * p.units (k * p.hidden + s - 1) = (2 * p.hidden - 1) * 2 ^ k) := by
  have pos := p.hidden_pos
  by_cases inside : k = 0 ∨ p.hidden ≤ s - 1
  · refine .inl ?_
    rw [Nat.add_sub_assoc positive, p.units_step inside (by omega)]
  · obtain ⟨k, rfl⟩ : ∃ j, k = j + 1 := ⟨k - 1, by omega⟩
    have first : s = p.hidden := by omega
    have place : (k + 1) * p.hidden + s - 1 = k * p.hidden + (2 * p.hidden - 1) := by rw [Nat.succ_mul]; omega
    have back := p.units_step (k := k) (s := 2 * p.hidden - 1) (.inr (by omega)) (by omega)
    refine .inr ⟨Nat.succ_ne_zero k, first, ?_⟩
    rw [place, back, Nat.pow_succ', Nat.mul_left_comm]

/-- **A greater magnitude has more units.** -/
theorem units_strictMono : StrictMono p.units := by
  refine strictMono_nat_of_lt_succ fun m => ?_
  obtain ⟨k, s, rfl, low, high⟩ := p.exists_steps m
  rw [p.units_succ low high, p.units_step low high.le]
  exact Nat.mul_lt_mul_of_pos_right (Nat.lt_succ_self s) (Nat.two_pow_pos k)

@[simp] theorem units_zero : p.units 0 = 0 := by cases p <;> decide

theorem units_pos {m : Nat} : 0 < p.units m ↔ 0 < m := by
  rw [← p.units_zero, p.units_strictMono.lt_iff_lt, p.units_zero]

end Precision

namespace Binary

variable {p : Precision} {a b : Binary p}

/-! ### Order -/

theorem signedUnits_lt_iff : a.signedUnits < b.signedUnits ↔ a.orderKey < b.orderKey := by
  have lt := p.units_strictMono.lt_iff_lt (a := a.magnitude) (b := b.magnitude)
  have gt := p.units_strictMono.lt_iff_lt (a := b.magnitude) (b := a.magnitude)
  have left := p.units_pos (m := a.magnitude)
  have right := p.units_pos (m := b.magnitude)
  unfold signedUnits orderKey units
  cases a.negative <;> cases b.negative <;> simp only [Bool.false_eq_true, if_false, if_true] <;> omega

/-- The value of a pattern that is a number: a rational number, or an infinity. -/
def exact (a : Binary p) : WithBot (WithTop ℚ) :=
  if a.isInfinite then if a.negative then ⊥ else ⊤
  else (((a.signedUnits : ℚ) / p.unitsPerOne : ℚ) : WithTop ℚ)

theorem exact_of_infinite (h : a.isInfinite = true) : a.exact = if a.negative then ⊥ else ⊤ := by
  rw [exact, if_pos h]

theorem exact_of_finite (h : a.isInfinite = false) :
    a.exact = (((a.signedUnits : ℚ) / p.unitsPerOne : ℚ) : WithTop ℚ) := by
  rw [exact, h]
  rfl

theorem bot_lt_exact (h : a.isInfinite = false) : ⊥ < a.exact := by
  rw [exact_of_finite h]
  exact WithBot.bot_lt_coe _

theorem exact_lt_top (h : a.isInfinite = false) : a.exact < ⊤ := by
  rw [exact_of_finite h]
  exact WithBot.coe_lt_coe.2 (WithTop.coe_lt_top _)

/-- The place of an infinity in the order. -/
theorem orderKey_of_infinite (h : a.isInfinite = true) :
    a.orderKey = if a.negative then -(p.infinity : Int) else p.infinity := by
  rw [orderKey, beq_iff_eq.1 h]

/-- All other numbers are between the infinities. -/
theorem orderKey_of_finite (number : a.isNaN = false) (h : a.isInfinite = false) :
    -(p.infinity : Int) < a.orderKey ∧ a.orderKey < p.infinity := by
  have le : a.magnitude ≤ p.infinity := by simpa [isNaN] using number
  have ne : a.magnitude ≠ p.infinity := by simpa [isInfinite] using h
  unfold orderKey
  split <;> omega

/-- **The order of the patterns is that of their values.** -/
theorem exact_lt_iff (ha : a.isNaN = false) (hb : b.isNaN = false) :
    a.exact < b.exact ↔ a.orderKey < b.orderKey := by
  have pos := p.infinity_pos
  cases left : a.isInfinite <;> cases right : b.isInfinite
  · have one : (0 : ℚ) < p.unitsPerOne := by exact_mod_cast Nat.two_pow_pos p.unitBits
    rw [exact_of_finite left, exact_of_finite right, WithBot.coe_lt_coe, WithTop.coe_lt_coe,
      div_lt_div_iff_of_pos_right one, Int.cast_lt, signedUnits_lt_iff]
  · have between := orderKey_of_finite ha left
    rw [exact_of_infinite right, orderKey_of_infinite right]
    cases b.negative with
    | false => exact iff_of_true (exact_lt_top left) between.2
    | true => exact iff_of_false not_lt_bot between.1.not_gt
  · have between := orderKey_of_finite hb right
    rw [exact_of_infinite left, orderKey_of_infinite left]
    cases a.negative with
    | false => exact iff_of_false not_top_lt between.2.not_gt
    | true => exact iff_of_true (bot_lt_exact right) between.1
  · rw [exact_of_infinite left, exact_of_infinite right, orderKey_of_infinite left, orderKey_of_infinite right]
    cases a.negative <;> cases b.negative <;> simp
    omega

theorem exact_eq_iff (ha : a.isNaN = false) (hb : b.isNaN = false) :
    a.exact = b.exact ↔ a.orderKey = b.orderKey := by
  rw [le_antisymm_iff, le_antisymm_iff (a := a.orderKey)]
  simp only [← not_lt, exact_lt_iff ha hb, exact_lt_iff hb ha]

end Binary

end Dimensional
