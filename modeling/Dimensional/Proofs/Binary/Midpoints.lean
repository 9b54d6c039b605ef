import Dimensional.Proofs.Binary.FewestDigits
import Dimensional.Proofs.Binary.Separation

/-!
# Shortest decimals near a midpoint

A number that is slightly off rounds to the same magnitude, as long as no midpoint lies between.  The decimal of a
grid that is nearest to a value is far from the midpoints around it unless the grid is as coarse as the gaps; and
then the decimal has few digits, so that in single precision it is far from the midpoints as well, or is one.

* `Precision.Rounds.of_sides` — the sides of the midpoints decide;
* `Precision.midpoint`, `Precision.gaps` — midpoints in half steps, and how the gaps grow;
* `Precision.digits_of_coarse` — what is near to a midpoint has few digits;
* `Precision.near_midpoint` — it is the midpoint, or one of the exceptions.
-/

namespace Dimensional.Precision

variable {p : Precision} {m : Nat}

/-! ### Sides -/

/-- Both numbers are on the same side of a third, or both are equal to it. -/
def SameSide (y x b : ℚ) : Prop := (y < b ↔ x < b) ∧ (b < y ↔ b < x)

/-- **The sides of the midpoints decide** to which magnitude a number is rounded. -/
theorem Rounds.of_sides {x y : ℚ} (h : p.Rounds x m) (low : SameSide (2 * y) (2 * x) (p.units (m - 1) + p.units m))
    (high : SameSide (2 * y) (2 * x) (p.units m + p.units (m + 1))) : p.Rounds y m :=
  ⟨not_lt.1 fun below => not_lt.2 h.low (low.1.1 below), not_lt.1 fun above => not_lt.2 h.high (high.2.1 above),
    fun odd => ⟨low.2.2 (h.odd odd).1, high.1.2 (h.odd odd).2⟩⟩

/-- What is far from a number leaves its side with no small error. -/
theorem sameSide_of_far {x y b : ℚ} (hb : 0 ≤ b) (error : 2 ^ 54 * |y - x| ≤ 5 * x)
    (far : 6 * b < 2 ^ 54 * |x - b|) : SameSide y x b := by
  obtain ⟨lower, upper⟩ := abs_le.1 (le_refl |y - x|)
  rcases lt_or_ge x b with below | above
  · rw [abs_of_neg (by linarith)] at far
    exact ⟨iff_of_true (by linarith) below, iff_of_false (by linarith) (by linarith)⟩
  · rw [abs_of_nonneg (by linarith)] at far
    have strict : b < x := by linarith
    exact ⟨iff_of_false (by linarith) (by linarith), iff_of_true (by linarith) strict⟩

/-! ### Midpoints -/

/-- **A midpoint is an odd number of half steps.** -/
theorem midpoint (p : Precision) (m : Nat) :
    ∃ k s, m = k * p.hidden + s ∧ (k = 0 ∨ p.hidden ≤ s) ∧ s < 2 * p.hidden ∧
      p.units m + p.units (m + 1) = (2 * s + 1) * 2 ^ k := by
  obtain ⟨k, s, rfl, few, many⟩ := p.exists_steps m
  refine ⟨k, s, rfl, few, many, ?_⟩
  rw [p.units_step few many.le, p.units_succ few many]
  ring

/-- **The gap above a magnitude** is that below it, or twice as large. -/
theorem gaps (p : Precision) (h : m ≠ 0) :
    (p.units m - p.units (m - 1) : ℚ) ≤ p.units (m + 1) - p.units m ∧
      (p.units (m + 1) - p.units m : ℚ) ≤ 2 * (p.units m - p.units (m - 1)) := by
  obtain ⟨k, s, rfl, few, many⟩ := p.exists_steps m
  have pos := p.hidden_pos
  have positive : 0 < s := by
    refine Nat.pos_of_ne_zero ?_
    rintro rfl
    rw [few.resolve_right (by omega), Nat.zero_mul] at h
    exact h rfl
  have own : (p.units (k * p.hidden + s) : ℚ) = s * 2 ^ k := by exact_mod_cast p.units_step few many.le
  have next : (p.units (k * p.hidden + s + 1) : ℚ) = (s + 1) * 2 ^ k := by exact_mod_cast p.units_succ few many
  have step : (0 : ℚ) < 2 ^ k := by positivity
  obtain equal | ⟨-, rfl, half⟩ := p.units_pred few many.le positive
  · have previous : (p.units (k * p.hidden + s - 1) : ℚ) = (s - 1) * 2 ^ k := by
      rw [equal]
      push_cast [positive]
      rfl
    rw [own, next, previous]
    constructor <;> linarith
  · have previous : 2 * (p.units (k * p.hidden + p.hidden - 1) : ℚ) = (2 * p.hidden - 1) * 2 ^ k := by
      have whole : 1 ≤ 2 * p.hidden := by omega
      rw [← Nat.cast_ofNat, ← Nat.cast_mul, half]
      push_cast [whole]
      rfl
    rw [own, next]
    constructor <;> linarith

/-! ### Digits -/

section

variable {D : Nat} {step : ℚ} (h : m ≠ 0) (positive : 0 < step) (rounds : Precision.single.Rounds (D * step) m)
  (nearest : ∀ other : Nat, Precision.single.Rounds (other * step) m →
    |(D : ℚ) * step - Precision.single.units m| ≤ |(other : ℚ) * step - Precision.single.units m|)

include h positive rounds

/-- On a grid as coarse as the gaps a decimal has few digits. -/
theorem digits_of_coarse (coarse : (2 ^ 20 - 1) * (single.units m - single.units (m - 1) : ℚ) < 2 ^ 20 * step) :
    D ≤ Separation.mostDigits := by
  have small := (single.units_le_gaps h).1
  obtain ⟨-, most⟩ := single.gaps h
  have hidden : (single.hidden : ℚ) = 2 ^ 23 := by norm_num [Precision.hidden, fractionBits]
  rw [hidden] at small
  have high := rounds.high
  have bound : (D : ℚ) * step ≤ (2 ^ 24 + 64) * step := by linarith
  have count := le_of_mul_le_mul_right bound positive
  exact_mod_cast count

include nearest

/-- What is near to the midpoint above its magnitude is on a coarse grid. -/
theorem coarse_of_near_above (near : 2 ^ 54 * |2 * (D * step) - (single.units m + single.units (m + 1))| ≤
      6 * (single.units m + single.units (m + 1))) :
    (2 ^ 20 - 1) * (single.units m - single.units (m - 1) : ℚ) < 2 ^ 20 * step := by
  have own := rounds_units (p := .single) m
  have small := (single.units_le_gaps h).1
  obtain ⟨least, most⟩ := single.gaps h
  have gap : (single.units (m - 1) : ℚ) < single.units m := by
    exact_mod_cast single.units_strictMono (show m - 1 < m by omega)
  have hidden : (single.hidden : ℚ) = 2 ^ 23 := by norm_num [Precision.hidden, fractionBits]
  rw [hidden] at small
  obtain ⟨lower, upper⟩ := abs_le.1 (le_refl |2 * (D * step) - (single.units m + single.units (m + 1) : ℚ)|)
  have slack : 2 ^ 26 * |2 * (D * step) - (single.units m + single.units (m + 1) : ℚ)| ≤
      single.units m - single.units (m - 1) := by linarith
  -- the number before it on the grid would be nearer to the value
  by_contra fine
  rw [not_lt] at fine
  have some : D ≠ 0 := by
    rintro rfl
    rw [Nat.cast_zero, zero_mul] at lower slack
    linarith [Nat.cast_nonneg (α := ℚ) (single.units (m - 1))]
  obtain ⟨other, rfl⟩ := Nat.exists_eq_succ_of_ne_zero some
  have previous : ((other.succ : Nat) : ℚ) * step = other * step + step := by push_cast; ring
  rw [previous] at slack lower upper rounds nearest
  have inWindow : single.Rounds (other * step) m := by
    rcases le_or_gt (single.units m : ℚ) (other * step) with above | below
    · exact own.between rounds above (by linarith)
    · refine rounds_of_near ?_ ?_ <;> rw [abs_of_neg (by linarith)] <;> linarith
  have nearer := nearest other inWindow
  rw [abs_of_nonneg (by linarith)] at nearer
  rcases le_or_gt (single.units m : ℚ) (other * step) with above | below
  · rw [abs_of_nonneg (by linarith)] at nearer
    linarith
  · rw [abs_of_neg (by linarith)] at nearer
    linarith

/-- And so is what is near to the midpoint below it. -/
theorem coarse_of_near_below (near : 2 ^ 54 * |2 * (D * step) - (single.units (m - 1) + single.units m)| ≤
      6 * (single.units (m - 1) + single.units m)) :
    (2 ^ 20 - 1) * (single.units m - single.units (m - 1) : ℚ) < 2 ^ 20 * step := by
  have own := rounds_units (p := .single) m
  have small := (single.units_le_gaps h).1
  obtain ⟨least, most⟩ := single.gaps h
  have gap : (single.units (m - 1) : ℚ) < single.units m := by
    exact_mod_cast single.units_strictMono (show m - 1 < m by omega)
  have hidden : (single.hidden : ℚ) = 2 ^ 23 := by norm_num [Precision.hidden, fractionBits]
  rw [hidden] at small
  obtain ⟨lower, upper⟩ := abs_le.1 (le_refl |2 * (D * step) - (single.units (m - 1) + single.units m : ℚ)|)
  have slack : 2 ^ 26 * |2 * (D * step) - (single.units (m - 1) + single.units m : ℚ)| ≤
      single.units m - single.units (m - 1) := by linarith
  -- the number behind it on the grid would be nearer to the value
  by_contra fine
  rw [not_lt] at fine
  have next : ((D + 1 : Nat) : ℚ) * step = D * step + step := by push_cast; ring
  have inWindow : single.Rounds ((D + 1 : Nat) * step) m := by
    rw [next]
    rcases le_or_gt (D * step + step) (single.units m : ℚ) with below | above
    · exact rounds.between own (by linarith) below
    · refine rounds_of_near ?_ ?_ <;> rw [abs_of_pos (by linarith)] <;> linarith
  have nearer := nearest (D + 1) inWindow
  rw [next, abs_of_neg (by linarith)] at nearer
  rcases le_or_gt (D * step + step) (single.units m : ℚ) with below | above
  · rw [abs_of_nonpos (by linarith)] at nearer
    linarith
  · rw [abs_of_pos (by linarith)] at nearer
    linarith

end

theorem unitsPerOne_single : (single.unitsPerOne : ℚ) = 2 ^ 149 := by
  rw [unitsPerOne, Nat.cast_pow, Nat.cast_ofNat]
  rfl

/-- **A decimal of few digits that is near to a midpoint is that midpoint**, or one of the exceptions. -/
theorem near_midpoint (finite : m < single.infinity) {D : Nat} {e : ℤ} (some : 0 < D)
    (few : D ≤ Separation.mostDigits)
    (near : 2 ^ 54 * |2 * (D * single.gridStep e) - (single.units m + single.units (m + 1))| ≤
      6 * (single.units m + single.units (m + 1))) :
    2 * (D * single.gridStep e) = single.units m + single.units (m + 1) ∨
      ∃ k i M : Nat, single.units m + single.units (m + 1) = M * 2 ^ k ∧ e = (i : ℤ) - 60 ∧
        (k, i, D, M) ∈ Separation.exceptions := by
  obtain ⟨k, s, place, hidden, many, value⟩ := single.midpoint m
  have bits : single.hidden = 2 ^ 23 := rfl
  have infinity : single.infinity = 255 * single.hidden := rfl
  have low : k < 254 := by
    rcases hidden with rfl | large
    · decide
    · have steps : (k + 1) * single.hidden < 255 * single.hidden := by rw [Nat.succ_mul]; omega
      have binades := Nat.lt_of_mul_lt_mul_right steps
      omega
  have units : 2 * (D * single.gridStep e) = (D : ℚ) * 10 ^ e * 2 ^ 150 := by
    rw [gridStep, unitsPerOne_single]
    ring
  have half : (single.units m + single.units (m + 1) : ℚ) = ((2 * s + 1 : Nat) : ℚ) * 2 ^ k := by exact_mod_cast value
  rw [units, half] at near
  rcases Separation.apart low some few (by omega) (by omega) (by omega) near with exact | ⟨i, rfl, exception⟩
  · exact .inl (by rw [units, half, exact])
  · exact .inr ⟨k, i, 2 * s + 1, value, rfl, exception⟩

end Dimensional.Precision
