import Dimensional.Proofs.Quantity.Integers
import Mathlib.Algebra.BigOperators.Ring.Finset
import Mathlib.Algebra.Order.BigOperators.GroupWithZero.List
import Mathlib.Algebra.Order.Field.Rat
import Mathlib.Algebra.Order.Ring.Cast
import Mathlib.Algebra.Order.Ring.Int
import Mathlib.Tactic.Ring

/-!
# Change of units

Units are changed axis by axis: a rescaling says how many of the new unit make up one of the old.  A value
of some dimension is carried to another one by the product of the factors, each to the exponent of its
axis.  Between integers this is said without a quotient: the factors of the negative exponents stand on
the other side.

* `carries_iff` — the two sides make one ratio;
* `ratio_multiply`, `ratio_divide` — the ratio follows the algebra of exponents;
* `carries_mul`, `carries_div`, `carries_compare` and their companions — what the operations on integers make
  of carried values.
-/

namespace Dimensional

/-- How many of the new unit make up one of the old, on every axis. -/
structure Rescaling where
  factor : PerAxis Nat
  pos : ∀ axis, 0 < factor.get axis

namespace Rescaling

variable (u : Rescaling)

/-- The factors on the axes with a positive exponent. -/
def above (v : Powers) : Int :=
  (Axis.all.map fun axis => (u.factor.get axis : Int) ^ (v.get axis).toNat).prod

/-- The factors on the axes with a negative exponent. -/
def below (v : Powers) : Int :=
  (Axis.all.map fun axis => (u.factor.get axis : Int) ^ (-v.get axis).toNat).prod

/-- A value in the old units, and what it is in the new ones. -/
def Carries (v : Powers) (x y : Int) : Prop := y * u.below v = x * u.above v

/-! ### The ratio -/

/-- The value of an old unit in new ones. -/
def ratio (v : Powers) : ℚ :=
  (Axis.all.map fun axis => (u.factor.get axis : ℚ) ^ v.get axis).prod

variable {u}

theorem factor_pos (axis : Axis) : (0 : ℚ) < u.factor.get axis := Nat.cast_pos.2 (u.pos axis)

theorem factor_ne_zero (axis : Axis) : (u.factor.get axis : ℚ) ≠ 0 := (factor_pos axis).ne'

theorem ratio_pos (v : Powers) : 0 < u.ratio v := by
  refine List.prod_pos ?_
  intro a ha
  obtain ⟨axis, -, rfl⟩ := List.mem_map.1 ha
  exact zpow_pos (factor_pos axis) _

theorem ratio_one : u.ratio Powers.one = 1 := by
  refine List.prod_eq_one ?_
  intro a ha
  obtain ⟨axis, -, rfl⟩ := List.mem_map.1 ha
  rw [Powers.one, PerAxis.get_const, zpow_zero]

theorem ratio_multiply (v w : Powers) : u.ratio (v.multiply w) = u.ratio v * u.ratio w := by
  rw [ratio, ratio, ratio, ← List.prod_map_mul]
  refine congrArg List.prod (List.map_congr_left ?_)
  intro axis _
  rw [Powers.multiply, PerAxis.get_build, zpow_add₀ (factor_ne_zero axis)]

theorem ratio_divide (v w : Powers) : u.ratio (v.divide w) = u.ratio v / u.ratio w := by
  rw [eq_div_iff (ratio_pos w).ne', ratio, ratio, ratio, ← List.prod_map_mul]
  refine congrArg List.prod (List.map_congr_left ?_)
  intro axis _
  rw [Powers.divide, PerAxis.get_build, zpow_sub₀ (factor_ne_zero axis),
    div_mul_cancel₀ _ (zpow_ne_zero _ (factor_ne_zero axis))]

/-- A power over an integer is a power over a natural number on one of two sides. -/
theorem zpow_mul_below (a : ℚ) (ha : a ≠ 0) (n : Int) : a ^ n * a ^ (-n).toNat = a ^ n.toNat := by
  rcases Int.le_total 0 n with hn | hn
  · obtain ⟨m, rfl⟩ := Int.eq_ofNat_of_zero_le hn
    have hbelow : (-(m : Int)).toNat = 0 := by omega
    rw [hbelow, pow_zero, mul_one, Int.toNat_natCast, zpow_natCast]
  · obtain ⟨m, hm⟩ := Int.eq_ofNat_of_zero_le (Int.neg_nonneg.2 hn)
    have habove : n.toNat = 0 := by omega
    have hn' : n = -(m : Int) := by omega
    rw [habove, pow_zero, hm, Int.toNat_natCast, hn', zpow_neg, zpow_natCast,
      inv_mul_cancel₀ (pow_ne_zero m ha)]

theorem cast_prod (f : Axis → Nat) :
    ((Axis.all.map fun axis => (u.factor.get axis : Int) ^ f axis).prod : ℚ) =
      (Axis.all.map fun axis => (u.factor.get axis : ℚ) ^ f axis).prod := by
  rw [Int.cast_list_prod, List.map_map]
  refine congrArg List.prod (List.map_congr_left ?_)
  intro axis _
  rw [Function.comp_apply, Int.cast_pow, Int.cast_natCast]

theorem ratio_mul_below (v : Powers) : u.ratio v * (u.below v : ℚ) = u.above v := by
  rw [below, above, cast_prod, cast_prod, ratio, ← List.prod_map_mul]
  refine congrArg List.prod (List.map_congr_left ?_)
  intro axis _
  exact zpow_mul_below _ (factor_ne_zero axis) _

theorem below_pos (v : Powers) : 0 < u.below v := by
  refine List.prod_pos ?_
  intro a ha
  obtain ⟨axis, -, rfl⟩ := List.mem_map.1 ha
  exact pow_pos (Nat.cast_pos.2 (u.pos axis)) _

/-- A value is carried by the ratio. -/
theorem carries_iff {v : Powers} {x y : Int} : u.Carries v x y ↔ (y : ℚ) = x * u.ratio v := by
  have hbelow : (u.below v : ℚ) ≠ 0 := Int.cast_ne_zero.2 (below_pos v).ne'
  rw [Carries, ← Int.cast_inj (α := ℚ), Int.cast_mul, Int.cast_mul, ← ratio_mul_below, ← mul_assoc]
  exact mul_left_inj' hbelow

/-! ### Operations on integers -/

variable {v w : Powers} {x y x' y' : Int}

/-- A bare number is the same in all units. -/
theorem carries_bare (x : Int) : u.Carries Powers.one x x := by
  rw [carries_iff, ratio_one, mul_one]

theorem carries_zero (v : Powers) : u.Carries v 0 0 := by
  rw [Carries, zero_mul, zero_mul]

theorem carries_add (h : u.Carries v x y) (h' : u.Carries v x' y') : u.Carries v (x + x') (y + y') := by
  rw [Carries, add_mul, add_mul, h, h']

theorem carries_sub (h : u.Carries v x y) (h' : u.Carries v x' y') : u.Carries v (x - x') (y - y') := by
  rw [Carries, sub_mul, sub_mul, h, h']

theorem carries_neg (h : u.Carries v x y) : u.Carries v (-x) (-y) := by
  rw [Carries, neg_mul, neg_mul, h]

theorem carries_mul (h : u.Carries v x y) (h' : u.Carries w x' y') :
    u.Carries (v.multiply w) (x * x') (y * y') := by
  rw [carries_iff] at h h' ⊢
  rw [ratio_multiply, Int.cast_mul, Int.cast_mul, h, h']
  ring

/-- Where a division leaves no remainder, it is the division of the rationals. -/
theorem cast_tdiv {x x' : Int} (hx : x.tmod x' = 0) (hne : x' ≠ 0) : ((x.tdiv x' : Int) : ℚ) = x / x' := by
  obtain ⟨m, rfl⟩ := Int.dvd_of_tmod_eq_zero hx
  rw [Int.mul_tdiv_cancel_left _ hne, Int.cast_mul, mul_div_cancel_left₀ _ (Int.cast_ne_zero.2 hne)]

theorem carries_div (h : u.Carries v x y) (h' : u.Carries w x' y') (hx : x.tmod x' = 0)
    (hy : y.tmod y' = 0) (hx' : x' ≠ 0) (hy' : y' ≠ 0) :
    u.Carries (v.divide w) (x.tdiv x') (y.tdiv y') := by
  rw [carries_iff] at h h' ⊢
  rw [ratio_divide, cast_tdiv hx hx', cast_tdiv hy hy', h, h', div_mul_div_comm]

/-- Units do not change which of two values is the greater. -/
theorem carries_lt (h : u.Carries v x y) (h' : u.Carries v x' y') : y < y' ↔ x < x' := by
  rw [carries_iff] at h h'
  rw [← Int.cast_lt (R := ℚ), h, h', mul_lt_mul_iff_left₀ (ratio_pos v), Int.cast_lt]

theorem carries_compare (h : u.Carries v x y) (h' : u.Carries v x' y') :
    compare y y' = compare x x' := by
  have hlt := carries_lt h h'
  have hgt := carries_lt h' h
  cases hx : compare x x' with
  | lt => exact Int.compare_eq_lt.2 (hlt.2 (Int.compare_eq_lt.1 hx))
  | gt => exact Int.compare_eq_gt.2 (hgt.2 (Int.compare_eq_gt.1 hx))
  | eq =>
    have heq := Int.compare_eq_eq.1 hx
    refine Int.compare_eq_eq.2 ?_
    omega

end Rescaling

end Dimensional
