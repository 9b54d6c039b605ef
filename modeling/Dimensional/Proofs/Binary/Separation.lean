import Dimensional.Power
import Mathlib.Algebra.Order.Field.Power
import Mathlib.Algebra.Order.Field.Rat
import Mathlib.Data.Int.GCD
import Mathlib.Tactic.FieldSimp
import Mathlib.Tactic.Linarith
import Mathlib.Tactic.Positivity
import Mathlib.Tactic.Ring

/-!
# Decimals with few digits keep away from the midpoints of single precision

The midpoint of two neighbours in single precision is an odd number `M` of half steps of `2 ^ k`.  A decimal of few
digits `D` that comes closer to it than double precision can tell, without being it, would make `M / D` too good an
approximation of a power of ten over a power of two.  Whether there is one is seen from a single convergent of that
quotient: any approximation as good is a multiple of it.  Two multiples remain, of the same digits but for a factor
of two.

* `certifies`, `certifies_sound` — what is asked of a convergent, and that it is enough;
* `someConvergent_sound` — the convergents are looked through in order;
* `separated_all` — one is found for every power of ten and every power of two that matter;
* `apart` — so nothing else comes near.
-/

namespace Dimensional.Separation

/-- More than the digits of a decimal make whose last place is no finer than the gaps of single precision. -/
def mostDigits : Nat := 2 ^ 24 + 64

/-- The distance of two numbers. -/
def distance (a b : Nat) : Nat := a - b + (b - a)

theorem distance_cast (a b : Nat) : (distance a b : ℤ) = |(a : ℤ) - b| := by
  rw [distance]
  rcases Nat.le_total a b with h | h
  · rw [abs_sub_comm, abs_of_nonneg (by omega)]
    omega
  · rw [abs_of_nonneg (by omega)]
    omega

theorem distance_rat (a b : Nat) : (distance a b : ℚ) = |(a : ℚ) - b| := by
  exact_mod_cast congrArg (Int.cast (R := ℚ)) (distance_cast a b)

/-- The digits and the half steps of the decimals that do come near: `7.038531e-26` and twice as much, with their
powers of two, and of ten from `-60` on. -/
def exceptions : List (Nat × Nat × Nat × Nat) := [(42, 28, 7038531, 22841339), (43, 28, 14077062, 22841339)]

/-- The quotient `M / D` settles `A / B` for up to `most` digits: it is so near to it that what is as near as a
rounding is a multiple of it, and no multiple of it is in question, or it is exact, or not so near itself. -/
def certifies (A B most D M : Nat) (excepted : Bool) : Bool :=
  Nat.beq (Nat.gcd D M) 1 && Nat.blt (2 ^ 54 * most * distance (D * A) (M * B) + 6 * 2 ^ 25 * D * B) (2 ^ 54 * B) &&
    (Nat.blt most D || Nat.beq (M % 2) 0 || Nat.beq (distance (D * A) (M * B)) 0 ||
      Nat.blt (6 * M * B) (2 ^ 54 * distance (D * A) (M * B)) || (excepted && Nat.blt most (2 * D)))

/-- **A convergent that settles a quotient**: what is as near to it as a rounding is exact, or is the convergent
itself. -/
theorem certifies_sound {A B most D₀ M₀ D M : Nat} {excepted : Bool} (h : certifies A B most D₀ M₀ excepted = true)
    (positive : 0 < B) (some : 0 < D) (few : D ≤ most) (small : M < 2 ^ 25) (odd : M % 2 = 1)
    (near : 2 ^ 54 * distance (D * A) (M * B) ≤ 6 * (M * B)) :
    D * A = M * B ∨ excepted = true ∧ D = D₀ ∧ M = M₀ := by
  simp only [certifies, Bool.and_eq_true, Bool.or_eq_true, Nat.beq_eq, Nat.blt_eq] at h
  obtain ⟨⟨coprime, close⟩, settled⟩ := h
  -- two approximations as good as that are the same quotient
  have same : D * M₀ = M * D₀ := by
    have decimal : (2 : ℤ) ^ 54 * |(D : ℤ) * A - M * B| ≤ 6 * (M * B) := by
      have cast := distance_cast (D * A) (M * B)
      push_cast at cast
      rw [← cast]
      exact_mod_cast near
    have convergent : (distance (D₀ * A) (M₀ * B) : ℤ) = |(D₀ : ℤ) * A - M₀ * B| := by
      rw [distance_cast]
      push_cast
      rfl
    have bound : (2 : ℤ) ^ 54 * most * |(D₀ : ℤ) * A - M₀ * B| + 6 * 2 ^ 25 * D₀ * B < 2 ^ 54 * B := by
      rw [← convergent]
      exact_mod_cast close
    have split : ((D : ℤ) * M₀ - M * D₀) * B = D₀ * ((D : ℤ) * A - M * B) - D * ((D₀ : ℤ) * A - M₀ * B) := by ring
    have one : (0 : ℤ) < B := by exact_mod_cast positive
    have size : |(D : ℤ) * M₀ - M * D₀| * B ≤
        D₀ * |(D : ℤ) * A - M * B| + D * |(D₀ : ℤ) * A - M₀ * B| := by
      have sum := abs_sub (D₀ * ((D : ℤ) * A - M * B)) (D * ((D₀ : ℤ) * A - M₀ * B))
      rw [← split, abs_mul, abs_mul, abs_mul, abs_of_pos one, Nat.abs_cast, Nat.abs_cast] at sum
      exact sum
    have left : (D₀ : ℤ) * (2 ^ 54 * |(D : ℤ) * A - M * B|) ≤ D₀ * (6 * (2 ^ 25 * B)) := by
      have few : (M : ℤ) * B ≤ 2 ^ 25 * B := mul_le_mul_of_nonneg_right (by exact_mod_cast small.le) one.le
      exact mul_le_mul_of_nonneg_left (by linarith) (Nat.cast_nonneg _)
    have right : (D : ℤ) * |(D₀ : ℤ) * A - M₀ * B| ≤ most * |(D₀ : ℤ) * A - M₀ * B| :=
      mul_le_mul_of_nonneg_right (by exact_mod_cast few) (abs_nonneg _)
    have less : |(D : ℤ) * M₀ - M * D₀| * B < 1 * B := by linarith
    have none := Int.abs_lt_one_iff.1 (lt_of_mul_lt_mul_right less one.le)
    exact_mod_cast sub_eq_zero.1 none
  obtain ⟨t, rfl⟩ : D₀ ∣ D := Nat.Coprime.dvd_of_dvd_mul_right coprime (same ▸ Nat.dvd_mul_left D₀ M)
  have digits : 0 < D₀ := Nat.pos_of_mul_pos_right some
  have factor : 0 < t := Nat.pos_of_mul_pos_left some
  obtain rfl : M = t * M₀ := by
    refine Nat.eq_of_mul_eq_mul_right digits ?_
    rw [← same]
    ring
  have scaled : distance (D₀ * t * A) (t * M₀ * B) = t * distance (D₀ * A) (M₀ * B) := by
    rw [distance, distance, Nat.mul_add, Nat.mul_sub, Nat.mul_sub]
    ring_nf
  rw [scaled] at near
  obtain (((beyond | even) | exact) | far) | ⟨exception, single⟩ := settled
  · exact absurd few (by nlinarith)
  · rw [Nat.mul_mod, even, Nat.mul_zero, Nat.zero_mod] at odd
    cases odd
  · left
    rw [distance] at exact
    have equal : D₀ * A = M₀ * B := by omega
    rw [Nat.mul_right_comm, equal]
    ring
  · exact absurd near (by nlinarith)
  · have once : t = 1 := by nlinarith
    exact .inr ⟨exception, by rw [once, Nat.mul_one], by rw [once, Nat.one_mul]⟩

/-- One of the convergents of `a / b` is accepted, those before them being `M / D` and before that `M' / D'`.  What is
left of the division tells how near a convergent is. -/
def someConvergent (accept : Nat → Nat → Nat → Bool) : Nat → Nat → Nat → Nat → Nat → Nat → Nat → Bool
  | 0, _, _, _, _, _, _ => false
  | fuel + 1, a, b, M, D, M', D' =>
    accept (a % b) (a / b * D + D') (a / b * M + M') ||
      (!Nat.beq (a % b) 0 && someConvergent accept fuel b (a % b) (a / b * M + M') (a / b * D + D') M D)

/-- If one is accepted, one is accepted. -/
theorem someConvergent_sound {accept : Nat → Nat → Nat → Bool} {fuel a b M D M' D' : Nat}
    (h : someConvergent accept fuel a b M D M' D' = true) : ∃ rest D₀ M₀, accept rest D₀ M₀ = true := by
  induction fuel generalizing a b M D M' D' with
  | zero => cases h
  | succ fuel ih =>
    rw [someConvergent, Bool.or_eq_true, Bool.and_eq_true] at h
    rcases h with here | ⟨-, later⟩
    · exact ⟨_, _, _, here⟩
    · exact ih later

/-- Ten to the power `i - 60`, counted in half units. -/
def powerOfTen (i : Nat) : Nat := 10 ^ i * 2 ^ 150

/-- Half units in a half step, as often as ten to the power sixty. -/
def halfStep (k : Nat) : Nat := 10 ^ 60 * 2 ^ k

/-- The greatest number of digits with which the power of ten can reach a midpoint. -/
def reach (k i : Nat) : Nat := min mostDigits ((2 ^ 25 + 1) * halfStep k / powerOfTen i)

/-- No decimal with this power of ten comes near to a midpoint with this power of two. -/
def separated (k i : Nat) : Bool :=
  Nat.beq (reach k i) 0 || (!Nat.beq k 0 && Nat.blt (2 * reach k i * powerOfTen i) (2 ^ 24 * halfStep k)) ||
    someConvergent (fun rest D M => Nat.blt (reach k i * rest) (halfStep k) &&
      certifies (powerOfTen i) (halfStep k) (reach k i) D M (exceptions.contains (k, i, D, M)))
      40 (powerOfTen i) (halfStep k) 1 0 0 1

theorem powerOfTen_pos (i : Nat) : 0 < powerOfTen i := Nat.mul_pos (Nat.pow_pos (by decide)) (Nat.two_pow_pos 150)

theorem halfStep_pos (k : Nat) : 0 < halfStep k := Nat.mul_pos (Nat.pow_pos (by decide)) (Nat.two_pow_pos k)

/-- **What comes near to a midpoint is the midpoint**, or one of the exceptions. -/
theorem separated_sound {k i D M : Nat} (h : separated k i = true) (some : 0 < D) (few : D ≤ mostDigits)
    (small : M < 2 ^ 25) (hidden : k = 0 ∨ 2 ^ 24 < M) (odd : M % 2 = 1)
    (near : 2 ^ 54 * distance (D * powerOfTen i) (M * halfStep k) ≤ 6 * (M * halfStep k)) :
    D * powerOfTen i = M * halfStep k ∨ (k, i, D, M) ∈ exceptions := by
  have step := halfStep_pos k
  have steps : M * halfStep k ≤ 2 ^ 25 * halfStep k := Nat.mul_le_mul_right _ small.le
  have upper : D * powerOfTen i ≤ (2 ^ 25 + 1) * halfStep k := by
    rw [distance] at near
    omega
  have reached : D ≤ reach k i := Nat.le_min.2 ⟨few, (Nat.le_div_iff_mul_le (powerOfTen_pos i)).2 upper⟩
  simp only [separated, Bool.or_eq_true, Bool.and_eq_true, Nat.beq_eq, Nat.blt_eq] at h
  obtain (none | ⟨large, short⟩) | convergent := h
  · omega
  · -- not even with all the digits
    have nonzero : k ≠ 0 := by
      rintro rfl
      cases large
    have least : 2 ^ 24 * halfStep k ≤ M * halfStep k := Nat.mul_le_mul_right _ (hidden.resolve_left nonzero).le
    have most : D * powerOfTen i ≤ reach k i * powerOfTen i := Nat.mul_le_mul_right _ reached
    rw [Nat.mul_assoc] at short
    rw [distance] at near
    omega
  · obtain ⟨rest, D₀, M₀, accepted⟩ := someConvergent_sound convergent
    rw [Bool.and_eq_true] at accepted
    rcases certifies_sound accepted.2 step some reached small odd near with exact | ⟨excepted, rfl, rfl⟩
    · exact .inl exact
    · exact .inr (List.contains_iff_mem.1 excepted)

/-- The least power of ten that can reach a midpoint. -/
def leastPower (k : Nat) : Nat := k * 1233 / 4096 + 7

set_option maxRecDepth 100000 in
/-- **A convergent is found for every power of ten and every power of two that matter.** -/
theorem separated_all :
    (List.range 254).all (fun k => (List.range 17).all fun j => separated k (leastPower k + j)) = true := by
  decide +kernel

theorem leastPower_all :
    (List.range 254).all (fun k => Nat.ble (10 ^ leastPower k * 2 ^ 176) (2 ^ k * 10 ^ 60) &&
      Nat.ble (2 ^ k * 10 ^ 60) (10 ^ (leastPower k + 17) * 2 ^ 124)) = true := by
  decide +kernel

/-! ### Every power of ten -/

theorem leastPower_le {k : Nat} (hk : k < 254) :
    10 ^ leastPower k * 2 ^ 176 ≤ 2 ^ k * 10 ^ 60 ∧ 2 ^ k * 10 ^ 60 ≤ 10 ^ (leastPower k + 17) * 2 ^ 124 := by
  have all := List.all_eq_true.1 leastPower_all k (List.mem_range.2 hk)
  rwa [Bool.and_eq_true, Nat.ble_eq, Nat.ble_eq] at all

theorem separated_of_lt {k i : Nat} (hk : k < 254) (least : leastPower k ≤ i) (most : i < leastPower k + 17) :
    separated k i = true := by
  have all := List.all_eq_true.1 separated_all k (List.mem_range.2 hk)
  have one := List.all_eq_true.1 all (i - leastPower k) (List.mem_range.2 (by omega))
  rwa [Nat.add_sub_cancel' least] at one

/-- **A decimal of few digits is a midpoint of single precision or does not come near to it**, but for the exceptions.
Both are counted in half units. -/
theorem apart {k D M : Nat} {e : ℤ} (hk : k < 254) (some : 0 < D) (few : D ≤ mostDigits) (small : M < 2 ^ 25)
    (hidden : k = 0 ∨ 2 ^ 24 < M) (odd : M % 2 = 1)
    (near : 2 ^ 54 * |(D : ℚ) * 10 ^ e * 2 ^ 150 - M * 2 ^ k| ≤ 6 * ((M : ℚ) * 2 ^ k)) :
    (D : ℚ) * 10 ^ e * 2 ^ 150 = M * 2 ^ k ∨ ∃ i : Nat, e = (i : ℤ) - 60 ∧ (k, i, D, M) ∈ exceptions := by
  obtain ⟨low, high⟩ := leastPower_le hk
  have power : (0 : ℚ) < 10 ^ e := by positivity
  have step : (0 : ℚ) < 2 ^ k := by positivity
  have digits : 10 ^ e ≤ (D : ℚ) * 10 ^ e ∧ (D : ℚ) * 10 ^ e ≤ 2 ^ 25 * 10 ^ e := by
    have most : mostDigits ≤ 2 ^ 25 := by decide
    exact ⟨le_mul_of_one_le_left power.le (by exact_mod_cast some),
      mul_le_mul_of_nonneg_right (by exact_mod_cast few.trans most) power.le⟩
  have steps : 2 ^ k ≤ (M : ℚ) * 2 ^ k ∧ (M : ℚ) * 2 ^ k ≤ 2 ^ 25 * 2 ^ k :=
    ⟨le_mul_of_one_le_left step.le (by exact_mod_cast (show 1 ≤ M by omega)),
      mul_le_mul_of_nonneg_right (by exact_mod_cast small.le) step.le⟩
  obtain ⟨lower, upper⟩ := abs_le.1 (le_refl |(D : ℚ) * 10 ^ e * 2 ^ 150 - M * 2 ^ k|)
  have shift (count : Nat) : (10 : ℚ) ^ ((count : ℤ) - 60) * 10 ^ 60 = 10 ^ count := by
    rw [zpow_sub₀ (by norm_num), zpow_natCast]
    exact div_mul_cancel₀ _ (by positivity)
  have above : (leastPower k : ℤ) - 60 ≤ e := by
    have least : (10 : ℚ) ^ leastPower k * 2 ^ 176 ≤ 2 ^ k * 10 ^ 60 := by exact_mod_cast low
    have reached : (2 : ℚ) ^ k ≤ 10 ^ e * 2 ^ 176 := by linarith [digits.2, steps.1]
    rw [← shift (leastPower k)] at least
    refine (zpow_le_zpow_iff_right₀ (by norm_num : (1 : ℚ) < 10)).1 ?_
    linarith
  have below : e < ((leastPower k + 17 : Nat) : ℤ) - 60 := by
    have most : (2 : ℚ) ^ k * 10 ^ 60 ≤ 10 ^ (leastPower k + 17) * 2 ^ 124 := by exact_mod_cast high
    have reached : (10 : ℚ) ^ e * 2 ^ 124 < 2 ^ k := by linarith [digits.1, steps.2]
    rw [← shift (leastPower k + 17)] at most
    refine (zpow_lt_zpow_iff_right₀ (by norm_num : (1 : ℚ) < 10)).1 ?_
    linarith
  obtain ⟨i, rfl⟩ : ∃ i : Nat, e = (i : ℤ) - 60 := ⟨(e + 60).toNat, by omega⟩
  have decimal : (D : ℚ) * 10 ^ ((i : ℤ) - 60) * 2 ^ 150 * 10 ^ 60 = (D * powerOfTen i : Nat) := by
    rw [powerOfTen, Nat.cast_mul, Nat.cast_mul, Nat.cast_pow, Nat.cast_pow, Nat.cast_ofNat, Nat.cast_ofNat, ← shift i]
    ring
  have midpoint : (M : ℚ) * 2 ^ k * 10 ^ 60 = (M * halfStep k : Nat) := by
    rw [halfStep, Nat.cast_mul, Nat.cast_mul, Nat.cast_pow, Nat.cast_pow, Nat.cast_ofNat, Nat.cast_ofNat]
    ring
  have scale : (0 : ℚ) < 10 ^ 60 := by positivity
  have whole : 2 ^ 54 * distance (D * powerOfTen i) (M * halfStep k) ≤ 6 * (M * halfStep k) := by
    have scaled := mul_le_mul_of_nonneg_right near scale.le
    rw [mul_assoc, ← abs_of_pos scale, ← abs_mul, abs_of_pos scale, sub_mul, decimal, mul_assoc 6, midpoint,
      ← distance_rat] at scaled
    exact_mod_cast scaled
  rcases separated_sound (separated_of_lt hk (by omega) (by omega)) some few small hidden odd whole
    with exact | exception
  · left
    refine mul_right_cancel₀ scale.ne' ?_
    rw [decimal, midpoint, exact]
  · exact .inr ⟨i, rfl, exception⟩

end Dimensional.Separation
