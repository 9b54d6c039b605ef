import Dimensional.Proofs.Binary.Shortest
import Mathlib.Tactic.LinearCombination

/-!
# The shortest decimal has the fewest digits

The window of a magnitude is an interval around its value.  So if it holds any multiple of a power of ten, it
holds one of the two that are next to the value, and the search stops at the first grid that has one.

* `Precision.onGrid?_nearest` — what is taken from a grid is the nearest to the value that the window holds;
* `Precision.search_of_rounds`, `Precision.rounds_last` — the search stops no later than at a grid with a number
  in the window, and the last grid has one;
* `Precision.search_spec` — where the search stops;
* `Precision.isShortest_shortest` — no decimal in the window has fewer digits than the shortest one, and none
  with as many is nearer to the value.
-/

namespace Dimensional

/-! ### Trailing zeros -/

namespace Decimal10

theorem dropZeros_pow (k : Nat) : dropZeros (10 ^ k) = (1, k) := by
  induction k with
  | zero =>
    rw [dropZeros]
    rfl
  | succ k ih =>
    have nonzero : 10 ^ (k + 1) ≠ 0 := (Nat.pow_pos (by decide)).ne'
    have whole : 10 ^ (k + 1) % 10 = 0 := by rw [Nat.pow_succ, Nat.mul_mod_left]
    have rest : 10 ^ (k + 1) / 10 = 10 ^ k := by rw [Nat.pow_succ, Nat.mul_div_cancel _ (by decide)]
    rw [dropZeros, dif_neg nonzero, if_pos whole, rest, ih]

/-- Up to a power of ten, a number has no more digits than that has zeros, zeros at its end aside. -/
theorem digits_normalize_le {d : Decimal10} {count : Nat} (positive : 0 < count)
    (h : d.significand ≤ 10 ^ count) : d.normalize.digits.length ≤ count := by
  refine (Nat.length_toDigits_le_iff (by decide) positive).2 ?_
  show (dropZeros d.significand).1 < 10 ^ count
  rcases Nat.lt_or_eq_of_le h with less | equal
  · have dropped := dropZeros_value d.significand
    have fewer := Nat.le_mul_of_pos_right (dropZeros d.significand).1
      (Nat.pow_pos (n := (dropZeros d.significand).2) (show 0 < 10 by decide))
    omega
  · rw [equal, dropZeros_pow]
    exact Nat.one_lt_pow positive.ne' (by decide)

end Decimal10

namespace Precision

variable {p : Precision} {m : Nat}

/-! ### The window is an interval -/

theorem Rounds.between {x y z : ℚ} (hx : p.Rounds x m) (hz : p.Rounds z m) (low : x ≤ y) (high : y ≤ z) :
    p.Rounds y m := by
  refine ⟨by linarith [hx.low], by linarith [hz.high], fun odd => ?_⟩
  exact ⟨by linarith [(hx.odd odd).1], by linarith [(hz.odd odd).2]⟩

/-! ### Grids -/

/-- The units between two neighbours of a grid. -/
def gridStep (p : Precision) (exponent : Int) : ℚ := 10 ^ exponent * p.unitsPerOne

theorem gridStep_pos (p : Precision) (exponent : Int) : 0 < p.gridStep exponent := by
  have one : (0 : ℚ) < p.unitsPerOne := by exact_mod_cast Nat.two_pow_pos p.unitBits
  unfold gridStep
  positivity

theorem value_grid (p : Precision) (significand : Nat) (exponent : Int) :
    Decimal10.value ⟨significand, exponent⟩ * p.unitsPerOne = significand * p.gridStep exponent := by
  rw [Decimal10.value, gridStep, mul_assoc]

/-- The value of a magnitude, from the number below it on a grid and a rest that is less than a step. -/
theorem grid_parts (p : Precision) (m : Nat) (exponent : Int) :
    ∃ rest : ℚ, (p.units m : ℚ) = p.gridBelow m exponent * p.gridStep exponent + rest ∧
      0 ≤ rest ∧ rest < p.gridStep exponent ∧
      (2 * p.gridRest m exponent ≤ Decimal10.scaleUp exponent * p.unitsPerOne → 2 * rest ≤ p.gridStep exponent) ∧
      (Decimal10.scaleUp exponent * p.unitsPerOne ≤ 2 * p.gridRest m exponent → p.gridStep exponent ≤ 2 * rest) := by
  have down : (0 : ℚ) < Decimal10.scaleDown exponent := by exact_mod_cast Decimal10.scaleDown_pos _
  have positive : 0 < Decimal10.scaleUp exponent * p.unitsPerOne :=
    Nat.mul_pos (Nat.pow_pos (by decide)) (Nat.two_pow_pos _)
  have step : p.gridStep exponent =
      (Decimal10.scaleUp exponent * p.unitsPerOne : Nat) / Decimal10.scaleDown exponent := by
    rw [gridStep, ← Decimal10.scale_eq, Nat.cast_mul, div_mul_eq_mul_div]
  have parts : (p.units m : ℚ) * Decimal10.scaleDown exponent =
      p.gridBelow m exponent * (Decimal10.scaleUp exponent * p.unitsPerOne : Nat) + p.gridRest m exponent := by
    exact_mod_cast (Nat.div_add_mod' _ _).symm
  have small : p.gridRest m exponent < Decimal10.scaleUp exponent * p.unitsPerOne := Nat.mod_lt _ positive
  refine ⟨p.gridRest m exponent / Decimal10.scaleDown exponent, ?_, by positivity, ?_, fun h => ?_, fun h => ?_⟩
  · rw [step, ← mul_div_assoc, ← add_div, ← parts, mul_div_cancel_right₀ _ down.ne']
  · rw [step, div_lt_div_iff_of_pos_right down]
    exact_mod_cast small
  · rw [step, ← mul_div_assoc, div_le_div_iff_of_pos_right down]
    exact_mod_cast h
  · rw [step, ← mul_div_assoc, div_le_div_iff_of_pos_right down]
    exact_mod_cast h

section Neighbours

variable {below : Nat} {step rest : ℚ}

/-- With a number at or below the value, the window holds the last one on the grid there, which is nearer. -/
theorem rounds_below (value : (p.units m : ℚ) = below * step + rest) (nonneg : 0 ≤ rest) (positive : 0 < step)
    {other : Nat} (h : other ≤ below) (rounds : p.Rounds (other * step) m) :
    p.Rounds (below * step) m ∧ rest ≤ |(other : ℚ) * step - p.units m| := by
  have own := rounds_units (p := p) m
  have le : (other : ℚ) * step ≤ below * step := mul_le_mul_of_nonneg_right (by exact_mod_cast h) positive.le
  exact ⟨rounds.between own le (by linarith), by rw [abs_sub_comm]; exact le_abs.2 (.inl (by linarith))⟩

/-- With a number above the value, the window holds the first one on the grid there, which is nearer. -/
theorem rounds_above (value : (p.units m : ℚ) = below * step + rest) (small : rest < step) (positive : 0 < step)
    {other : Nat} (h : below < other) (rounds : p.Rounds (other * step) m) :
    p.Rounds ((below + 1 : Nat) * step) m ∧ step - rest ≤ |(other : ℚ) * step - p.units m| := by
  have own := rounds_units (p := p) m
  have le : ((below + 1 : Nat) : ℚ) * step ≤ other * step :=
    mul_le_mul_of_nonneg_right (by exact_mod_cast h) positive.le
  have next : ((below + 1 : Nat) : ℚ) * step = below * step + step := by push_cast; ring
  rw [next] at le ⊢
  exact ⟨own.between rounds (by linarith) le, le_abs.2 (.inl (by linarith))⟩

end Neighbours

/-- **What is taken from a grid is the nearest to the value that the window holds**, if it holds any, and is less
than a step above the value. -/
theorem onGrid?_nearest (p : Precision) (tie : Tie) (m : Nat) (exponent : Int) :
    (p.onGrid? tie m exponent = none ∧ ∀ other : Nat, ¬ p.Rounds (other * p.gridStep exponent) m) ∨
    ∃ significand : Nat, p.onGrid? tie m exponent = some significand ∧
      (significand : ℚ) * p.gridStep exponent ≤ p.units m + p.gridStep exponent ∧
      ∀ other : Nat, p.Rounds (other * p.gridStep exponent) m →
        |(significand : ℚ) * p.gridStep exponent - p.units m| ≤ |(other : ℚ) * p.gridStep exponent - p.units m| := by
  obtain ⟨rest, value, nonneg, small, lower, upper⟩ := p.grid_parts m exponent
  have positive := p.gridStep_pos exponent
  have inWindow (s : Nat) : p.inWindow m s exponent = true ↔ p.Rounds (s * p.gridStep exponent) m := by
    rw [← value_grid]
    exact inWindow_iff (d := ⟨s, exponent⟩)
  have specified := p.onGrid?_spec tie m exponent
  generalize p.gridBelow m exponent = below at value specified
  generalize p.gridStep exponent = step at *
  obtain ⟨none, notBelow, notAbove⟩ | ⟨taken, found, -, side⟩ := specified
  · refine .inl ⟨none, fun other rounds => ?_⟩
    rcases Nat.lt_or_ge below other with more | less
    · rw [(inWindow _).2 (rounds_above value small positive more rounds).1] at notAbove
      cases notAbove
    · rw [(inWindow _).2 (rounds_below value nonneg positive less rounds).1] at notBelow
      cases notBelow
  · refine .inr ⟨taken, found, ?_⟩
    rcases side with ⟨rfl, nearer⟩ | ⟨rfl, nearer⟩
    · have distance : |(taken : ℚ) * step - p.units m| = rest := by
        rw [abs_sub_comm, abs_of_nonneg] <;> linarith
      refine ⟨by linarith, fun other rounds => ?_⟩
      rw [distance]
      rcases Nat.lt_or_ge taken other with more | less
      · obtain ⟨inside, far⟩ := rounds_above value small positive more rounds
        linarith [lower (nearer ((inWindow _).2 inside))]
      · exact (rounds_below value nonneg positive less rounds).2
    · have next : ((below + 1 : Nat) : ℚ) * step = below * step + step := by push_cast; ring
      have distance : |((below + 1 : Nat) : ℚ) * step - p.units m| = step - rest := by
        rw [next, abs_of_nonneg] <;> linarith
      refine ⟨by linarith, fun other rounds => ?_⟩
      rw [distance]
      rcases Nat.lt_or_ge below other with more | less
      · exact (rounds_above value small positive more rounds).2
      · obtain ⟨inside, far⟩ := rounds_below value nonneg positive less rounds
        linarith [upper (nearer ((inWindow _).2 inside))]

/-! ### The search -/

/-- **The search stops no later than at a grid with a number in the window.** -/
theorem search_of_rounds (tie : Tie) {other : Nat} :
    ∀ {place count : Nat} {exponent : Int}, place < count → p.Rounds (other * p.gridStep (exponent - place)) m →
      ∃ (stop significand : Nat), stop ≤ place ∧ p.onGrid? tie m (exponent - stop) = some significand ∧
        p.search tie m count exponent = ⟨significand, exponent - stop⟩ := by
  intro place count
  induction count generalizing place with
  | zero => exact fun h => absurd h (Nat.not_lt_zero _)
  | succ count ih =>
    intro exponent h rounds
    rw [search]
    cases found : p.onGrid? tie m exponent with
    | some significand => exact ⟨0, significand, Nat.zero_le _, by simpa using found, by simp⟩
    | none =>
      have later : place ≠ 0 := by
        rintro rfl
        obtain ⟨-, noNumber⟩ | ⟨significand, some, -⟩ := p.onGrid?_nearest tie m exponent
        · exact noNumber other (by simpa using rounds)
        · rw [found] at some
          cases some
      have place_eq : exponent - 1 - (place - 1 : Nat) = exponent - place := by omega
      rw [← place_eq] at rounds
      obtain ⟨stop, significand, before, some, result⟩ := ih (show place - 1 < count by omega) rounds
      have stop_eq : exponent - 1 - stop = exponent - (stop + 1 : Nat) := by omega
      rw [stop_eq] at some result
      exact ⟨stop + 1, significand, by omega, some, result⟩

/-! ### The first grid -/

theorem gridStep_add (p : Precision) (exponent : Int) (places : Nat) :
    p.gridStep (exponent + places) = 10 ^ places * p.gridStep exponent := by
  have ten : (10 : ℚ) ≠ 0 := by norm_num
  rw [gridStep, gridStep, zpow_add₀ ten, zpow_natCast, mul_comm (_ ^ exponent), mul_assoc]

/-- **The search begins at the power of ten at or below the value.** -/
theorem decimalExponent_spec (p : Precision) (h : m ≠ 0) :
    p.gridStep (p.decimalExponent m) ≤ p.units m ∧ (p.units m : ℚ) < 10 * p.gridStep (p.decimalExponent m) := by
  have units : 0 < p.units m := p.units_pos.2 (Nat.pos_of_ne_zero h)
  have one : 0 < p.unitsPerOne := Nat.two_pow_pos _
  unfold decimalExponent gridStep
  dsimp only
  split
  · next large =>
    -- as many digits stand before the point
    have quotient : p.units m / p.unitsPerOne ≠ 0 := (Nat.div_pos large one).ne'
    have low := (Nat.le_div_iff_mul_le one).1 (Decimal.pow_length_le quotient)
    have high := (Nat.div_lt_iff_lt_mul one).1 (Decimal.lt_pow_length (p.units m / p.unitsPerOne))
    have positive := List.length_pos_of_ne_nil (Decimal.ofNat_ne_nil (p.units m / p.unitsPerOne))
    generalize (Decimal.ofNat (p.units m / p.unitsPerOne)).length = places at low high positive
    have exponent : (places : Int) - 1 = (places - 1 : Nat) := by omega
    have split_power : 10 * (10 ^ (places - 1) * p.unitsPerOne) = 10 ^ places * p.unitsPerOne := by
      rw [← Nat.mul_assoc, ← Nat.pow_succ', Nat.succ_eq_add_one, Nat.sub_add_cancel positive]
    rw [exponent, zpow_natCast]
    exact ⟨by exact_mod_cast low, by exact_mod_cast split_power ▸ high⟩
  · next small =>
    -- as many places lie behind it
    have quotient : (p.unitsPerOne - 1) / p.units m ≠ 0 := (Nat.div_pos (by omega) units).ne'
    have low := (Nat.le_div_iff_mul_le units).1 (Decimal.pow_length_le quotient)
    have high := (Nat.div_lt_iff_lt_mul units).1 (Decimal.lt_pow_length ((p.unitsPerOne - 1) / p.units m))
    have positive := List.length_pos_of_ne_nil (Decimal.ofNat_ne_nil ((p.unitsPerOne - 1) / p.units m))
    generalize (Decimal.ofNat ((p.unitsPerOne - 1) / p.units m)).length = places at low high positive
    have split_power : (10 : ℚ) ^ places = 10 * 10 ^ (places - 1) := by
      rw [← pow_succ', Nat.sub_add_cancel positive]
    have power : (0 : ℚ) < 10 ^ places := by positivity
    have atMost : (p.unitsPerOne : ℚ) ≤ p.units m * 10 ^ places := by
      have bound : p.unitsPerOne ≤ p.units m * 10 ^ places := by rw [Nat.mul_comm]; omega
      exact_mod_cast bound
    have more : (p.units m * 10 ^ (places - 1) : ℚ) < p.unitsPerOne := by
      have bound : p.units m * 10 ^ (places - 1) < p.unitsPerOne := by rw [Nat.mul_comm]; omega
      exact_mod_cast bound
    rw [zpow_neg, zpow_natCast, inv_mul_eq_div]
    refine ⟨(div_le_iff₀ power).2 atMost, ?_⟩
    rw [← mul_div_assoc, lt_div_iff₀ power, split_power]
    linarith

/-! ### The last grid -/

/-- A magnitude is small against the gaps on both sides of it. -/
theorem units_le_gaps (p : Precision) (h : m ≠ 0) :
    (p.units m : ℚ) ≤ 2 * p.hidden * (p.units m - p.units (m - 1)) ∧
      (p.units m : ℚ) ≤ 2 * p.hidden * (p.units (m + 1) - p.units m) := by
  obtain ⟨k, s, rfl, few, many⟩ := p.exists_steps m
  have pos := p.hidden_pos
  have positive : 0 < s := by
    refine Nat.pos_of_ne_zero ?_
    rintro rfl
    rw [few.resolve_right (by omega), Nat.zero_mul] at h
    exact h rfl
  have own : (p.units (k * p.hidden + s) : ℚ) = s * 2 ^ k := by exact_mod_cast p.units_step few many.le
  have next : (p.units (k * p.hidden + s + 1) : ℚ) = (s + 1) * 2 ^ k := by exact_mod_cast p.units_succ few many
  have steps : (s * 2 ^ k : ℚ) ≤ 2 * p.hidden * 2 ^ k :=
    mul_le_mul_of_nonneg_right (by exact_mod_cast many.le) (by positivity)
  constructor
  · obtain step | ⟨-, rfl, half⟩ := p.units_pred few many.le positive
    · have previous : (p.units (k * p.hidden + s - 1) : ℚ) = (s - 1) * 2 ^ k := by
        rw [step]
        push_cast [positive]
        rfl
      rw [own, previous]
      linarith
    · have previous : 2 * (p.units (k * p.hidden + p.hidden - 1) : ℚ) = (2 * p.hidden - 1) * 2 ^ k := by
        have whole : 1 ≤ 2 * p.hidden := by omega
        rw [← Nat.cast_ofNat, ← Nat.cast_mul, half]
        push_cast [whole]
        rfl
      rw [own]
      linear_combination (p.hidden : ℚ) * previous
  · rw [own, next]
    linarith

/-- A number that is off by less than half of either gap is in the window. -/
theorem rounds_of_near {x : ℚ} (low : 2 * |x - p.units m| < p.units m - p.units (m - 1))
    (high : 2 * |x - p.units m| < p.units (m + 1) - p.units m) : p.Rounds x m := by
  have above := le_abs_self (x - p.units m)
  have below := neg_abs_le (x - p.units m)
  exact ⟨by linarith, by linarith, fun _ => ⟨by linarith, by linarith⟩⟩

/-- A step of the last grid is less than a gap that the magnitude is small against. -/
theorem lastStep_lt (p : Precision) (h : m ≠ 0) {gap : ℚ} (small : (p.units m : ℚ) ≤ 2 * p.hidden * gap) :
    p.gridStep (p.decimalExponent m - (p.maxDigits - 1 : Nat)) < gap := by
  have digits : 2 * p.hidden < 10 ^ (p.maxDigits - 1) := by cases p <;> decide
  have fine : (2 * p.hidden : ℚ) < 10 ^ (p.maxDigits - 1) := by exact_mod_cast digits
  have shift := p.gridStep_add (p.decimalExponent m - (p.maxDigits - 1 : Nat)) (p.maxDigits - 1)
  rw [Int.sub_add_cancel] at shift
  have positive : 0 < gap := by
    have hidden : (0 : ℚ) ≤ 2 * p.hidden := by positivity
    have units : (0 : ℚ) < p.units m := by exact_mod_cast p.units_pos.2 (Nat.pos_of_ne_zero h)
    exact pos_of_mul_pos_right (units.trans_le small) hidden
  refine lt_of_mul_lt_mul_left ?_ (by positivity : (0 : ℚ) ≤ 10 ^ (p.maxDigits - 1))
  calc 10 ^ (p.maxDigits - 1) * p.gridStep (p.decimalExponent m - (p.maxDigits - 1 : Nat))
      ≤ p.units m := shift ▸ (p.decimalExponent_spec h).1
    _ ≤ 2 * p.hidden * gap := small
    _ < 10 ^ (p.maxDigits - 1) * gap := mul_lt_mul_of_pos_right fine positive

/-- **The last grid that is searched has a number in the window.** -/
theorem rounds_last (p : Precision) (h : m ≠ 0) :
    ∃ other : Nat, p.Rounds (other * p.gridStep (p.decimalExponent m - (p.maxDigits - 1 : Nat))) m := by
  obtain ⟨lowGap, highGap⟩ := p.units_le_gaps h
  have low := p.lastStep_lt h lowGap
  have high := p.lastStep_lt h highGap
  obtain ⟨rest, value, nonneg, small, -⟩ := p.grid_parts m (p.decimalExponent m - (p.maxDigits - 1 : Nat))
  generalize p.gridBelow m (p.decimalExponent m - (p.maxDigits - 1 : Nat)) = below at value
  generalize p.gridStep (p.decimalExponent m - (p.maxDigits - 1 : Nat)) = step at *
  have near {other : Nat} (hnear : 2 * |(other : ℚ) * step - p.units m| ≤ step) : p.Rounds (other * step) m :=
    rounds_of_near (hnear.trans_lt low) (hnear.trans_lt high)
  rcases le_or_gt (2 * rest) step with down | up
  · refine ⟨below, near ?_⟩
    rw [abs_sub_comm, abs_of_nonneg] <;> linarith
  · refine ⟨below + 1, near ?_⟩
    have next : ((below + 1 : Nat) : ℚ) * step = below * step + step := by push_cast; ring
    rw [next, abs_of_nonneg] <;> linarith

/-! ### Fewest digits -/

/-- Whatever is in the window of a magnitude, a grid that is no finer than its digits has a number in the window
that is as near to the value. -/
theorem exists_on_grid (h : m ≠ 0) {other : Decimal10} (rounds : p.Rounds (other.value * p.unitsPerOne) m) :
    ∃ place significand : Nat, place + 1 ≤ other.digits.length ∧
      p.Rounds (significand * p.gridStep (p.decimalExponent m - place)) m ∧
      |(significand : ℚ) * p.gridStep (p.decimalExponent m - place) - p.units m| ≤
        |other.value * p.unitsPerOne - p.units m| := by
  obtain ⟨first, beyond⟩ := p.decimalExponent_spec h
  have own := rounds_units (p := p) m
  have nonzero : other.significand ≠ 0 := fun none => h ((rounds_of_zero none).1 rounds)
  have digits : 0 < other.digits.length := List.length_pos_of_ne_nil (Decimal.ofNat_ne_nil _)
  have one : (0 : ℚ) < p.unitsPerOne := by exact_mod_cast Nat.two_pow_pos p.unitBits
  have low : p.gridStep (other.size - 1) ≤ other.value * p.unitsPerOne :=
    mul_le_mul_of_nonneg_right (other.le_value nonzero) one.le
  have high : other.value * p.unitsPerOne < p.gridStep other.size := mul_lt_mul_of_pos_right other.value_lt one
  have mono {a b : Int} (hab : a ≤ b) : p.gridStep a ≤ p.gridStep b :=
    mul_le_mul_of_nonneg_right (zpow_le_zpow_right₀ (by norm_num) hab) one.le
  have top : p.gridStep (p.decimalExponent m + 1) = 10 * p.gridStep (p.decimalExponent m) := by
    simpa using p.gridStep_add (p.decimalExponent m) 1
  have here : p.decimalExponent m - (0 : Nat) = p.decimalExponent m := Int.sub_zero _
  rcases Int.lt_trichotomy (other.size - 1) (p.decimalExponent m) with less | same | more
  · -- the power of ten at or below the value is nearer
    have between := high.le.trans (mono (show other.size ≤ p.decimalExponent m by omega))
    refine ⟨0, 1, by omega, ?_, ?_⟩ <;> rw [here, Nat.cast_one, one_mul]
    · exact rounds.between own between first
    · rw [abs_sub_comm, abs_of_nonneg (by linarith), abs_sub_comm]
      exact le_abs.2 (.inl (by linarith))
  · -- it has the digits of the value before the point
    have exponent : p.decimalExponent m - (other.digits.length - 1 : Nat) = other.exponent := by
      rw [← same, Decimal10.size]
      omega
    have value := p.value_grid other.significand other.exponent
    refine ⟨other.digits.length - 1, other.significand, by omega, ?_, ?_⟩
    · rw [exponent, ← value]
      exact rounds
    · rw [exponent, ← value]
  · -- the power of ten above the value is nearer
    have between := (mono (show p.decimalExponent m + 1 ≤ other.size - 1 by omega)).trans low
    rw [top] at between
    refine ⟨0, 10, by omega, ?_, ?_⟩ <;> rw [here, Nat.cast_ofNat]
    · exact own.between rounds beyond.le between
    · rw [abs_of_nonneg (by linarith)]
      exact le_abs.2 (.inl (by linarith))

/-- **Where the search stops**: at the first grid with a number in the window, and with the nearest one on it,
which is at most the power of ten above the value. -/
theorem search_spec (p : Precision) (tie : Tie) (h : m ≠ 0) :
    ∃ stop significand : Nat,
      p.search tie m p.maxDigits (p.decimalExponent m) = ⟨significand, p.decimalExponent m - stop⟩ ∧
      significand ≤ 10 ^ (stop + 1) ∧
      (∀ place other : Nat, p.Rounds (other * p.gridStep (p.decimalExponent m - place)) m → stop ≤ place) ∧
      ∀ other : Nat, p.Rounds (other * p.gridStep (p.decimalExponent m - stop)) m →
        |(significand : ℚ) * p.gridStep (p.decimalExponent m - stop) - p.units m| ≤
          |(other : ℚ) * p.gridStep (p.decimalExponent m - stop) - p.units m| := by
  obtain ⟨last, lastRounds⟩ := p.rounds_last h
  have digits : 0 < p.maxDigits := by cases p <;> decide
  obtain ⟨stop, significand, before, found, result⟩ :=
    search_of_rounds tie (show p.maxDigits - 1 < p.maxDigits by omega) lastRounds
  obtain ⟨none, -⟩ | ⟨taken, found', bound, nearest⟩ := p.onGrid?_nearest tie m (p.decimalExponent m - stop)
  · rw [none] at found
    cases found
  obtain rfl : taken = significand := Option.some.inj (found'.symm.trans found)
  refine ⟨stop, taken, result, ?_, fun place other rounds => ?_, nearest⟩
  · have positive := p.gridStep_pos (p.decimalExponent m - stop)
    have shift := p.gridStep_add (p.decimalExponent m - stop) stop
    rw [Int.sub_add_cancel] at shift
    have beyond := (p.decimalExponent_spec h).2
    rw [shift] at beyond
    generalize p.gridStep (p.decimalExponent m - stop) = step at *
    have less : (taken : ℚ) * step < (10 ^ (stop + 1) + 1) * step := by
      rw [pow_succ']
      linarith
    have count : taken < 10 ^ (stop + 1) + 1 := by exact_mod_cast lt_of_mul_lt_mul_right less positive.le
    exact Nat.le_of_lt_succ count
  · rcases Nat.lt_or_ge place p.maxDigits with early | late
    · obtain ⟨stop', significand', before', -, result'⟩ := search_of_rounds tie early rounds
      have same : p.decimalExponent m - (stop : Int) = p.decimalExponent m - stop' :=
        congrArg Decimal10.exponent (result.symm.trans result')
      omega
    · omega

/-! ### The shortest decimal -/

/-- **The decimal is the shortest for a magnitude**: no decimal in its window has fewer digits, and none with as
many is nearer to its value. -/
structure IsShortest (p : Precision) (m : Nat) (d : Decimal10) : Prop where
  rounds : p.Rounds (d.value * p.unitsPerOne) m
  fewest : ∀ other : Decimal10, p.Rounds (other.value * p.unitsPerOne) m → d.digits.length ≤ other.digits.length
  nearest : ∀ other : Decimal10, p.Rounds (other.value * p.unitsPerOne) m →
    other.digits.length = d.digits.length →
      |d.value * p.unitsPerOne - p.units m| ≤ |other.value * p.unitsPerOne - p.units m|

theorem isShortest_zero (p : Precision) : p.IsShortest 0 ⟨0, 0⟩ := by
  refine ⟨(rounds_of_zero rfl).2 rfl, fun other _ => ?_, fun other _ _ => ?_⟩
  · exact List.length_pos_of_ne_nil (Decimal.ofNat_ne_nil _)
  · rw [Decimal10.value_of_zero rfl, units_zero, zero_mul, Nat.cast_zero, sub_zero, abs_zero]
    exact abs_nonneg _

/-- **The shortest decimal has the fewest digits**, and is the nearest of those with as many. -/
theorem isShortest_shortest (p : Precision) (tie : Tie) (m : Nat) : p.IsShortest m (p.shortest tie m) := by
  by_cases h : m = 0
  · rw [h]
    exact p.isShortest_zero
  obtain ⟨stop, significand, result, bound, first, nearest⟩ := p.search_spec tie h
  have shortest_eq : p.shortest tie m = Decimal10.normalize ⟨significand, p.decimalExponent m - stop⟩ := by
    rw [shortest, if_neg h, result]
  have few : (p.shortest tie m).digits.length ≤ stop + 1 := by
    rw [shortest_eq]
    exact Decimal10.digits_normalize_le (Nat.succ_pos stop) bound
  refine ⟨p.rounds_shortest tie m, fun other rounds => ?_, fun other rounds length => ?_⟩
  · obtain ⟨place, number, short, inWindow, -⟩ := exists_on_grid h rounds
    exact few.trans ((Nat.succ_le_succ (first place number inWindow)).trans short)
  · obtain ⟨place, number, short, inWindow, near⟩ := exists_on_grid h rounds
    have late := first place number inWindow
    obtain rfl : place = stop := by omega
    rw [shortest_eq, Decimal10.value_normalize, value_grid]
    exact (nearest number inWindow).trans near

end Precision

end Dimensional
