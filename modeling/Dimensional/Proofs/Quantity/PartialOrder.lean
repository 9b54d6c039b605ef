import Dimensional.Proofs.Binary.Values
import Dimensional.Proofs.Quantity.Order

/-!
# The partial order of real quantities

Two real quantities under one dimension are compared by their exact values, unless one of them is no number:
then they are unordered, and every relation but `ne` fails.  The lesser and the greater of two are one of the
two, pattern and all, and the first of them where neither is strictly beyond the other.

* `compare_unordered`, `compare_numbers` — the relations between two quantities;
* `compare_exact` — the order is that of the exact values;
* `key_min`, `key_max` — the lesser and the greater of two numbers;
* `reals_ordered` — all of this together.
-/

namespace Dimensional

/-- All that is asked about two scalars without an order. -/
def Scalar.Comparison.unordered : Scalar.Comparison where
  eq := false
  ne := true
  lt := false
  le := false
  gt := false
  ge := false
  partialOrder := none
  totalOrder := none

/-- All that is asked about two scalars that are ordered, of a kind that is not totally ordered. -/
def Scalar.Comparison.ofPartialOrder (o : Ordering) : Scalar.Comparison :=
  { Scalar.Comparison.ofOrder o with totalOrder := none }

open Scalar.Comparison (ofOrder_lt ofOrder_gt ofOrder_eq ofOrder_le)

namespace Quantity

variable {d : Dimension} {p : Precision} {a b c : Quantity d (.float p)}

/-! ### Numbers -/

/-- The scalar is a number. -/
def IsNumber (a : Quantity d (.float p)) : Prop := Binary.isNaN a.value = false

instance (a : Quantity d (.float p)) : Decidable a.IsNumber := inferInstanceAs (Decidable (_ = _))

/-- The place of the scalar in the order of the numbers. -/
def key (a : Quantity d (.float p)) : Int := Binary.orderKey a.value

theorem compare_numbers (ha : a.IsNumber) (hb : b.IsNumber) :
    a.compare b = .ofPartialOrder (Ord.compare a.key b.key) := by
  have order : Scalar.order a.value b.value = some (Ord.compare a.key b.key) := by
    show Binary.partialCompare a.value b.value = _
    rw [IsNumber] at ha hb
    rw [Binary.partialCompare, ha, hb]
    rfl
  show Scalar.compare a.value b.value = _
  rw [Scalar.compare_eq]
  rw [order]
  cases Ord.compare a.key b.key <;> rfl

theorem compare_unordered (h : ¬ (a.IsNumber ∧ b.IsNumber)) : a.compare b = .unordered := by
  have order : Scalar.order a.value b.value = none := by
    refine Binary.partialCompare_eq_none.2 ?_
    simpa only [IsNumber, not_and_or, Bool.not_eq_false] using h
  show Scalar.compare a.value b.value = _
  rw [Scalar.compare_eq]
  rw [order]
  rfl

/-! ### Relations -/

/-- A relation that fails without an order holds of two numbers as it does of their places. -/
theorem related_iff_key {relation : Scalar.Comparison → Bool} {r : Int → Int → Prop}
    (apart : relation .unordered = false)
    (ordered : ∀ x y : Int, relation (.ofPartialOrder (Ord.compare x y)) = true ↔ r x y) :
    relation (a.compare b) = true ↔ (a.IsNumber ∧ b.IsNumber) ∧ r a.key b.key := by
  by_cases h : a.IsNumber ∧ b.IsNumber
  · rw [compare_numbers h.1 h.2, and_iff_right h]
    exact ordered _ _
  · rw [compare_unordered h, apart]
    exact iff_of_false Bool.false_ne_true fun h' => h h'.1

theorem le_iff_key : (a.compare b).le = true ↔ (a.IsNumber ∧ b.IsNumber) ∧ a.key ≤ b.key :=
  related_iff_key rfl fun _ _ => ofOrder_le

theorem lt_iff_key : (a.compare b).lt = true ↔ (a.IsNumber ∧ b.IsNumber) ∧ a.key < b.key :=
  related_iff_key rfl fun _ _ => ofOrder_lt

theorem eq_iff_key : (a.compare b).eq = true ↔ (a.IsNumber ∧ b.IsNumber) ∧ a.key = b.key :=
  related_iff_key rfl fun _ _ => ofOrder_eq

/-- What is transitive for places is transitive for numbers. -/
theorem related_trans {r : Int → Int → Prop} (trans : ∀ {x y z : Int}, r x y → r y z → r x z)
    (h : (a.IsNumber ∧ b.IsNumber) ∧ r a.key b.key) (h' : (b.IsNumber ∧ c.IsNumber) ∧ r b.key c.key) :
    (a.IsNumber ∧ c.IsNumber) ∧ r a.key c.key :=
  ⟨⟨h.1.1, h'.1.2⟩, trans h.2 h'.2⟩

theorem gt_eq_lt (a b : Quantity d (.float p)) : (b.compare a).gt = (a.compare b).lt := by
  by_cases h : a.IsNumber ∧ b.IsNumber
  · rw [compare_numbers h.1 h.2, compare_numbers h.2 h.1, ← Int.compare_swap]
    cases Ord.compare a.key b.key <;> rfl
  · rw [compare_unordered h, compare_unordered fun h' => h h'.symm]
    rfl

/-- **The order of two numbers is that of their values.** -/
theorem compare_exact (ha : a.IsNumber) (hb : b.IsNumber) :
    a.compare b = .ofPartialOrder (Ord.compare (Binary.exact a.value) (Binary.exact b.value)) := by
  rw [compare_numbers ha hb]
  congr 1
  rcases Int.lt_trichotomy a.key b.key with less | same | greater
  · rw [Int.compare_eq_lt.2 less, compare_lt_iff_lt.2 ((Binary.exact_lt_iff ha hb).2 less)]
  · rw [Int.compare_eq_eq.2 same, compare_eq_iff_eq.2 ((Binary.exact_eq_iff ha hb).2 same)]
  · rw [Int.compare_eq_gt.2 greater, compare_gt_iff_gt.2 ((Binary.exact_lt_iff hb ha).2 greater)]

/-- Both zeros have the value zero. -/
theorem exact_signedZero (negative : Bool) : Binary.exact (Binary.signedZero negative : Binary p) = 0 := by
  have finite : (Binary.signedZero negative : Binary p).isInfinite = false := by cases p <;> rfl
  have none : (Binary.signedZero negative : Binary p).signedUnits = 0 := by
    cases negative <;> simp [Binary.signedUnits, Binary.units, Binary.signedZero, Binary.zero]
  rw [Binary.exact_of_finite finite, none]
  simp

/-! ### The lesser and the greater -/

theorem isNumber_min (ha : a.IsNumber) (hb : b.IsNumber) : (a.min b).IsNumber := by
  rw [min_eq]
  split
  · exact hb
  · exact ha

theorem isNumber_max (ha : a.IsNumber) (hb : b.IsNumber) : (a.max b).IsNumber := by
  rw [max_eq]
  split
  · exact hb
  · exact ha

/-- **The lesser of two numbers**, up to the sign of zero. -/
theorem key_min (ha : a.IsNumber) (hb : b.IsNumber) : (a.min b).key = Min.min a.key b.key := by
  simp only [min_eq, lt_iff_key, and_iff_right (And.intro hb ha)]
  split <;> omega

/-- **The greater of two numbers**, up to the sign of zero. -/
theorem key_max (ha : a.IsNumber) (hb : b.IsNumber) : (a.max b).key = Max.max a.key b.key := by
  simp only [max_eq, lt_iff_key, and_iff_right (And.intro ha hb)]
  split <;> omega

/-- The first of two is taken where they are unordered or equal. -/
theorem first_of_not_beyond (h : (a.compare b).partialOrder = none ∨ (a.compare b).eq = true) :
    a.min b = a ∧ a.max b = a := by
  have apart : ¬ ((a.IsNumber ∧ b.IsNumber) ∧ a.key ≠ b.key) := by
    rintro ⟨⟨ha, hb⟩, differ⟩
    rcases h with none | equal
    · rw [compare_numbers ha hb] at none
      exact Option.some_ne_none _ none
    · exact differ (eq_iff_key.1 equal).2
  rw [min_eq, max_eq, if_neg, if_neg]
  · exact ⟨rfl, rfl⟩
  · exact fun less => apart ⟨(lt_iff_key.1 less).1, (lt_iff_key.1 less).2.ne⟩
  · exact fun less => apart ⟨(lt_iff_key.1 less).1.symm, (lt_iff_key.1 less).2.ne'⟩

/-- Two numbers are equal when they have the same place in the order. -/
theorem eq_of_key (ha : a.IsNumber) (hb : b.IsNumber) (h : a.key = b.key) : (a.compare b).eq = true :=
  eq_iff_key.2 ⟨⟨ha, hb⟩, h⟩

/-! ### All together -/

/-- **Real quantities have one partial order.**  Two of them are unordered exactly if one is no number, and
then no relation but `ne` holds.  Numbers have the order of their values, both zeros that of zero: exactly
one of three relations holds, of which the others are made up.  All of them are transitive, and numbers
are totally ordered.  The lesser and the greater of two are the second if that is strictly beyond the first,
and the first in every other case.  On numbers they are those of a lattice, up to the sign of zero. -/
theorem reals_ordered (d : Dimension) (p : Precision) :
    (∀ a b : Quantity d (.float p),
      ((a.compare b).partialOrder = none ↔ Binary.isNaN a.value = true ∨ Binary.isNaN b.value = true) ∧
      ((a.compare b).partialOrder = none →
        (a.compare b).eq = false ∧ (a.compare b).lt = false ∧ (a.compare b).le = false ∧
        (a.compare b).gt = false ∧ (a.compare b).ge = false ∧ (a.compare b).ne = true)) ∧
    (∀ a b : Quantity d (.float p), a.IsNumber → b.IsNumber →
      (a.compare b).partialOrder = some (Ord.compare (Binary.exact a.value) (Binary.exact b.value)) ∧
      ((a.compare b).lt = true ↔ Binary.exact a.value < Binary.exact b.value) ∧
      ((a.compare b).eq = true ↔ Binary.exact a.value = Binary.exact b.value) ∧
      ((a.compare b).gt = true ↔ Binary.exact b.value < Binary.exact a.value) ∧
      [(a.compare b).lt, (a.compare b).eq, (a.compare b).gt].count true = 1 ∧
      (a.compare b).le = ((a.compare b).lt || (a.compare b).eq) ∧
      (a.compare b).ge = ((a.compare b).gt || (a.compare b).eq) ∧
      (a.compare b).ne = !(a.compare b).eq ∧
      ((a.compare b).le = true ∨ (b.compare a).le = true)) ∧
    (∀ negative : Bool, Binary.exact (Binary.signedZero negative : Binary p) = 0) ∧
    (∀ a b c : Quantity d (.float p),
      ((a.compare b).le = true → (b.compare c).le = true → (a.compare c).le = true) ∧
      ((a.compare b).lt = true → (b.compare c).lt = true → (a.compare c).lt = true) ∧
      ((a.compare b).eq = true → (b.compare c).eq = true → (a.compare c).eq = true)) ∧
    (∀ a b : Quantity d (.float p),
      a.min b = (if (b.compare a).lt then b else a) ∧ a.max b = (if (b.compare a).gt then b else a) ∧
      ((a.compare b).partialOrder = none ∨ (a.compare b).eq = true → a.min b = a ∧ a.max b = a)) ∧
    (∀ a b c : Quantity d (.float p), a.IsNumber → b.IsNumber → c.IsNumber →
      ((a.min b).compare (b.min a)).eq = true ∧ ((a.max b).compare (b.max a)).eq = true ∧
      (((a.min b).min c).compare (a.min (b.min c))).eq = true ∧
      (((a.max b).max c).compare (a.max (b.max c))).eq = true ∧
      ((a.min (a.max b)).compare a).eq = true ∧ ((a.max (a.min b)).compare a).eq = true) := by
  refine ⟨fun a b => ⟨?_, ?_⟩, fun a b ha hb => ?_, exact_signedZero, fun a b c => ⟨?_, ?_, ?_⟩,
    fun a b => ⟨min_eq a b, ?_, first_of_not_beyond⟩, fun a b c ha hb hc => ?_⟩
  · exact Binary.partialCompare_eq_none
  · intro none
    have unordered : ¬ (a.IsNumber ∧ b.IsNumber) := fun h => by
      rw [compare_numbers h.1 h.2] at none
      exact Option.some_ne_none _ none
    rw [compare_unordered unordered]
    exact ⟨rfl, rfl, rfl, rfl, rfl, rfl⟩
  · have total := (le_total a.key b.key).imp (fun h => le_iff_key.2 ⟨⟨ha, hb⟩, h⟩)
      fun h => le_iff_key.2 ⟨⟨hb, ha⟩, h⟩
    refine ⟨?_, ?_, ?_, ?_, ?_, ?_, ?_, ?_, total⟩
    all_goals
      rw [compare_exact ha hb]
    · rfl
    · exact ofOrder_lt
    · exact ofOrder_eq
    · exact ofOrder_gt
    all_goals
      cases Ord.compare (Binary.exact a.value) (Binary.exact b.value) <;> rfl
  · exact fun h h' => le_iff_key.2 (related_trans Int.le_trans (le_iff_key.1 h) (le_iff_key.1 h'))
  · exact fun h h' => lt_iff_key.2 (related_trans Int.lt_trans (lt_iff_key.1 h) (lt_iff_key.1 h'))
  · exact fun h h' => eq_iff_key.2 (related_trans Eq.trans (eq_iff_key.1 h) (eq_iff_key.1 h'))
  · rw [max_eq, gt_eq_lt]
  · have lesser := isNumber_min ha hb
    have greater := isNumber_max ha hb
    refine ⟨eq_of_key lesser (isNumber_min hb ha) ?_, eq_of_key greater (isNumber_max hb ha) ?_,
      eq_of_key (isNumber_min lesser hc) (isNumber_min ha (isNumber_min hb hc)) ?_,
      eq_of_key (isNumber_max greater hc) (isNumber_max ha (isNumber_max hb hc)) ?_,
      eq_of_key (isNumber_min ha greater) ha ?_, eq_of_key (isNumber_max ha lesser) ha ?_⟩
    · rw [key_min ha hb, key_min hb ha, min_comm]
    · rw [key_max ha hb, key_max hb ha, max_comm]
    · rw [key_min lesser hc, key_min ha hb, key_min ha (isNumber_min hb hc), key_min hb hc, min_assoc]
    · rw [key_max greater hc, key_max ha hb, key_max ha (isNumber_max hb hc), key_max hb hc, max_assoc]
    · rw [key_min ha greater, key_max ha hb, min_eq_left (le_max_left _ _)]
    · rw [key_max ha lesser, key_min ha hb, max_eq_left (min_le_left _ _)]

/-- The two zeros are equal, and of both the first is taken; what is no number is unordered, even with itself. -/
theorem reals_ordered_zeros :
    let plus : Quantity .one (.float .double) := ⟨Binary.signedZero false⟩
    let minus : Quantity .one (.float .double) := ⟨Binary.signedZero true⟩
    let other : Quantity .one (.float .double) := ⟨Binary.nan⟩
    plus ≠ minus ∧ (plus.compare minus).eq = true ∧ (minus.compare plus).eq = true ∧
      (plus.compare plus).eq = true ∧ plus.max minus = plus ∧ minus.max plus = minus ∧
      ((plus.max minus).compare (minus.max plus)).eq = true ∧
      (other.compare other).partialOrder = none ∧ (other.compare other).ne = true ∧
      other.min plus = other ∧ plus.min other = plus := by
  intro plus minus other
  obtain ⟨hnone, horder, hzero, htrans, hpick, hlattice⟩ := reals_ordered .one .double
  have hplus : plus.IsNumber := by decide
  have hminus : minus.IsNumber := by decide
  have hsame : (plus.compare minus).eq = true :=
    (horder plus minus hplus hminus).2.2.1.2 ((hzero false).trans (hzero true).symm)
  have hback : (minus.compare plus).eq = true := by decide
  have hother : (other.compare other).partialOrder = none := (hnone other other).1.2 (.inl (by decide))
  exact ⟨by decide, hsame, hback, (htrans plus minus plus).2.2 hsame hback, ((hpick plus minus).2.2 (.inr hsame)).2,
    ((hpick minus plus).2.2 (.inr hback)).2, (hlattice plus minus plus hplus hminus hplus).2.1, hother,
    ((hnone other other).2 hother).2.2.2.2.2, (hpick other plus).1, (hpick plus other).1⟩

end Quantity

end Dimensional
