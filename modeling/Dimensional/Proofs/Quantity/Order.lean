import Dimensional.Proofs.Integer.Bytes
import Dimensional.Proofs.Quantity.Integers
import Mathlib.Data.List.Sort
import Mathlib.Order.Compare
import Mathlib.Order.Lattice

/-!
# The order of integer quantities

Quantities of integers under one dimension have one order, that of their integers.  The six relations, the
lesser and the greater of two, sorting and hashing all follow from it.

* `compare_eq` — the relations are those of one order;
* `linearOrder` — which is linear, with the lesser and the greater of two as its lattice;
* `sort_eq_iff` — sorting gives the one ascending arrangement of a list;
* `hashBytes?_eq_iff` — equal bytes are hashed for equal quantities, and for no others;
* `integers_ordered` — all of this together.
-/

namespace Dimensional

namespace Scalar.Comparison

/-- All that is asked about two scalars that are totally ordered, from their order. -/
def ofOrder (o : Ordering) : Comparison where
  eq := o == .eq
  ne := o != .eq
  lt := o == .lt
  le := o != .gt
  gt := o == .gt
  ge := o != .lt
  partialOrder := some o
  totalOrder := some o

section

variable {α : Type} [LinearOrder α] {x y : α}

theorem ofOrder_lt : (ofOrder (Ord.compare x y)).lt = true ↔ x < y := beq_iff_eq.trans compare_lt_iff_lt

theorem ofOrder_gt : (ofOrder (Ord.compare x y)).gt = true ↔ y < x := beq_iff_eq.trans compare_gt_iff_gt

theorem ofOrder_eq : (ofOrder (Ord.compare x y)).eq = true ↔ x = y := beq_iff_eq.trans compare_eq_iff_eq

theorem ofOrder_le : (ofOrder (Ord.compare x y)).le = true ↔ x ≤ y := bne_iff_ne.trans compare_le_iff_le

end

end Scalar.Comparison

open Scalar.Comparison (ofOrder_lt ofOrder_eq ofOrder_le)

namespace Quantity

variable {d : Dimension}

/-! ### The lesser and the greater, for scalars of every kind -/

section Kinds

variable {l : ScalarKind}

theorem min_eq (a b : Quantity d l) : a.min b = if (b.compare a).lt then b else a := by
  show Quantity.mk (if Scalar.less b.value a.value then b.value else a.value) = _
  rw [apply_ite Quantity.mk]
  rfl

theorem max_eq (a b : Quantity d l) : a.max b = if (a.compare b).lt then b else a := by
  show Quantity.mk (if Scalar.less a.value b.value then b.value else a.value) = _
  rw [apply_ite Quantity.mk]
  rfl

end Kinds

/-! ### One order -/

variable {k : IntKind}

/-- **The relations between two quantities are those of the order of their integers.** -/
theorem compare_eq (a b : Quantity d (.int k)) :
    a.compare b = .ofOrder (Ord.compare a.toInt b.toInt) := by
  have order : Scalar.order a.value b.value = some (Ord.compare a.toInt b.toInt) := rfl
  show Scalar.compare a.value b.value = _
  rw [Scalar.compare_eq]
  rw [order]
  cases Ord.compare a.toInt b.toInt <;> rfl

theorem compare_le_iff {a b : Quantity d (.int k)} : (a.compare b).le = true ↔ a.toInt ≤ b.toInt := by
  rw [compare_eq, ofOrder_le]

theorem compare_lt_iff {a b : Quantity d (.int k)} : (a.compare b).lt = true ↔ a.toInt < b.toInt := by
  rw [compare_eq, ofOrder_lt]

theorem compare_eq_iff {a b : Quantity d (.int k)} : (a.compare b).eq = true ↔ a = b := by
  rw [compare_eq, ofOrder_eq]
  exact ⟨ext_toInt, congrArg toInt⟩

theorem compare_lt_iff_not_le {a b : Quantity d (.int k)} :
    (b.compare a).lt = true ↔ ¬ (a.compare b).le = true := by
  rw [compare_lt_iff, compare_le_iff, Int.not_le]

/-- **The order is linear**, and the lesser and the greater of two are its lattice. -/
@[reducible]
def linearOrder (d : Dimension) (k : IntKind) : LinearOrder (Quantity d (.int k)) where
  le a b := (a.compare b).le = true
  lt a b := (a.compare b).lt = true
  min := min
  max := max
  compare a b := Ord.compare a.toInt b.toInt
  le_refl a := compare_le_iff.2 (Int.le_refl _)
  le_trans a b c h h' := compare_le_iff.2 (Int.le_trans (compare_le_iff.1 h) (compare_le_iff.1 h'))
  le_antisymm a b h h' := ext_toInt (Int.le_antisymm (compare_le_iff.1 h) (compare_le_iff.1 h'))
  le_total a b := (Int.le_total a.toInt b.toInt).imp compare_le_iff.2 compare_le_iff.2
  lt_iff_le_not_ge a b := by
    rw [compare_lt_iff, compare_le_iff, compare_le_iff]
    omega
  toDecidableLE := fun a b => inferInstanceAs (Decidable ((a.compare b).le = true))
  toDecidableLT := fun a b => inferInstanceAs (Decidable ((a.compare b).lt = true))
  toDecidableEq := inferInstance
  min_def a b := by
    show a.min b = if (a.compare b).le = true then a else b
    simp only [min_eq, compare_lt_iff_not_le, ite_not]
  max_def a b := by
    show a.max b = if (a.compare b).le = true then b else a
    simp only [max_eq, compare_lt_iff, compare_le_iff]
    rcases Int.lt_trichotomy a.toInt b.toInt with less | same | greater
    · rw [if_pos less, if_pos (Int.le_of_lt less)]
    · rw [ext_toInt same, ite_self, ite_self]
    · rw [if_neg (Int.lt_asymm greater), if_neg (Int.not_le.2 greater)]
  compare_eq_compareOfLessAndEq a b := by
    have same : a = b ↔ a.toInt = b.toInt := ⟨congrArg toInt, ext_toInt⟩
    show compareOfLessAndEq a.toInt b.toInt =
      if (a.compare b).lt = true then .lt else if a = b then .eq else .gt
    simp only [compareOfLessAndEq, compare_lt_iff, same]

theorem min_max_perm (a b : Quantity d (.int k)) : [a.min b, a.max b].Perm [a, b] := by
  let _ := linearOrder d k
  have lesser : a.min b = Min.min a b := rfl
  have greater : a.max b = Max.max a b := rfl
  rw [lesser, greater]
  rcases le_total a b with h | h
  · rw [min_eq_left h, max_eq_right h]
  · rw [min_eq_right h, max_eq_left h]
    exact List.Perm.swap a b []

/-! ### Sorting -/

/-- No quantity of the list is followed by a lesser one. -/
def Ascending (qs : List (Quantity d (.int k))) : Prop := qs.Pairwise fun a b => (a.compare b).le = true

theorem sort_perm (qs : List (Quantity d (.int k))) : (sort qs).Perm qs := by
  have perm : (Scalar.sort (qs.map value)).Perm (qs.map value) := List.mergeSort_perm _ _
  have back : (qs.map value).map Quantity.mk = qs := by
    rw [List.map_map]
    exact List.map_id qs
  rw [sort]
  exact (perm.map Quantity.mk).trans (.of_eq back)

theorem sort_ascending (qs : List (Quantity d (.int k))) : Ascending (sort qs) := by
  -- what sorting compares scalars by
  let atMost (a b : Fixed k) : Bool := !Scalar.less (k := .int k) b a
  have atMost_iff : ∀ a b, atMost a b = true ↔ a.toInt ≤ b.toInt := by
    intro a b
    have less := less_iff (d := d) (q := ⟨b⟩) (r := ⟨a⟩)
    rw [Bool.not_eq_true', Bool.eq_false_iff, ne_eq, less, Int.not_lt]
  have sorted : ((qs.map value).mergeSort atMost).Pairwise fun a b => atMost a b = true := by
    refine List.pairwise_mergeSort (fun a b c h h' => ?_) (fun a b => ?_) _
    · exact (atMost_iff a c).2 (Int.le_trans ((atMost_iff a b).1 h) ((atMost_iff b c).1 h'))
    · rw [Bool.or_eq_true, atMost_iff, atMost_iff]
      exact Int.le_total _ _
  rw [Ascending, sort, List.pairwise_map]
  exact sorted.imp fun {a b} h => compare_le_iff.2 ((atMost_iff a b).1 h)

/-- **Sorting gives the one ascending arrangement of a list.** -/
theorem sort_eq_iff {qs rs : List (Quantity d (.int k))} : sort qs = rs ↔ rs.Perm qs ∧ Ascending rs := by
  constructor
  · rintro rfl
    exact ⟨sort_perm qs, sort_ascending qs⟩
  · rintro ⟨perm, ascending⟩
    let _ := linearOrder d k
    exact ((sort_perm qs).trans perm.symm).eq_of_pairwise (fun _ _ _ _ h h' => le_antisymm h h')
      (sort_ascending qs) ascending

/-! ### Hashing -/

/-- **Equal bytes are hashed for equal quantities**, and for no others. -/
theorem hashBytes?_eq_iff {a b : Quantity d (.int k)} :
    Scalar.hashBytes? a.value = Scalar.hashBytes? b.value ↔ a = b := by
  constructor
  · intro h
    have bytes : Fixed.littleEndian a.value = Fixed.littleEndian b.value := Option.some.inj h
    exact ext_toInt (congrArg Fixed.toInt (Fixed.littleEndian_injective bytes))
  · rintro rfl
    rfl

/-! ### All together -/

/-- **Integer quantities have one order.**  The relations, and both comparisons, are those of the integers,
of which exactly one holds; the order is transitive, and its two directions mirror each other.  The lesser
and the greater of two make a distributive lattice for it, and are the two that they are taken of.  Sorting
gives the one ascending arrangement of a list.  What is hashed has the size of the scalar, the integer can be
read from it, and it is the same exactly for equal quantities. -/
theorem integers_ordered (d : Dimension) (k : IntKind) :
    (∀ a b : Quantity d (.int k),
      a.compare b = .ofOrder (Ord.compare a.toInt b.toInt) ∧
      b.compare a = .ofOrder (Ord.compare a.toInt b.toInt).swap ∧
      [(a.compare b).lt, (a.compare b).eq, (a.compare b).gt].count true = 1 ∧
      ((a.compare b).eq = true ↔ a = b)) ∧
    (∀ a b c : Quantity d (.int k),
      (a.compare b).le = true → (b.compare c).le = true → (a.compare c).le = true) ∧
    (∀ a b : Quantity d (.int k),
      a.min b = b.min a ∧ a.max b = b.max a ∧ a.min (a.max b) = a ∧ a.max (a.min b) = a ∧
      ((a.compare b).le = true ↔ a.min b = a) ∧ ((a.compare b).le = true ↔ a.max b = b) ∧
      [a.min b, a.max b].Perm [a, b]) ∧
    (∀ a b c : Quantity d (.int k),
      (a.min b).min c = a.min (b.min c) ∧ (a.max b).max c = a.max (b.max c) ∧
      a.min (b.max c) = (a.min b).max (a.min c) ∧ a.max (b.min c) = (a.max b).min (a.max c)) ∧
    (∀ qs rs : List (Quantity d (.int k)),
      sort qs = rs ↔ rs.Perm qs ∧ rs.Pairwise fun a b => (a.compare b).le = true) ∧
    (∀ a : Quantity d (.int k), ∃ bytes, Scalar.hashBytes? a.value = some bytes ∧
      bytes.length = (ScalarKind.int k).bytes ∧ Fixed.ofLittleEndian k bytes = a.toInt) ∧
    (∀ a b : Quantity d (.int k),
      Scalar.hashBytes? a.value = Scalar.hashBytes? b.value ↔ (a.compare b).eq = true) := by
  let _ := linearOrder d k
  refine ⟨fun a b => ⟨compare_eq a b, ?_, ?_, compare_eq_iff⟩, fun a b c => le_trans (a := a), ?_, ?_,
    fun qs rs => sort_eq_iff, ?_, ?_⟩
  · rw [compare_eq, Int.compare_swap]
  · rw [compare_eq]
    cases Ord.compare a.toInt b.toInt <;> rfl
  · intro a b
    have hmin : a ≤ b ↔ a.min b = a := (inf_eq_left (a := a)).symm
    have hmax : a ≤ b ↔ a.max b = b := (sup_eq_right (a := a)).symm
    exact ⟨min_comm a b, max_comm a b, inf_sup_self, sup_inf_self, hmin, hmax, min_max_perm a b⟩
  · intro a b c
    exact ⟨min_assoc a b c, max_assoc a b c, inf_sup_left a b c, sup_inf_left a b c⟩
  · intro a
    exact ⟨_, rfl, Fixed.littleEndian_length _, Fixed.ofLittleEndian_littleEndian _⟩
  · intro a b
    rw [hashBytes?_eq_iff, compare_eq_iff]

/-- A byte with a sign. -/
def byte (n : Int) (h : IntKind.Holds ⟨true, .w8⟩ n) : Quantity .one (.int ⟨true, .w8⟩) := ⟨⟨n, h.1, h.2⟩⟩

/-- A byte below zero is hashed as one of the greater numbers, and still comes first. -/
theorem integers_ordered_bytes :
    let least := byte (-128) (by decide)
    let middle := byte (-1) (by decide)
    let greatest := byte 127 (by decide)
    (least.compare middle).le = true ∧ (middle.compare greatest).le = true ∧
      (least.compare greatest).le = true ∧ sort [middle, greatest, least] = [least, middle, greatest] ∧
      Scalar.hashBytes? least.value = some [128] ∧ Fixed.ofLittleEndian ⟨true, .w8⟩ [128] = -128 := by
  intro least middle greatest
  obtain ⟨-, htrans, -, -, hsort, hhash, -⟩ := integers_ordered .one ⟨true, .w8⟩
  have hfirst : (least.compare middle).le = true := by decide
  have hlast : (middle.compare greatest).le = true := by decide
  have hsorted : [least, middle, greatest].Perm [middle, greatest, least] ∧
      [least, middle, greatest].Pairwise fun a b => (a.compare b).le = true := by decide
  obtain ⟨bytes, hbytes, -, hread⟩ := hhash least
  cases hbytes
  exact ⟨hfirst, hlast, htrans _ _ _ hfirst hlast, (hsort _ _).2 hsorted, rfl, hread⟩

end Quantity

end Dimensional
