import Dimensional.Program.Step
import Dimensional.Proofs.Quantity.Integers
import Mathlib.Algebra.BigOperators.Group.List.Basic
import Mathlib.Algebra.Order.BigOperators.Group.List
import Mathlib.Algebra.Order.Ring.Int

/-!
# Sums of quantities

A sum adds from the first quantity to the last, starting from the default, and stops where the total so far
leaves the range.  Whether it completes is therefore a matter of all its partial sums, and so of the order of
its items, unless no item is negative; what it comes to is the exact total in every order.

* `sumInPlace_eq` — a total that is changed in place comes to the same;
* `foldlM_add_eq_ok` — what a run of additions needs, and what it comes to;
* `sum_eq_ok`, `sum_eq_error` — a sum, which is such a run;
* `inRange_of_unsigned`, `sum_perm_of_unsigned` — without negative items the last total decides;
* `sum_append` — a sum may be cut in two;
* `sums_exact` — all of this together.
-/

namespace Dimensional.Quantity

open Program (JointUpdate)

variable {d : Dimension} {k : ScalarKind} {l : IntKind}

/-! ### Three ways to a sum -/

/-- The quantities are added one after the other to a total that is changed in place, from the default on. -/
def sumInPlace (qs : List (Quantity d k)) : Except Fault (Quantity d k) :=
  qs.foldlM (fun total q => JointUpdate.add.apply total q) zero

theorem sumInPlace_eq (qs : List (Quantity d k)) : sumInPlace qs = sum qs := by
  have hadd : (fun total q : Quantity d k => JointUpdate.add.apply total q) = add := by
    funext total q
    exact JointUpdate.add.apply_eq total q
  rw [sumInPlace, hadd, sum]

/-! ### Exact totals -/

/-- The exact total. -/
def total (qs : List (Quantity d (.int l))) : Int := (qs.map toInt).sum

@[simp] theorem total_nil : total ([] : List (Quantity d (.int l))) = 0 := rfl

@[simp] theorem total_cons (q : Quantity d (.int l)) (qs : List (Quantity d (.int l))) :
    total (q :: qs) = q.toInt + total qs := by
  simp [total]

@[simp] theorem total_append (xs ys : List (Quantity d (.int l))) :
    total (xs ++ ys) = total xs + total ys := by
  simp [total]

theorem total_perm {xs ys : List (Quantity d (.int l))} (h : xs.Perm ys) : total xs = total ys :=
  (h.map toInt).sum_eq

@[simp] theorem toInt_zero : (zero : Quantity d (.int l)).toInt = 0 := rfl

/-! ### A run of additions -/

/-- **A run of additions completes exactly when none of its partial sums leaves the range**, and is exact. -/
theorem foldlM_add_eq_ok {start s : Quantity d (.int l)} {qs : List (Quantity d (.int l))} :
    qs.foldlM add start = .ok s ↔
      (∀ n, l.Holds (start.toInt + total (qs.take n))) ∧ s.toInt = start.toInt + total qs := by
  induction qs generalizing start with
  | nil =>
    have hstart : l.Holds start.toInt := Fixed.holds start.value
    constructor
    · intro h
      obtain rfl : start = s := Except.ok.inj h
      simpa using hstart
    · rintro ⟨-, hs⟩
      have hsame : s = start := ext_toInt (by simpa using hs)
      rw [hsame]
      rfl
  | cons q qs ih =>
    -- the partial sums of the rest count from the total after the first item
    rw [List.foldlM_cons, bind_eq_ok]
    constructor
    · rintro ⟨m, hm, hrest⟩
      have hfirst : m.toInt = start.toInt + q.toInt := add_eq_ok.1 hm
      obtain ⟨hholds, hs⟩ := ih.1 hrest
      refine ⟨fun n => ?_, by rw [hs, hfirst, total_cons]; omega⟩
      cases n with
      | zero => simpa using Fixed.holds start.value
      | succ n =>
        have h := hholds n
        rw [hfirst] at h
        rw [List.take_succ_cons, total_cons, ← Int.add_assoc]
        exact h
    · rintro ⟨hholds, hs⟩
      have hfirst : l.Holds (start.toInt + q.toInt) := by simpa using hholds 1
      refine ⟨⟨⟨_, hfirst.1, hfirst.2⟩⟩, add_eq_ok.2 rfl, ih.2 ⟨fun n => ?_, ?_⟩⟩
      · have h := hholds (n + 1)
        rw [List.take_succ_cons, total_cons, ← Int.add_assoc] at h
        exact h
      · rw [hs, total_cons]
        exact (Int.add_assoc _ _ _).symm

/-- A run of additions stops with no other fault. -/
theorem foldlM_add_fault {start : Quantity d (.int l)} {qs : List (Quantity d (.int l))} {fault : Fault}
    (h : qs.foldlM add start = .error fault) : fault = .addOverflow := by
  induction qs generalizing start with
  | nil => cases h
  | cons q qs ih =>
    rw [List.foldlM_cons] at h
    rcases bind_eq_error.1 h with hfirst | ⟨m, -, hrest⟩
    · exact (add_eq_error.1 hfirst).2
    · exact ih hrest

/-! ### Sums -/

/-- The total so far is in range after every item. -/
def InRange (qs : List (Quantity d (.int l))) : Prop := ∀ n, l.Holds (total (qs.take n))

theorem sum_eq_ok {qs : List (Quantity d (.int l))} {s : Quantity d (.int l)} :
    sum qs = .ok s ↔ InRange qs ∧ s.toInt = total qs := by
  rw [sum, foldlM_add_eq_ok]
  simp only [toInt_zero, Int.zero_add]
  exact Iff.rfl

theorem holds_total {qs : List (Quantity d (.int l))} (h : InRange qs) : l.Holds (total qs) := by
  have hlast := h qs.length
  rwa [List.take_length] at hlast

theorem exists_sum_iff {qs : List (Quantity d (.int l))} : (∃ s, sum qs = .ok s) ↔ InRange qs := by
  constructor
  · rintro ⟨s, hs⟩
    exact (sum_eq_ok.1 hs).1
  · intro h
    have hlast := holds_total h
    exact ⟨⟨⟨_, hlast.1, hlast.2⟩⟩, sum_eq_ok.2 ⟨h, rfl⟩⟩

theorem sum_eq_error {qs : List (Quantity d (.int l))} {fault : Fault} :
    sum qs = .error fault ↔ ¬ InRange qs ∧ fault = .addOverflow := by
  rw [← exists_sum_iff]
  cases hsum : sum qs with
  | error other =>
    have hother : other = .addOverflow := foldlM_add_fault hsum
    constructor
    · intro h
      cases h
      exact ⟨nofun, hother⟩
    · rintro ⟨-, rfl⟩
      rw [hother]
  | ok s => exact ⟨nofun, fun h => absurd ⟨s, rfl⟩ h.1⟩

/-- Where the same sums are in range and the totals agree, the outcomes do. -/
theorem sum_congr {xs ys : List (Quantity d (.int l))} (hrange : InRange xs ↔ InRange ys)
    (htotal : total xs = total ys) : sum xs = sum ys := by
  cases hsum : sum ys with
  | ok s =>
    obtain ⟨hys, hs⟩ := sum_eq_ok.1 hsum
    exact sum_eq_ok.2 ⟨hrange.2 hys, hs.trans htotal.symm⟩
  | error fault =>
    obtain ⟨hys, hfault⟩ := sum_eq_error.1 hsum
    exact sum_eq_error.2 ⟨mt hrange.1 hys, hfault⟩

/-- The order of the items is not seen in a sum. -/
theorem sum_unique {xs ys : List (Quantity d (.int l))} (h : xs.Perm ys) {s t : Quantity d (.int l)}
    (hs : sum xs = .ok s) (ht : sum ys = .ok t) : s = t := by
  refine ext_toInt ?_
  rw [(sum_eq_ok.1 hs).2, (sum_eq_ok.1 ht).2, total_perm h]

/-! ### Without a sign -/

theorem min_of_unsigned (h : l.signed = false) : l.min = 0 := by
  simp [IntKind.min, h]

theorem total_nonneg (h : l.signed = false) (qs : List (Quantity d (.int l))) : 0 ≤ total qs := by
  refine List.sum_nonneg fun n hn => ?_
  obtain ⟨q, -, rfl⟩ := List.mem_map.1 hn
  have hmin : l.min ≤ q.toInt := (Fixed.holds q.value).1
  rwa [min_of_unsigned h] at hmin

/-- No partial sum is greater than the total. -/
theorem inRange_of_unsigned (h : l.signed = false) {qs : List (Quantity d (.int l))} :
    InRange qs ↔ l.Holds (total qs) := by
  constructor
  · exact holds_total
  · rintro ⟨-, hmax⟩ n
    have hfirst := total_nonneg h (qs.take n)
    have hrest := total_nonneg h (qs.drop n)
    have hcut : total (qs.take n) + total (qs.drop n) = total qs := by
      rw [← total_append, List.take_append_drop]
    refine ⟨?_, by omega⟩
    rw [min_of_unsigned h]
    exact hfirst

theorem sum_perm_of_unsigned (h : l.signed = false) {xs ys : List (Quantity d (.int l))} (hperm : xs.Perm ys) :
    sum xs = sum ys := by
  have htotal := total_perm hperm
  refine sum_congr ?_ htotal
  rw [inRange_of_unsigned h, inRange_of_unsigned h, htotal]

/-! ### A sum cut in two -/

theorem inRange_of_append {xs ys : List (Quantity d (.int l))} (h : InRange (xs ++ ys)) : InRange xs := by
  intro n
  have hcut : (xs ++ ys).take (Nat.min n xs.length) = xs.take n := by
    rw [List.take_append_of_le_length (Nat.min_le_right n xs.length)]
    exact List.take_eq_take_min.symm
  rw [← hcut]
  exact h _

/-- **A sum may be cut in two**: the first part completes with the whole, and if the second part does, the two
add up to the whole. -/
theorem sum_append {xs ys : List (Quantity d (.int l))} {s : Quantity d (.int l)} (h : sum (xs ++ ys) = .ok s) :
    ∃ t, sum xs = .ok t ∧ ∀ u, sum ys = .ok u → t.add u = .ok s := by
  obtain ⟨hrange, hs⟩ := sum_eq_ok.1 h
  obtain ⟨t, ht⟩ := exists_sum_iff.2 (inRange_of_append hrange)
  refine ⟨t, ht, fun u hu => add_eq_ok.2 ?_⟩
  rw [hs, total_append, (sum_eq_ok.1 ht).2, (sum_eq_ok.1 hu).2]

/-! ### All together -/

/-- **A sum loses nothing and invents nothing.**  For scalars of every kind the three ways of adding up have
one outcome.  For integers it is the exact total if no partial sum leaves the range, and the overflow of an
addition otherwise.  So without negative items the total alone decides, in every order; with them, all
orders that complete agree.  The first part of a sum that completes does too, and the sums of two parts add
up to the whole. -/
theorem sums_exact :
    (∀ (d : Dimension) (k : ScalarKind) (qs : List (Quantity d k)),
      sumOf id qs = sum qs ∧ sumInPlace qs = sum qs) ∧
    (∀ (d : Dimension) (l : IntKind) (qs : List (Quantity d (.int l))),
      (∀ s, sum qs = .ok s ↔ (∀ n, l.Holds (total (qs.take n))) ∧ s.toInt = total qs) ∧
      ((∃ s, sum qs = .ok s) ↔ ∀ n, l.Holds (total (qs.take n))) ∧
      (∀ fault, sum qs = .error fault ↔ (∃ n, ¬ l.Holds (total (qs.take n))) ∧ fault = .addOverflow)) ∧
    (∀ (d : Dimension) (l : IntKind), l.signed = false →
      (∀ qs : List (Quantity d (.int l)), (∃ s, sum qs = .ok s) ↔ total qs ≤ l.max) ∧
      (∀ xs ys : List (Quantity d (.int l)), xs.Perm ys → sum xs = sum ys)) ∧
    (∀ (d : Dimension) (l : IntKind) (xs ys : List (Quantity d (.int l))), xs.Perm ys →
      ∀ s t, sum xs = .ok s → sum ys = .ok t → s = t) ∧
    (∀ (d : Dimension) (l : IntKind) (xs ys : List (Quantity d (.int l))) (s : Quantity d (.int l)),
      sum (xs ++ ys) = .ok s → ∃ t, sum xs = .ok t ∧ ∀ u, sum ys = .ok u → t.add u = .ok s) := by
  refine ⟨fun d k qs => ⟨sumOf_id qs, sumInPlace_eq qs⟩, ?_, ?_, ?_, ?_⟩
  · intro d l qs
    refine ⟨fun s => sum_eq_ok, exists_sum_iff, fun fault => ?_⟩
    rw [sum_eq_error, InRange, not_forall]
  · intro d l h
    refine ⟨fun qs => ?_, fun xs ys hperm => sum_perm_of_unsigned h hperm⟩
    have hmin : l.min ≤ total qs := by
      rw [min_of_unsigned h]
      exact total_nonneg h qs
    rw [exists_sum_iff, inRange_of_unsigned h]
    exact ⟨fun hholds => hholds.2, fun hmax => ⟨hmin, hmax⟩⟩
  · intro d l xs ys hperm s t hs ht
    exact sum_unique hperm hs ht
  · intro d l xs ys s h
    exact sum_append h

/-- A hundred in eight bits with a sign, or as much below zero. -/
def hundred (negative : Bool) : Quantity .one (.int ⟨true, .w8⟩) :=
  if negative then ⟨⟨-100, by decide, by decide⟩⟩ else ⟨⟨100, by decide, by decide⟩⟩

/-- Two hundred in eight bits without a sign. -/
def twoHundred : Quantity .one (.int ⟨false, .w8⟩) := ⟨⟨200, by decide, by decide⟩⟩

/-- With a sign the order decides whether a sum completes; without one it cannot. -/
theorem sums_exact_hundreds :
    sum [hundred false, hundred true, hundred false] = .ok (hundred false) ∧
      sum [hundred false, hundred false, hundred true] = .error .addOverflow ∧
      (∃ t, sum [hundred false, hundred true] = .ok t ∧ t.add (hundred false) = .ok (hundred false)) ∧
      (∀ ys, [twoHundred, twoHundred].Perm ys → ¬ ∃ s, sum ys = .ok s) := by
  obtain ⟨-, hint, hunsigned, -, happend⟩ := sums_exact
  have hholds : ∀ n, IntKind.Holds ⟨true, .w8⟩ (total ([hundred false, hundred true, hundred false].take n)) := by
    intro n
    rcases n with _ | _ | _ | n
    · decide
    · decide
    · decide
    · rw [List.take_of_length_le (Nat.le_add_left 3 n)]
      decide
  have hsum := ((hint _ _ [hundred false, hundred true, hundred false]).1 (hundred false)).2 ⟨hholds, rfl⟩
  have hexceeds : ¬ IntKind.Holds ⟨true, .w8⟩ (total ([hundred false, hundred false, hundred true].take 2)) := by
    decide
  have hstops := ((hint _ _ [hundred false, hundred false, hundred true]).2.2 .addOverflow).2 ⟨⟨2, hexceeds⟩, rfl⟩
  obtain ⟨t, ht, hrest⟩ := happend _ _ [hundred false, hundred true] [hundred false] _ hsum
  refine ⟨hsum, hstops, ⟨t, ht, hrest _ rfl⟩, ?_⟩
  intro ys hys
  obtain ⟨hcompletes, hsame⟩ := hunsigned .one ⟨false, .w8⟩ rfl
  rw [← hsame _ _ hys, hcompletes]
  decide

end Dimensional.Quantity
