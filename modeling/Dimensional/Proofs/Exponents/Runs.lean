import Dimensional.Proofs.Dimension.Expressions
import Mathlib.Algebra.BigOperators.Group.List.Basic
import Mathlib.Algebra.Ring.Int.Defs

/-!
# Runs on exponents

A run takes a vector through products and quotients in 32 bits.  On every axis it adds up integers, each
with the sign of its operator; it completes exactly when none of the partial sums leaves the range, and ends
with the exact sum.  So neither the order of the factors nor the way in which they are grouped is seen in a
result, although it may decide whether there is one.

* `Factor.apply_eq_ok`, `Factor.exists_apply` — one step is exact, and taken wherever its result is in range;
* `run_eq_ok` — so is a run, wherever all its partial sums are;
* `Grouping.eval_sum` — what any grouping of factors comes to;
* `run_within_range` — all of this together, and what undoes a step.
-/

namespace Dimensional

/-- The operator that undoes this one. -/
def Operator.opposite : Operator → Operator
  | product => quotient
  | quotient => product

namespace Exponents

/-! ### One step -/

/-- A vector, and the operator that brings it in. -/
structure Factor where
  op : Operator
  vector : Exponents
  deriving DecidableEq

namespace Factor

/-- What the factor adds on an axis. -/
def share (f : Factor) (axis : Axis) : Int :=
  match f.op with
  | .product => (f.vector.get axis).toInt
  | .quotient => -(f.vector.get axis).toInt

/-- The step that brings the factor in. -/
def apply (f : Factor) (e : Exponents) : Except Fault Exponents := f.op.onConstants e f.vector

/-- The factor that undoes this one. -/
def inverse (f : Factor) : Factor := { f with op := f.op.opposite }

theorem share_inverse (f : Factor) (axis : Axis) : f.inverse.share axis = -f.share axis := by
  obtain ⟨op, vector⟩ := f
  cases op with
  | product => rfl
  | quotient => exact (Int.neg_neg _).symm

/-- **A step is exact.** -/
theorem apply_eq_ok {f : Factor} {e r : Exponents} :
    f.apply e = .ok r ↔ ∀ axis, (r.get axis).toInt = (e.get axis).toInt + f.share axis := by
  obtain ⟨op, vector⟩ := f
  cases op with
  | product => exact multiply_eq_ok
  | quotient =>
    refine divide_eq_ok.trans (forall_congr' fun axis => ?_)
    rw [Int.sub_eq_add_neg]
    rfl

/-- A step is taken wherever its result is in range. -/
theorem exists_apply {f : Factor} {e : Exponents}
    (h : ∀ axis, IntKind.i32.Holds ((e.get axis).toInt + f.share axis)) : ∃ r, f.apply e = .ok r := by
  refine ⟨PerAxis.build fun axis => ⟨_, (h axis).1, (h axis).2⟩, apply_eq_ok.2 fun axis => ?_⟩
  rw [PerAxis.get_build]

/-- The inverse factor takes a step back. -/
theorem apply_inverse {f : Factor} {e r : Exponents} (h : f.apply e = .ok r) :
    f.inverse.apply r = .ok e := by
  refine apply_eq_ok.2 fun axis => ?_
  rw [apply_eq_ok.1 h axis, share_inverse, Int.add_neg_cancel_right]

end Factor

/-! ### A run -/

/-- Bring in one factor after the other; the first one that overflows stops the run. -/
def run (e : Exponents) (factors : List Factor) : Except Fault Exponents :=
  factors.foldlM (fun e f => f.apply e) e

/-- The exponent on an axis and what the factors add to it. -/
def total (e : Exponents) (factors : List Factor) (axis : Axis) : Int :=
  (e.get axis).toInt + (factors.map fun f => f.share axis).sum

theorem total_nil (e : Exponents) (axis : Axis) : total e [] axis = (e.get axis).toInt :=
  Int.add_zero _

/-- The total counts from any vector on the way. -/
theorem total_cons {f : Factor} {e m : Exponents} (h : f.apply e = .ok m) (factors : List Factor)
    (axis : Axis) : total e (f :: factors) axis = total m factors axis := by
  rw [total, total, List.map_cons, List.sum_cons, Factor.apply_eq_ok.1 h axis, Int.add_assoc]

theorem total_perm {factors factors' : List Factor} (h : factors.Perm factors') (e : Exponents)
    (axis : Axis) : total e factors axis = total e factors' axis := by
  rw [total, total, (h.map _).sum_eq]

/-- **A run completes exactly when all its partial sums are in range**, and is exact. -/
theorem run_eq_ok {e r : Exponents} {factors : List Factor} :
    run e factors = .ok r ↔
      (∀ n axis, IntKind.i32.Holds (total e (factors.take n) axis)) ∧
        ∀ axis, (r.get axis).toInt = total e factors axis := by
  induction factors generalizing e with
  | nil =>
    constructor
    · intro h
      obtain rfl : e = r := Except.ok.inj h
      refine ⟨fun n axis => ?_, fun axis => (total_nil e axis).symm⟩
      rw [List.take_nil, total_nil]
      exact (e.get axis).holds
    · rintro ⟨-, hr⟩
      have hsame : r = e := ext_toInt fun axis => (hr axis).trans (total_nil e axis)
      rw [hsame]
      rfl
  | cons f factors ih =>
    -- the sums of the rest count from the vector after the first step, by `total_cons`
    rw [run, List.foldlM_cons, bind_eq_ok]
    constructor
    · rintro ⟨m, hm, hrest⟩
      obtain ⟨hholds, hr⟩ := ih.1 hrest
      refine ⟨fun n axis => ?_, fun axis => by rw [hr, total_cons hm]⟩
      cases n with
      | zero =>
        rw [List.take_zero, total_nil]
        exact (e.get axis).holds
      | succ n =>
        rw [List.take_succ_cons, total_cons hm]
        exact hholds n axis
    · rintro ⟨hholds, hr⟩
      have hfirst : ∀ axis, IntKind.i32.Holds ((e.get axis).toInt + f.share axis) := by
        intro axis
        have h := hholds 1 axis
        rw [List.take_succ_cons, List.take_zero, total, List.map_singleton, List.sum_singleton] at h
        exact h
      obtain ⟨m, hm⟩ := Factor.exists_apply hfirst
      refine ⟨m, hm, ih.2 ⟨fun n axis => ?_, fun axis => by rw [hr, total_cons hm]⟩⟩
      rw [← total_cons hm, ← List.take_succ_cons]
      exact hholds (n + 1) axis

theorem exists_run_iff {e : Exponents} {factors : List Factor} :
    (∃ r, run e factors = .ok r) ↔ ∀ n axis, IntKind.i32.Holds (total e (factors.take n) axis) := by
  constructor
  · rintro ⟨r, h⟩
    exact (run_eq_ok.1 h).1
  · intro hholds
    have hlast : ∀ axis, IntKind.i32.Holds (total e factors axis) := by
      intro axis
      have h := hholds factors.length axis
      rw [List.take_length] at h
      exact h
    refine ⟨PerAxis.build fun axis => ⟨_, (hlast axis).1, (hlast axis).2⟩, run_eq_ok.2 ⟨hholds, fun axis => ?_⟩⟩
    rw [PerAxis.get_build]

/-! ### Groupings -/

/-- Vectors joined two by two, in any grouping. -/
inductive Grouping where
  | vector (e : Exponents)
  | join (op : Operator) (a b : Grouping)

namespace Grouping

/-- Join from the inside out; the first join that overflows stops it. -/
def eval : Grouping → Except Fault Exponents
  | vector e => .ok e
  | join op a b => do op.onConstants (← eval a) (← eval b)

/-- The vectors from left to right, each with the operator that brings it in when the groups are opened. -/
def factors : Grouping → List Factor
  | vector e => [⟨.product, e⟩]
  | join .product a b => factors a ++ factors b
  | join .quotient a b => factors a ++ (factors b).map Factor.inverse

/-- The grouping to the left: that of a run. -/
def chain (e : Exponents) (factors : List Factor) : Grouping :=
  factors.foldl (fun g f => .join f.op g (.vector f.vector)) (.vector e)

theorem sum_map_inverse (factors : List Factor) (axis : Axis) :
    ((factors.map Factor.inverse).map fun f => f.share axis).sum = -(factors.map fun f => f.share axis).sum := by
  induction factors with
  | nil => rfl
  | cons f factors ih =>
    simp only [List.map_cons, List.sum_cons, ih, Factor.share_inverse]
    omega

/-- What a join adds up. -/
theorem sum_factors_join (op : Operator) (a b : Grouping) (axis : Axis) {e : Exponents}
    (hb : (e.get axis).toInt = (b.factors.map fun f => f.share axis).sum) :
    ((join op a b).factors.map fun f => f.share axis).sum =
      (a.factors.map fun f => f.share axis).sum + Factor.share ⟨op, e⟩ axis := by
  cases op with
  | product =>
    show ((a.factors ++ b.factors).map _).sum = _ + (e.get axis).toInt
    rw [List.map_append, List.sum_append, hb]
  | quotient =>
    show ((a.factors ++ b.factors.map Factor.inverse).map _).sum = _ + -(e.get axis).toInt
    rw [List.map_append, List.sum_append, sum_map_inverse, hb]

/-- **A grouping that completes is the sum of its factors**, axis by axis. -/
theorem eval_sum {g : Grouping} {e : Exponents} (h : g.eval = .ok e) (axis : Axis) :
    (e.get axis).toInt = (g.factors.map fun f => f.share axis).sum := by
  induction g generalizing e with
  | vector e₀ =>
    cases h
    exact (Int.add_zero _).symm
  | join op a b iha ihb =>
    obtain ⟨ea, ha, h⟩ := bind_eq_ok.1 h
    obtain ⟨eb, hb, h⟩ := bind_eq_ok.1 h
    have hstep : Factor.apply ⟨op, eb⟩ ea = .ok e := h
    rw [sum_factors_join op a b axis (ihb hb), ← iha ha]
    exact Factor.apply_eq_ok.1 hstep axis

/-- Groupings of the same factors that both complete come to the same vector. -/
theorem eval_unique {g g' : Grouping} (h : g.factors.Perm g'.factors) {r r' : Exponents}
    (hr : g.eval = .ok r) (hr' : g'.eval = .ok r') : r = r' := by
  refine ext_toInt fun axis => ?_
  rw [eval_sum hr, eval_sum hr', (h.map _).sum_eq]

theorem eval_foldl (g : Grouping) (factors : List Factor) :
    (factors.foldl (fun g f => join f.op g (.vector f.vector)) g).eval = g.eval >>= fun e => run e factors := by
  induction factors generalizing g with
  | nil =>
    show g.eval = g.eval >>= Except.ok
    cases g.eval <;> rfl
  | cons f factors ih =>
    rw [List.foldl_cons, ih]
    show (g.eval >>= fun e => f.apply e) >>= _ = g.eval >>= fun e => run e (f :: factors)
    cases g.eval <;> rfl

theorem factors_foldl (g : Grouping) (factors : List Factor) :
    (factors.foldl (fun g f => join f.op g (.vector f.vector)) g).factors = g.factors ++ factors := by
  induction factors generalizing g with
  | nil => exact (List.append_nil _).symm
  | cons f factors ih =>
    obtain ⟨op, vector⟩ := f
    rw [List.foldl_cons, ih, List.append_cons]
    cases op <;> rfl

theorem eval_chain (e : Exponents) (factors : List Factor) : (chain e factors).eval = run e factors :=
  eval_foldl (.vector e) factors

theorem factors_chain (e : Exponents) (factors : List Factor) :
    (chain e factors).factors = ⟨.product, e⟩ :: factors := factors_foldl (.vector e) factors

end Grouping

/-- **Runs near the ends of the range.**  A run completes exactly when no partial sum leaves 32 bits on any
axis, and ends with the exact sum; a change of order changes no result, and neither does a change of
grouping, of which a run is the one to the left.  A product is undone by the quotient and a quotient by the
product, without an overflow. -/
theorem run_within_range :
    (∀ e factors, (∃ r, run e factors = .ok r) ↔
      ∀ n axis, IntKind.i32.Holds (total e (factors.take n) axis)) ∧
    (∀ e factors r, run e factors = .ok r → ∀ axis, (r.get axis).toInt = total e factors axis) ∧
    (∀ (e : Exponents) (factors factors' : List Factor), factors.Perm factors' →
      ∀ r r', run e factors = .ok r → run e factors' = .ok r' → r = r') ∧
    (∀ e factors, (Grouping.chain e factors).eval = run e factors ∧
      (Grouping.chain e factors).factors = ⟨.product, e⟩ :: factors) ∧
    (∀ g g' : Grouping, g.factors.Perm g'.factors →
      ∀ r r', g.eval = .ok r → g'.eval = .ok r' → r = r') ∧
    (∀ e f r : Exponents, (e.multiply f = .ok r → r.divide f = .ok e) ∧
      (e.divide f = .ok r → r.multiply f = .ok e)) := by
  refine ⟨fun e factors => exists_run_iff, fun e factors r h => (run_eq_ok.1 h).2, ?_,
    fun e factors => ⟨Grouping.eval_chain e factors, Grouping.factors_chain e factors⟩,
    fun g g' h r r' hr hr' => Grouping.eval_unique h hr hr', ?_⟩
  · intro e factors factors' h r r' hr hr'
    refine ext_toInt fun axis => ?_
    rw [(run_eq_ok.1 hr).2, (run_eq_ok.1 hr').2, total_perm h]
  · intro e f r
    constructor
    · intro h
      exact Factor.apply_inverse (f := ⟨.product, f⟩) h
    · intro h
      exact Factor.apply_inverse (f := ⟨.quotient, f⟩) h

/-- The greatest exponent of time, and none on the other axes. -/
def latest : Exponents := PerAxis.set one .time ⟨2147483647, by decide, by decide⟩

/-- Time itself, brought in by an operator. -/
def byTime (op : Operator) : Factor := ⟨op, PerAxis.set one .time ⟨1, by decide, by decide⟩⟩

theorem run_within_range_latest :
    (∃ r, run latest [byTime .quotient, byTime .product] = .ok r ∧ r = latest) ∧
      ¬ ∃ r, run latest [byTime .product, byTime .quotient] = .ok r := by
  obtain ⟨hcompletes, hexact, -⟩ := run_within_range
  have hholds : ∀ n axis, IntKind.i32.Holds
      (total latest ([byTime .quotient, byTime .product].take n) axis) := by
    intro n axis
    rcases n with _ | _ | n
    · cases axis <;> decide
    · cases axis <;> decide
    · rw [List.take_of_length_le (Nat.le_add_left 2 n)]
      cases axis <;> decide
  have hexceeds : ¬ IntKind.i32.Holds (total latest ([byTime .product, byTime .quotient].take 1) .time) := by
    decide
  constructor
  · obtain ⟨r, hr⟩ := (hcompletes _ _).2 hholds
    refine ⟨r, hr, ext_toInt fun axis => ?_⟩
    rw [hexact _ _ _ hr]
    cases axis <;> decide
  · intro hrun
    exact hexceeds ((hcompletes _ _).1 hrun 1 .time)

end Exponents

end Dimensional
