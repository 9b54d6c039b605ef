import Dimensional.Quantity.Basic

/-!
# Quantities of integers

The operations on quantities whose scalar is an integer, in terms of that integer: each is exact where it
succeeds.

* `add_eq_ok`, `mul_eq_ok`, `div_eq_ok` and their companions — what a result holds;
* `add_eq_error`, `unscale_eq_error` and their companions — where there is none, and why;
* `less_iff`, `compare_congr` — the order is that of the integers.
-/

namespace Dimensional.Quantity

variable {d e : Dimension} {k : IntKind}

/-- A result is the scalar's, under the dimension. -/
theorem mk_map_eq_ok {l : ScalarKind} {x : Except Fault (Scalar l)} {s : Quantity d l} :
    Quantity.mk <$> x = .ok s ↔ x = .ok s.value := by
  rw [map_eq_ok]
  constructor
  · rintro ⟨a, hx, rfl⟩
    exact hx
  · intro hx
    exact ⟨s.value, hx, rfl⟩

theorem mk_map_eq_error {l : ScalarKind} {x : Except Fault (Scalar l)} {fault : Fault} :
    (Quantity.mk <$> x : Except Fault (Quantity d l)) = .error fault ↔ x = .error fault := by
  cases x with
  | error other => exact ⟨fun h => by cases h; rfl, fun h => by cases h; rfl⟩
  | ok a => exact ⟨nofun, nofun⟩

/-- The integer determines the quantity. -/
theorem ext_toInt {q r : Quantity d (.int k)} (h : q.toInt = r.toInt) : q = r := by
  have hvalue : q.value = r.value := Fixed.ext h
  cases q
  cases hvalue
  rfl

/-! ### One type -/

theorem add_eq_ok {q r s : Quantity d (.int k)} : q.add r = .ok s ↔ s.toInt = q.toInt + r.toInt :=
  mk_map_eq_ok.trans Fixed.checked_eq_ok

theorem sub_eq_ok {q r s : Quantity d (.int k)} : q.sub r = .ok s ↔ s.toInt = q.toInt - r.toInt :=
  mk_map_eq_ok.trans Fixed.checked_eq_ok

theorem neg_eq_ok {q s : Quantity d (.int k)} : q.neg = .ok s ↔ s.toInt = -q.toInt :=
  mk_map_eq_ok.trans Fixed.checked_eq_ok

theorem add_eq_error {q r : Quantity d (.int k)} {fault : Fault} :
    q.add r = .error fault ↔ ¬ k.Holds (q.toInt + r.toInt) ∧ fault = .addOverflow :=
  mk_map_eq_error.trans Fixed.checked_eq_error

theorem sub_eq_error {q r : Quantity d (.int k)} {fault : Fault} :
    q.sub r = .error fault ↔ ¬ k.Holds (q.toInt - r.toInt) ∧ fault = .subOverflow :=
  mk_map_eq_error.trans Fixed.checked_eq_error

theorem less_iff {q r : Quantity d (.int k)} : Scalar.less q.value r.value = true ↔ q.toInt < r.toInt := by
  show (some (Ord.compare q.toInt r.toInt) == some Ordering.lt) = true ↔ _
  rw [beq_iff_eq, Option.some.injEq, Int.compare_eq_lt]

/-- The relations between two quantities are those between their integers. -/
theorem compare_congr {l : IntKind} {q r : Quantity d (.int k)} {q' r' : Quantity e (.int l)}
    (h : Ord.compare q.toInt r.toInt = Ord.compare q'.toInt r'.toInt) : q.compare r = q'.compare r' := by
  show Scalar.compare q.value r.value = Scalar.compare q'.value r'.value
  have horder : Scalar.order q.value r.value = Scalar.order q'.value r'.value := congrArg some h
  rw [Scalar.compare_eq, Scalar.compare_eq, horder]
  rfl

/-! ### Scalars and other dimensions -/

theorem scale_eq_ok {q s : Quantity d (.int k)} {a : Fixed k} :
    q.scale a = .ok s ↔ s.toInt = q.toInt * a.toInt :=
  mk_map_eq_ok.trans Fixed.checked_eq_ok

theorem unscale_eq_ok {q s : Quantity d (.int k)} {a : Fixed k} :
    q.unscale a = .ok s ↔ a.toInt ≠ 0 ∧ s.toInt = q.toInt.tdiv a.toInt :=
  mk_map_eq_ok.trans Fixed.div_eq_ok

theorem scale_eq_error {q : Quantity d (.int k)} {a : Fixed k} {fault : Fault} :
    q.scale a = .error fault ↔ ¬ k.Holds (q.toInt * a.toInt) ∧ fault = .mulOverflow :=
  mk_map_eq_error.trans Fixed.checked_eq_error

/-- A division stops at zero, or where the quotient is out of range. -/
theorem unscale_eq_error {q : Quantity d (.int k)} {a : Fixed k} {fault : Fault} :
    q.unscale a = .error fault ↔
      (a.toInt = 0 ∧ fault = .divideByZero) ∨
        (a.toInt ≠ 0 ∧ ¬ k.Holds (q.toInt.tdiv a.toInt) ∧ fault = .divOverflow) := by
  have hdiv : q.unscale a = .error fault ↔ Fixed.div q.value a = .error fault := mk_map_eq_error
  rw [hdiv, Fixed.div]
  by_cases hzero : a.toInt = 0
  · simp [hzero, eq_comm]
  · simp [hzero, Fixed.checked_eq_error]

theorem under_eq_ok {q : Quantity d (.int k)} {a : Fixed k} {s : Quantity (Dimension.one.quotient d) (.int k)} :
    Quantity.under a q = .ok s ↔ q.toInt ≠ 0 ∧ s.toInt = a.toInt.tdiv q.toInt :=
  mk_map_eq_ok.trans Fixed.div_eq_ok

theorem mul_eq_ok {q : Quantity d (.int k)} {r : Quantity e (.int k)} {s : Quantity (d.product e) (.int k)} :
    q.mul r = .ok s ↔ s.toInt = q.toInt * r.toInt :=
  mk_map_eq_ok.trans Fixed.checked_eq_ok

theorem div_eq_ok {q : Quantity d (.int k)} {r : Quantity e (.int k)} {s : Quantity (d.quotient e) (.int k)} :
    q.div r = .ok s ↔ r.toInt ≠ 0 ∧ s.toInt = q.toInt.tdiv r.toInt :=
  mk_map_eq_ok.trans Fixed.div_eq_ok

theorem squared_eq_ok {q : Quantity d (.int k)} {s : Quantity (d.product d) (.int k)} :
    q.squared = .ok s ↔ s.toInt = q.toInt * q.toInt :=
  mk_map_eq_ok.trans Fixed.checked_eq_ok

end Dimensional.Quantity
