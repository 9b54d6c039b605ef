import Dimensional.Dimension.Catalogue
import Dimensional.Scalar

/-!
# Quantities

A quantity is a scalar under a dimension, and the dimension is part of its type: sums and comparisons
take two quantities of one type, products and quotients compute the dimension of their result, and a
dimension is changed only to one with the same exponents. The scalar alone decides the value.

* `Quantity.sumOf_eq`, `Quantity.sumOf_id` — adding up by reference is adding up the values;
* `Quantity.sum_eq`, `Quantity.map_value_sort` — the scalars of a sum and of a sorted list.
-/

namespace Dimensional

open Format (Spec)

/-- A scalar of kind `k` under the dimension `d`. -/
structure Quantity (d : Dimension) (k : ScalarKind) where
  value : Scalar k
  deriving DecidableEq

namespace Quantity

variable {d e : Dimension} {k : ScalarKind}

/-- The integer of a quantity whose scalar is one. -/
abbrev toInt {l : IntKind} (q : Quantity d (.int l)) : Int := Fixed.toInt q.value

/-- The default quantity. -/
def zero : Quantity d k := ⟨Scalar.zero⟩

/-! ### One type -/

def add (q r : Quantity d k) : Except Fault (Quantity d k) := .mk <$> Scalar.add q.value r.value

def sub (q r : Quantity d k) : Except Fault (Quantity d k) := .mk <$> Scalar.sub q.value r.value

def neg (q : Quantity d k) : Except Fault (Quantity d k) := .mk <$> Scalar.neg q.value

/-- The smaller of two quantities, the first if neither is. -/
def min (q r : Quantity d k) : Quantity d k := ⟨Scalar.min q.value r.value⟩

/-- The greater of two quantities, the first if neither is. -/
def max (q r : Quantity d k) : Quantity d k := ⟨Scalar.max q.value r.value⟩

def compare (q r : Quantity d k) : Scalar.Comparison := Scalar.compare q.value r.value

/-- The sum from first to last, starting from the default. -/
def sum (qs : List (Quantity d k)) : Except Fault (Quantity d k) := qs.foldlM add zero

/-- The sum of what a list refers to, each reference read when its turn comes. -/
def sumOf {α : Type} (read : α → Quantity d k) (refs : List α) : Except Fault (Quantity d k) :=
  refs.foldlM (fun total ref => total.add (read ref)) zero

/-- Ascending order. -/
def sort (qs : List (Quantity d k)) : List (Quantity d k) :=
  (Scalar.sort (qs.map value)).map .mk

/-! ### Scaling by a bare scalar -/

def scale (q : Quantity d k) (s : Scalar k) : Except Fault (Quantity d k) :=
  .mk <$> Scalar.mul q.value s

/-- Scaling from the left is scaling from the right. -/
def scaleLeft (s : Scalar k) (q : Quantity d k) : Except Fault (Quantity d k) := q.scale s

def unscale (q : Quantity d k) (s : Scalar k) : Except Fault (Quantity d k) :=
  .mk <$> Scalar.div q.value s

/-- A bare scalar over a quantity. -/
def under (s : Scalar k) (q : Quantity d k) : Except Fault (Quantity (Dimension.one.quotient d) k) :=
  .mk <$> Scalar.div s q.value

/-! ### Change of dimension -/

def mul (q : Quantity d k) (r : Quantity e k) : Except Fault (Quantity (d.product e) k) :=
  .mk <$> Scalar.mul q.value r.value

def div (q : Quantity d k) (r : Quantity e k) : Except Fault (Quantity (d.quotient e) k) :=
  .mk <$> Scalar.div q.value r.value

def squared (q : Quantity d k) : Except Fault (Quantity (d.product d) k) :=
  .mk <$> Scalar.mul q.value q.value

/-- The same value under a dimension with the same exponents. -/
def convert (_ : d.Same e) (q : Quantity d k) : Quantity e k := ⟨q.value⟩

/-- The same value in a kind that the scalar's kind widens to. -/
def cast {l : ScalarKind} (h : k.widens l = true) (q : Quantity d k) : Quantity d l :=
  ⟨Scalar.widen h q.value⟩

/-! ### Floating point -/

def abs {p : Precision} (q : Quantity d (.float p)) : Quantity d (.float p) := ⟨Binary.abs q.value⟩

/-- The square root, under the dimension whose square is that of the quantity. -/
def sqrt {p : Precision} (_ : d.HasRoot) (q : Quantity d (.float p)) : Quantity d.root (.float p) :=
  ⟨Binary.sqrt q.value⟩

/-! ### Text -/

/-- The text under a specification. The printed form is that of the scalar alone; the programmer's
form names it and the dimension, on one line or with a line for each, and lays out only the scalar. -/
def format (spec : Spec) (q : Quantity d k) : Text :=
  match spec.style with
  | .display => Scalar.format spec q.value
  | .debug =>
    "Quantity \x7b value: ".toList ++ Scalar.format spec q.value ++ ", dimension: ".toList ++ d.text ++
      " \x7d".toList
  | .pretty =>
    "Quantity \x7b\n".toList ++ partLines ("value: ".toList ++ Scalar.format spec q.value) ++
      partLines ("dimension: ".toList ++ d.text) ++ ['\x7d']

/-! ### Laws -/

theorem sumOf_eq {α : Type} (read : α → Quantity d k) (refs : List α) :
    sumOf read refs = sum (refs.map read) := by
  simp only [sumOf, sum, List.foldlM_map]

theorem sumOf_id (qs : List (Quantity d k)) : sumOf id qs = sum qs := by
  rw [sumOf_eq, List.map_id]

/-- Adding up quantities is adding up their scalars, from any total on. -/
theorem foldlM_add_eq (qs : List (Quantity d k)) (total : Quantity d k) :
    qs.foldlM add total = .mk <$> (qs.map value).foldlM Scalar.add total.value := by
  induction qs generalizing total with
  | nil => rfl
  | cons q qs ih =>
    rw [List.foldlM_cons, List.map_cons, List.foldlM_cons]
    show (Quantity.mk <$> Scalar.add total.value q.value) >>= _ =
      Quantity.mk <$> (Scalar.add total.value q.value >>= _)
    cases Scalar.add total.value q.value with
    | error fault => rfl
    | ok v => exact ih ⟨v⟩

theorem sum_eq (qs : List (Quantity d k)) :
    sum qs = .mk <$> (qs.map value).foldlM Scalar.add Scalar.zero :=
  foldlM_add_eq qs zero

theorem map_value_sort (qs : List (Quantity d k)) : (sort qs).map value = Scalar.sort (qs.map value) := by
  rw [sort, List.map_map]
  exact List.map_id _

end Quantity

end Dimensional
