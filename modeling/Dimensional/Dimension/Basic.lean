import Dimensional.Exponents

/-!
# Dimension types

A dimension is either a plain vector, which is nothing but its exponents, or a marker, which has a
name of its own besides. Products, quotients and roots are always plain vectors. Two dimensions are
the *same type* when they are equal, and *interchangeable* when their exponents agree.

* `Dimension.product_congr`, `Dimension.quotient_congr`, `Dimension.root?_congr` — the algebra looks
  at exponents only;
* `Dimension.equal_iff` — the axis-by-axis test decides `Same`;
* `Dimension.eq_of_same_of_vector` — between vectors, `Same` is equality.
-/

namespace Dimensional

/-- A dimension type. -/
inductive Dimension where
  /-- A vector without a name. -/
  | vector (powers : Powers)
  /-- A type declared under a name, with these exponents. -/
  | marker (name : String) (powers : Powers)
  deriving DecidableEq

namespace Dimension

/-- The exponents. -/
def exponents : Dimension → Powers
  | vector powers => powers
  | marker _ powers => powers

/-- Name of the type: that of the marker, or `Dim` for every vector. -/
def typeName : Dimension → String
  | vector _ => "Dim"
  | marker name _ => name

/-- The printed form of the exponents. -/
def text (d : Dimension) : Text := d.exponents.text

/-- The programmer's form of the one value of a vector type. -/
def debug (d : Dimension) : Text := "Dim(".toList ++ d.text ++ [')']

/-- What a hash of the one value of a vector type is computed from. -/
def hashBytes (_ : Dimension) : List UInt8 := []

/-! ### Algebra -/

/-- The dimensionless vector. -/
def one : Dimension := vector Powers.one

/-- The dimension of a product. -/
def product (a b : Dimension) : Dimension := vector (a.exponents.multiply b.exponents)

/-- The dimension of a quotient. -/
def quotient (a b : Dimension) : Dimension := vector (a.exponents.divide b.exponents)

/-- There is a dimension whose square this is. -/
def HasRoot (d : Dimension) : Prop := d.exponents.IsSquare

instance (d : Dimension) : Decidable d.HasRoot := inferInstanceAs (Decidable (Powers.IsSquare _))

/-- The dimension of a square root; of use where `HasRoot` holds. -/
def root (d : Dimension) : Dimension := vector d.exponents.halve

/-- The dimension of a square root, where there is one. -/
def root? (d : Dimension) : Option Dimension := if d.HasRoot then some d.root else none

/-- The exponents agree, whatever the names. -/
def Same (a b : Dimension) : Prop := a.exponents = b.exponents

instance (a b : Dimension) : Decidable (a.Same b) := inferInstanceAs (Decidable (_ = _))

/-- The test that compares exponents axis by axis. -/
def equal (a b : Dimension) : Bool := a.exponents.equals b.exponents

/-! ### Laws -/

theorem equal_iff {a b : Dimension} : a.equal b = true ↔ a.Same b := Powers.equals_iff

theorem eq_of_same_of_vector {v w : Powers} (h : Same (vector v) (vector w)) :
    vector v = vector w := congrArg vector h

theorem product_congr {a a' b b' : Dimension} (ha : a.Same a') (hb : b.Same b') :
    a.product b = a'.product b' := by
  rw [product, product, ha, hb]

theorem quotient_congr {a a' b b' : Dimension} (ha : a.Same a') (hb : b.Same b') :
    a.quotient b = a'.quotient b' := by
  rw [quotient, quotient, ha, hb]

theorem root?_congr {a b : Dimension} (h : a.Same b) : a.root? = b.root? := by
  have square : a.HasRoot ↔ b.HasRoot := by rw [HasRoot, HasRoot, h]
  have halves : a.root = b.root := by rw [root, root, h]
  simp only [root?, square, halves]

end Dimension

end Dimensional
