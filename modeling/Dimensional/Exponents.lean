import Dimensional.Axis
import Dimensional.Format.Spec
import Dimensional.Integer.Fixed

/-!
# Exponent vectors

A dimension is known by its exponents, one integer on every axis. `Powers` are exponents without a
bound, as dimensions carry them; `Exponents` are the 32-bit values that programs compute with, whose
arithmetic stops where a sum leaves 32 bits.

* `Exponents.multiply_eq_ok`, `Exponents.divide_eq_ok` — products add exponents and quotients subtract them;
* `Exponents.get_checkedSqrt` — a root, where there is one, is half of the vector on every axis;
* `Exponents.equals_iff` — the axis-by-axis comparison decides equality;
* `Powers.text` — `T^-2·M·L`, or `1` for a dimensionless vector.
-/

namespace Dimensional

open Format (Spec)

/-- Exponents on every axis, without a bound. -/
abbrev Powers := PerAxis Int

namespace Powers

/-- The dimensionless vector. -/
def one : Powers := PerAxis.const 0

/-- The exponents of a product. -/
def multiply (v w : Powers) : Powers := PerAxis.build fun axis => v.get axis + w.get axis

/-- The exponents of a quotient. -/
def divide (v w : Powers) : Powers := PerAxis.build fun axis => v.get axis - w.get axis

/-- Every exponent is even, so the vector is that of a square. -/
def IsSquare (v : Powers) : Prop := ∀ axis, v.get axis % 2 = 0

/-- The test that decides `IsSquare`. -/
def isSquare (v : Powers) : Bool := Axis.all.all fun axis => v.get axis % 2 == 0

theorem isSquare_iff (v : Powers) : v.isSquare = true ↔ v.IsSquare := by
  simp only [isSquare, List.all_eq_true, beq_iff_eq]
  exact ⟨fun h axis => h axis axis.mem_all, fun h axis _ => h axis⟩

instance (v : Powers) : Decidable v.IsSquare := decidable_of_iff _ v.isSquare_iff

/-- Every exponent halved. -/
def halve (v : Powers) : Powers := v.map (· / 2)

/-- One factor of a printed vector; an axis with exponent zero is not mentioned, and an exponent of
one is not written. -/
def factor? (axis : Axis) (n : Int) : Option Text :=
  if n = 0 then none
  else if n = 1 then some axis.symbol.toList
  else some (axis.symbol.toList ++ '^' :: Decimal.ofInt n)

/-- The printed form, `T^-2·M·L`; a dimensionless vector prints as `1`. -/
def text (v : Powers) : Text :=
  match Axis.all.filterMap fun axis => factor? axis (v.get axis) with
  | [] => ['1']
  | factors => List.intercalate ['·'] factors

theorem multiply_comm (v w : Powers) : v.multiply w = w.multiply v :=
  PerAxis.ext_get fun axis => by
    rw [multiply, multiply, PerAxis.get_build, PerAxis.get_build, Int.add_comm]

theorem multiply_assoc (u v w : Powers) : (u.multiply v).multiply w = u.multiply (v.multiply w) :=
  PerAxis.ext_get fun axis => by
    simp only [multiply, PerAxis.get_build, Int.add_assoc]

/-- The root of a square is where it came from. -/
theorem halve_square (v : Powers) : (v.multiply v).IsSquare ∧ (v.multiply v).halve = v := by
  constructor
  · intro axis
    rw [multiply, PerAxis.get_build]
    omega
  · refine PerAxis.ext_get fun axis => ?_
    rw [halve, PerAxis.get_map, multiply, PerAxis.get_build]
    omega

theorem multiply_one (v : Powers) : v.multiply one = v :=
  PerAxis.ext_get fun axis => by rw [multiply, PerAxis.get_build, one, PerAxis.get_const, Int.add_zero]

theorem divide_one (v : Powers) : v.divide one = v :=
  PerAxis.ext_get fun axis => by rw [divide, PerAxis.get_build, one, PerAxis.get_const, Int.sub_zero]

/-- Equality, axis by axis. -/
def equals (v w : Powers) : Bool := Axis.all.all fun axis => v.get axis == w.get axis

theorem equals_iff {v w : Powers} : v.equals w = true ↔ v = w := by
  simp only [equals, List.all_eq_true, beq_iff_eq]
  exact ⟨fun h => PerAxis.ext_get fun axis => h axis axis.mem_all, fun h axis _ => by rw [h]⟩

end Powers

/-- Exponents in 32 bits. -/
abbrev Exponents := PerAxis (Fixed .i32)

namespace Exponents

/-- The dimensionless vector. -/
def one : Exponents := PerAxis.const Fixed.zero

/-- The exponents as integers. -/
def powers (e : Exponents) : Powers := PerAxis.map Fixed.toInt e

/-- Exponents that are all in 32 bits. -/
def ofPowers (v : Powers) (h : ∀ axis, IntKind.i32.Holds (v.get axis)) : Exponents :=
  PerAxis.build fun axis => ⟨v.get axis, (h axis).1, (h axis).2⟩

/-- The vector of eight integers in basis order, all of them in 32 bits. -/
def ofInts? (ns : List Int) : Option Exponents :=
  (ns.mapM (Fixed.ofInt? .i32)).bind PerAxis.ofList?

/-! ### Algebra -/

/-- The exponents of a product; the first axis that overflows stops it. -/
def multiply (e f : Exponents) : Except Fault Exponents :=
  PerAxis.buildM fun axis => (e.get axis).add (f.get axis)

/-- The exponents of a quotient; the first axis that overflows stops it. -/
def divide (e f : Exponents) : Except Fault Exponents :=
  PerAxis.buildM fun axis => (e.get axis).sub (f.get axis)

/-- What can be wrong with the exponents of a vector. -/
inductive Error where
  /-- A square root was asked for and this axis, the first of its kind, has an odd exponent. -/
  | oddExponent (axis : Axis) (exponent : Fixed .i32)
  /-- Two vectors should have been equal. -/
  | mismatch (expected found : Powers)
  deriving DecidableEq

/-- The half of an exponent. It never leaves the range. -/
def half (n : Fixed .i32) : Fixed .i32 where
  toInt := n.toInt / 2
  min_le := by
    have := n.min_le
    have : IntKind.i32.min = -2147483648 := by decide
    omega
  le_max := by
    have := n.le_max
    have : IntKind.i32.max = 2147483647 := by decide
    omega

/-- The exponents of a square root, or the first axis with an odd exponent. -/
def checkedSqrt (e : Exponents) : Except Error Exponents :=
  PerAxis.buildM fun axis =>
    if (e.get axis).toInt % 2 ≠ 0 then .error (.oddExponent axis (e.get axis))
    else .ok (half (e.get axis))

/-- The exponents of a square root; an odd exponent is a fault. -/
def sqrt (e : Exponents) : Except Fault Exponents :=
  match e.checkedSqrt with
  | .ok root => .ok root
  | .error _ => .error .oddSquareRoot

/-- Equality, axis by axis. -/
def equals (e f : Exponents) : Bool := e.powers.equals f.powers

def isDimensionless (e : Exponents) : Bool := e.equals one

/-- Nothing, if the vectors agree; else the error that names both. -/
def ensure (expected found : Powers) : Except Error Unit :=
  if expected.equals found then .ok () else .error (.mismatch expected found)

/-- Nothing, if the vector found is the expected one. -/
def ensureMatches (expected found : Exponents) : Except Error Unit :=
  ensure expected.powers found.powers

/-- What a hash of the vector is computed from: the number of axes in eight bytes and the exponents
in four each. -/
def hashBytes (e : Exponents) : List UInt8 :=
  Fixed.bytesOf 8 e.toList.length ++ e.toList.flatMap Fixed.littleEndian

/-! ### Text -/

/-- The printed form of the vector. -/
def text (e : Exponents) : Text := e.powers.text

/-- The programmer's form on one line; the specification is that of each number. -/
def debugLine (spec : Spec) (v : Powers) : Text :=
  "Exponents([".toList ++ List.intercalate ", ".toList (v.toList.map (spec.integer 32)) ++ "])".toList

/-- The programmer's form with a line for each number, in a list with lines of its own. -/
def debugLines (spec : Spec) (v : Powers) : Text :=
  "Exponents(\n".toList ++
    partLines ("[\n".toList ++ v.toList.flatMap (fun n => partLines (spec.integer 32 n)) ++ [']']) ++ [')']

/-- The text under a specification. The printed form takes no notice of the layout it asks for. -/
def format (spec : Spec) (e : Exponents) : Text :=
  match spec.style with
  | .display => e.text
  | .debug => debugLine spec e.powers
  | .pretty => debugLines spec e.powers

/-- The message of an error. -/
def Error.message : Error → Text
  | .oddExponent axis n =>
    "cannot take the square root of a dimension with odd ".toList ++ axis.name.toList ++
      " exponent ".toList ++ n.text
  | .mismatch expected found =>
    "dimension mismatch: expected ".toList ++ expected.text ++ ", found ".toList ++ found.text

/-- The programmer's form of an error. -/
def Error.debug : Error → Text
  | .oddExponent axis n =>
    "OddExponent \x7b axis: ".toList ++ axis.title.toList ++ ", exponent: ".toList ++ n.text ++
      " \x7d".toList
  | .mismatch expected found =>
    "Mismatch \x7b expected: ".toList ++ debugLine .plain expected ++ ", found: ".toList ++
      debugLine .plain found ++ " \x7d".toList

/-! ### Laws -/

theorem ext_toInt {e f : Exponents} (h : ∀ axis, (e.get axis).toInt = (f.get axis).toInt) : e = f :=
  PerAxis.ext_get fun axis => Fixed.ext (h axis)

theorem powers_injective {e f : Exponents} (h : e.powers = f.powers) : e = f :=
  ext_toInt fun axis => by
    have := congrArg (PerAxis.get · axis) h
    simpa only [powers, PerAxis.get_map] using this

theorem get_powers (e : Exponents) (axis : Axis) : e.powers.get axis = (e.get axis).toInt :=
  PerAxis.get_map _ _ _

theorem powers_ofPowers {v : Powers} (h : ∀ axis, IntKind.i32.Holds (v.get axis)) :
    (ofPowers v h).powers = v :=
  PerAxis.ext_get fun axis => by rw [get_powers, ofPowers, PerAxis.get_build]

theorem multiply_eq_ok {e f r : Exponents} :
    e.multiply f = .ok r ↔ ∀ axis, (r.get axis).toInt = (e.get axis).toInt + (f.get axis).toInt := by
  rw [multiply, PerAxis.buildM_eq_ok]
  exact forall_congr' fun axis => Fixed.checked_eq_ok

theorem divide_eq_ok {e f r : Exponents} :
    e.divide f = .ok r ↔ ∀ axis, (r.get axis).toInt = (e.get axis).toInt - (f.get axis).toInt := by
  rw [divide, PerAxis.buildM_eq_ok]
  exact forall_congr' fun axis => Fixed.checked_eq_ok

theorem get_multiply {e f r : Exponents} (h : e.multiply f = .ok r) (axis : Axis) :
    (r.get axis).toInt = (e.get axis).toInt + (f.get axis).toInt :=
  multiply_eq_ok.1 h axis

theorem get_divide {e f r : Exponents} (h : e.divide f = .ok r) (axis : Axis) :
    (r.get axis).toInt = (e.get axis).toInt - (f.get axis).toInt :=
  divide_eq_ok.1 h axis

theorem get_checkedSqrt {e r : Exponents} (h : e.checkedSqrt = .ok r) (axis : Axis) :
    (e.get axis).toInt = 2 * (r.get axis).toInt := by
  have here := PerAxis.get_buildM h axis
  split at here
  · exact nomatch here
  · next even =>
    rw [← Except.ok.inj here]
    show (e.get axis).toInt = 2 * ((e.get axis).toInt / 2)
    omega

/-- A product that does not overflow is the product of the exponents. -/
theorem powers_multiply {e f r : Exponents} (h : e.multiply f = .ok r) :
    r.powers = e.powers.multiply f.powers :=
  PerAxis.ext_get fun axis => by
    rw [Powers.multiply, PerAxis.get_build, get_powers, get_powers, get_powers, get_multiply h]

/-- A quotient that does not overflow is the quotient of the exponents. -/
theorem powers_divide {e f r : Exponents} (h : e.divide f = .ok r) :
    r.powers = e.powers.divide f.powers :=
  PerAxis.ext_get fun axis => by
    rw [Powers.divide, PerAxis.get_build, get_powers, get_powers, get_powers, get_divide h]

/-- There is a root exactly where all exponents are even, and it halves them. -/
theorem powers_checkedSqrt {e r : Exponents} (h : e.checkedSqrt = .ok r) :
    e.powers.IsSquare ∧ r.powers = e.powers.halve := by
  constructor
  · intro axis
    rw [get_powers, get_checkedSqrt h]
    omega
  · refine PerAxis.ext_get fun axis => ?_
    rw [Powers.halve, PerAxis.get_map, get_powers, get_powers, get_checkedSqrt h]
    omega

theorem checkedSqrt_of_isSquare {e : Exponents} (h : e.powers.IsSquare) :
    e.checkedSqrt = .ok (e.map half) := by
  refine PerAxis.buildM_of_get fun axis => ?_
  have even := h axis
  rw [get_powers] at even
  rw [if_neg (fun odd => odd even), PerAxis.get_map]

theorem equals_iff {e f : Exponents} : e.equals f = true ↔ e = f :=
  Powers.equals_iff.trans ⟨powers_injective, congrArg powers⟩

end Exponents

end Dimensional
