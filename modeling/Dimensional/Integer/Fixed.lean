import Dimensional.Fault
import Dimensional.Integer.Kind

/-!
# Fixed-width integers

A value of a kind is an integer together with the proof that it lies in the range of the kind.
Arithmetic is exact on the integers and then checked: outside the range it stops with a fault.

* `Fixed.ofInt?_eq_some` — an integer has a value of the kind exactly when the kind holds it;
* `Fixed.checked_eq_ok` — a checked result is the exact one;
* `Fixed.littleEndian_length` — the bytes of a value are as many as the width says.
-/

namespace Dimensional

/-- The integers of kind `k`. -/
structure Fixed (k : IntKind) where
  toInt : Int
  min_le : k.min ≤ toInt
  le_max : toInt ≤ k.max

namespace Fixed

variable {k : IntKind}

@[ext] theorem ext {a b : Fixed k} (h : a.toInt = b.toInt) : a = b := by
  cases a; cases b; cases h; rfl

instance : DecidableEq (Fixed k) := fun a b =>
  if h : a.toInt = b.toInt then .isTrue (ext h) else .isFalse fun e => h (congrArg toInt e)

/-- Zero, a value of every kind. -/
def zero : Fixed k := ⟨0, k.holds_zero.1, k.holds_zero.2⟩

instance : Inhabited (Fixed k) := ⟨zero⟩

/-- The value of kind `k` with this integer, if the kind holds it. -/
def ofInt? (k : IntKind) (n : Int) : Option (Fixed k) :=
  if h : k.Holds n then some ⟨n, h.1, h.2⟩ else none

/-- The value with this integer, or the fault that stands for leaving the range. -/
def checked (fault : Fault) (n : Int) : Except Fault (Fixed k) :=
  if h : k.Holds n then .ok ⟨n, h.1, h.2⟩ else .error fault

/-! ### Checked arithmetic -/

def add (a b : Fixed k) : Except Fault (Fixed k) := checked .addOverflow (a.toInt + b.toInt)

def sub (a b : Fixed k) : Except Fault (Fixed k) := checked .subOverflow (a.toInt - b.toInt)

def mul (a b : Fixed k) : Except Fault (Fixed k) := checked .mulOverflow (a.toInt * b.toInt)

def neg (a : Fixed k) : Except Fault (Fixed k) := checked .negOverflow (-a.toInt)

/-- The quotient is rounded toward zero. Only the least signed value over `-1` leaves the range. -/
def div (a b : Fixed k) : Except Fault (Fixed k) :=
  if b.toInt = 0 then .error .divideByZero else checked .divOverflow (a.toInt.tdiv b.toInt)

/-! ### Bytes -/

/-- The `count` low bytes of a natural number, lowest first. -/
def bytesOf : Nat → Nat → List UInt8
  | 0, _ => []
  | count + 1, n => UInt8.ofNat (n % 256) :: bytesOf count (n / 256)

/-- The bytes of a value in two's complement, lowest first. -/
def littleEndian (a : Fixed k) : List UInt8 :=
  bytesOf k.width.bytes (a.toInt % 2 ^ k.width.bits).toNat

/-- Canonical decimal text. -/
def text (a : Fixed k) : Text := Decimal.ofInt a.toInt

/-! ### Laws -/

theorem holds (a : Fixed k) : k.Holds a.toInt := ⟨a.min_le, a.le_max⟩

theorem ofInt?_eq_some {n : Int} {a : Fixed k} : ofInt? k n = some a ↔ a.toInt = n := by
  unfold ofInt?
  split
  · next h => exact ⟨fun e => by rw [← Option.some.inj e], fun e => congrArg some (ext e.symm)⟩
  · next h => exact ⟨nofun, fun e => absurd (e ▸ a.holds) h⟩

theorem ofInt?_toInt (a : Fixed k) : ofInt? k a.toInt = some a := ofInt?_eq_some.2 rfl

theorem checked_eq_ok {fault : Fault} {n : Int} {a : Fixed k} :
    checked fault n = .ok a ↔ a.toInt = n := by
  unfold checked
  split
  · next h =>
    exact ⟨fun e => by rw [← Except.ok.inj e], fun e => congrArg Except.ok (ext e.symm)⟩
  · next h => exact ⟨nofun, fun e => absurd (e ▸ a.holds) h⟩

theorem checked_eq_error {fault other : Fault} {n : Int} :
    (checked fault n : Except Fault (Fixed k)) = .error other ↔ ¬ k.Holds n ∧ other = fault := by
  unfold checked
  split
  · next h => exact ⟨nofun, fun e => absurd h e.1⟩
  · next h => exact ⟨fun e => ⟨h, (Except.error.inj e).symm⟩, fun e => by rw [e.2]⟩

theorem div_eq_ok {a b c : Fixed k} :
    a.div b = .ok c ↔ b.toInt ≠ 0 ∧ c.toInt = a.toInt.tdiv b.toInt := by
  unfold div
  split
  · next zero => exact ⟨nofun, fun h => absurd zero h.1⟩
  · next nonzero =>
    rw [checked_eq_ok]
    exact ⟨fun h => ⟨nonzero, h⟩, fun h => h.2⟩

theorem bytesOf_length (count n : Nat) : (bytesOf count n).length = count := by
  induction count generalizing n with
  | zero => rfl
  | succ count ih => rw [bytesOf, List.length_cons, ih]

theorem littleEndian_length (a : Fixed k) : a.littleEndian.length = k.width.bytes :=
  bytesOf_length _ _

end Fixed

end Dimensional
