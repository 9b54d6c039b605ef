import Dimensional.Binary.Basic

/-!
# Floating-point arithmetic

Every operation computes its result exactly, as a quotient of natural numbers in units, and rounds it
once to the nearest value, a tie to the even magnitude. Operations without a numeric answer give the
quiet pattern `nan`.

* `Precision.round_le_infinity` — rounding overflows to infinity and no further.
-/

namespace Dimensional

/-- The quotient `n / d` to the nearest whole number, a tie to the even one. -/
def roundHalfEven (n d : Nat) : Nat :=
  let q := n / d
  let r := n % d
  if 2 * r < d then q
  else if d < 2 * r then q + 1
  else q + q % 2

/-- The greatest number whose square is at most `n`, found two bits at a time. -/
def floorSqrt (n : Nat) : Nat :=
  if h : n = 0 then 0
  else
    have : n / 4 < n := Nat.div_lt_self (Nat.pos_of_ne_zero h) (by decide)
    let r := 2 * floorSqrt (n / 4)
    if (r + 1) * (r + 1) ≤ n then r + 1 else r
termination_by n

namespace Precision

/-- The magnitude nearest to `n / d` units. The step between neighbours near that value is a power of
two, `2 ^ k`; counting the value in steps and adding `k` binades gives the magnitude, carries
included. Beyond the greatest finite value it is that of infinity. -/
def round (p : Precision) (n d : Nat) : Nat :=
  let k := Nat.log2 (n / d) - p.fractionBits
  min p.infinity (k * p.hidden + roundHalfEven n (d * 2 ^ k))

theorem round_le_infinity (p : Precision) (n d : Nat) : p.round n d ≤ p.infinity :=
  Nat.min_le_left _ _

theorem round_lt_signWeight (p : Precision) (n d : Nat) : p.round n d < p.signWeight :=
  Nat.lt_of_le_of_lt (p.round_le_infinity n d) p.infinity_lt_signWeight

end Precision

namespace Binary

variable {p : Precision}

/-- The value nearest to `n / d` units, with a sign. -/
def nearest (negative : Bool) (n d : Nat) : Binary p :=
  ⟨negative, p.round n d, p.round_lt_signWeight n d⟩

/-- The value nearest to an integer. -/
def ofInt (n : Int) : Binary p := nearest (n < 0) (n.natAbs * p.unitsPerOne) 1

/-- The same value in another format, or the nearest that it has. -/
def convert (q : Precision) (a : Binary p) : Binary q :=
  if a.isNaN then nan
  else if a.isInfinite then signedInfinity a.negative
  else nearest a.negative (a.units * q.unitsPerOne) p.unitsPerOne

/-! ### Operations on the sign -/

def neg (a : Binary p) : Binary p := { a with negative := !a.negative }

def abs (a : Binary p) : Binary p := { a with negative := false }

/-! ### Operations that round -/

/-- An exact sum of zero is negative only if both terms are. -/
def add (a b : Binary p) : Binary p :=
  if a.isNaN || b.isNaN then nan
  else if a.isInfinite then
    if b.isInfinite && a.negative != b.negative then nan else a
  else if b.isInfinite then b
  else
    let sum := a.signedUnits + b.signedUnits
    if sum = 0 then signedZero (a.negative && b.negative)
    else nearest (sum < 0) sum.natAbs 1

def sub (a b : Binary p) : Binary p := add a (neg b)

def mul (a b : Binary p) : Binary p :=
  let negative := a.negative != b.negative
  if a.isNaN || b.isNaN then nan
  else if a.isInfinite || b.isInfinite then
    if a.isZero || b.isZero then nan else signedInfinity negative
  else nearest negative (a.units * b.units) p.unitsPerOne

def div (a b : Binary p) : Binary p :=
  let negative := a.negative != b.negative
  if a.isNaN || b.isNaN then nan
  else if a.isInfinite then
    if b.isInfinite then nan else signedInfinity negative
  else if b.isInfinite then signedZero negative
  else if b.isZero then
    if a.isZero then nan else signedInfinity negative
  else nearest negative (a.units * p.unitsPerOne) b.units

/-- A root that is not whole lies strictly between `r` and `r + 1` units, far from any half step, so
half a unit stands in for the rest of it. The root of a zero is that zero. -/
def sqrt (a : Binary p) : Binary p :=
  if a.isNaN then nan
  else if a.isZero then a
  else if a.negative then nan
  else if a.isInfinite then a
  else
    let square := a.units * p.unitsPerOne
    let r := floorSqrt square
    nearest false (2 * r + if r * r = square then 0 else 1) 2

/-! ### Laws -/

/-- One and two thirds in double precision: the last bit is rounded up. -/
example : ((ofInt 5 : Binary .double).div (ofInt 3)).bits = 0x3ffaaaaaaaaaaaab := by decide +kernel

/-- The root of two in single precision. -/
example : (sqrt (ofInt 2 : Binary .single)).bits = 0x3fb504f3 := by decide +kernel

end Binary

end Dimensional
