import Dimensional.Binary.Shortest
import Dimensional.Format.Spec

/-!
# Text of floating-point values

How a value is printed under a format specification. The printed form is positional and as short as
reading back allows; the programmer's form keeps one decimal at least and turns to scientific
notation far from one. With a precision, both are the exact value rounded to that many decimals.
-/

namespace Dimensional

open Format (Spec)

namespace Decimal10

/-- Positional notation, without a decimal point where there are no decimals. -/
def positional (d : Decimal10) : Text :=
  let digits := d.digits
  let places := (-d.exponent).toNat
  if places = 0 then digits ++ List.replicate d.exponent.toNat '0'
  else if places < digits.length then
    digits.take (digits.length - places) ++ '.' :: digits.drop (digits.length - places)
  else '0' :: '.' :: (List.replicate (places - digits.length) '0' ++ digits)

/-- Positional notation with one decimal at least. -/
def positionalPoint (d : Decimal10) : Text :=
  if d.exponent < 0 then d.positional else d.positional ++ ['.', '0']

/-- Scientific notation: one digit before the point, and no point where no digit follows it.
`exponentMark` stands between the digits and the exponent. -/
def scientific (d : Decimal10) (exponentMark : Int → Text) : Text :=
  match d.digits with
  | [] => []
  | [digit] => digit :: exponentMark d.leadingExponent
  | digit :: rest => digit :: '.' :: (rest ++ exponentMark d.leadingExponent)

end Decimal10

/-- The quotient `n / d` with a fixed number of decimals, rounded to nearest, a tie to the even digit. -/
def fixedDecimals (places n d : Nat) : Text :=
  let digits := Decimal.ofNat (roundHalfEven (n * 10 ^ places) d)
  let padded := List.replicate (places + 1 - digits.length) '0' ++ digits
  if places = 0 then padded
  else padded.take (padded.length - places) ++ '.' :: padded.drop (padded.length - places)

namespace Precision

/-- The programmer's form is scientific from this magnitude upward. -/
def scientificAbove (p : Precision) : Nat := p.round (10 ^ 16 * p.unitsPerOne) 1

/-- The programmer's form is scientific below this magnitude. -/
def scientificBelow (p : Precision) : Nat := p.round p.unitsPerOne (10 ^ 4)

end Precision

namespace Binary

variable {p : Precision}

/-- The digits of a finite magnitude in the form that the specification asks for. -/
def digits (spec : Spec) (a : Binary p) : Text :=
  match spec.precision, spec.style with
  | some places, _ => fixedDecimals places a.units p.unitsPerOne
  | none, .display => (p.shortest .up a.magnitude).positional
  | none, .debug | none, .pretty =>
    let far := p.scientificAbove ≤ a.magnitude ∨ (0 < a.magnitude ∧ a.magnitude < p.scientificBelow)
    if far then (p.shortest .up a.magnitude).scientific fun e => 'e' :: Decimal.ofInt e
    else (p.shortest .up a.magnitude).positionalPoint

/-- The text of a value without its sign. -/
def body (spec : Spec) (a : Binary p) : Text :=
  if a.isNaN then "NaN".toList
  else if a.isInfinite then "inf".toList
  else a.digits spec

/-- The sign of a value; what is not a number has none. -/
def sign (spec : Spec) (a : Binary p) : Text :=
  if a.isNaN then [] else spec.sign a.negative

/-- The text of a value under a specification. -/
def format (spec : Spec) (a : Binary p) : Text :=
  spec.pad (a.sign spec) (a.body spec)

end Binary

end Dimensional
