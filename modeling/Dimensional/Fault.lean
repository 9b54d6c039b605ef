/-!
# Faults

Checked arithmetic never wraps: an operation whose exact result does not fit its type stops with the
fault named here, and so does a format that asks for too much. One function, `Fault.message`, holds the
wording.
-/

namespace Dimensional

/-- The ways in which a computation stops. -/
inductive Fault where
  | addOverflow
  | subOverflow
  | mulOverflow
  | divOverflow
  | negOverflow
  | divideByZero
  /-- A dimension without a square root was asked for one. -/
  | oddSquareRoot
  /-- A width or a number of decimals is more than a format can hold. -/
  | formatArgument
  deriving DecidableEq, Repr

/-- What is reported when a fault stops a computation. -/
def Fault.message : Fault → String
  | .addOverflow => "attempt to add with overflow"
  | .subOverflow => "attempt to subtract with overflow"
  | .mulOverflow => "attempt to multiply with overflow"
  | .divOverflow => "attempt to divide with overflow"
  | .negOverflow => "attempt to negate with overflow"
  | .divideByZero => "attempt to divide by zero"
  | .oddSquareRoot => "square root of a dimension with an odd exponent"
  | .formatArgument => "Formatting argument out of range"

end Dimensional
