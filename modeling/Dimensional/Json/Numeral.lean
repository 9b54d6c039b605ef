import Dimensional.Binary.Text
import Dimensional.Json.Error

/-!
# JSON numbers

A numeral is kept exactly as it is written: sign, digits on both sides of the point, power of ten. What
it stands for depends on who asks: an integer of at most 64 bits, or a value of a floating-point format,
which a `RealReader` finds. Written numbers are the shortest that round to the value.
-/

namespace Dimensional.Json

/-- A number as it is written. -/
structure Numeral where
  negative : Bool
  /-- The digits in front of the point. -/
  integral : Text
  /-- The digits behind the point. -/
  decimals : Text
  /-- The written power of ten. -/
  power? : Option Int
  deriving DecidableEq, Repr

/-- How a numeral that is no integer of 64 bits becomes a value of a format. A number that is out of range
becomes nothing. -/
abbrev RealReader := (p : Precision) → Numeral → Option (Binary p)

namespace Numeral

/-! ### Parts -/

/-- All digits as one integer. The numeral is this times ten to its `exponent`, with its sign. -/
def significand (n : Numeral) : Nat := Nat.ofDigitChars 10 (n.integral ++ n.decimals) 0

def exponent (n : Numeral) : Int := n.power?.getD 0 - n.decimals.length

/-- Neither a decimal point nor a power of ten is written. -/
def whole (n : Numeral) : Bool := n.decimals.isEmpty && n.power?.isNone

/-! ### Reading -/

/-- What a missing digit means: the text ended, or something else stands there. -/
def missingDigit (rest : Text) : Error :=
  if rest.isEmpty then .ended .value else .invalidNumber

/-- The decimals after a point, if a point is next. -/
def readDecimals (cs : Text) : Except Error (Text × Text) :=
  match cs with
  | '.' :: rest =>
    let (digits, rest) := rest.span Char.isDigit
    if digits.isEmpty then .error (missingDigit rest) else .ok (digits, rest)
  | _ => .ok ([], cs)

/-- The sign in front of an exponent. -/
def exponentSign : Text → Bool × Text
  | '+' :: rest => (false, rest)
  | '-' :: rest => (true, rest)
  | rest => (false, rest)

/-- The written exponent, if there is one. -/
def readExponent (cs : Text) : Except Error (Option Int × Text) :=
  match cs with
  | 'e' :: rest | 'E' :: rest =>
    let (negative, rest) := exponentSign rest
    let (digits, rest) := rest.span Char.isDigit
    if digits.isEmpty then .error (missingDigit rest)
    else
      let size : Int := Nat.ofDigitChars 10 digits 0
      .ok (some (if negative then -size else size), rest)
  | _ => .ok (none, cs)

/-- The sign in front of a numeral. -/
def sign : Text → Bool × Text
  | '-' :: rest => (true, rest)
  | rest => (false, rest)

/-- The numeral at the head of a text. A zero in front stands alone. -/
def read (cs : Text) : Except Error (Numeral × Text) := do
  let (negative, rest) := sign cs
  let (digits, rest) := rest.span Char.isDigit
  match digits with
  | [] => .error (missingDigit rest)
  | '0' :: _ :: _ => .error .invalidNumber
  | _ =>
    let (decimals, rest) ← readDecimals rest
    let (written, rest) ← readExponent rest
    return ({ negative, integral := digits, decimals, power? := written }, rest)

/-! ### Values -/

/-- The integer of a whole numeral: unsigned in 64 bits, or negative in 64 bits. Longer ones and a
negative zero are no integers. -/
def integer? (n : Numeral) : Option Int :=
  if !n.whole then none
  else if n.negative then
    if 0 < n.significand ∧ n.significand ≤ 2 ^ 63 then some (-(n.significand : Int)) else none
  else if n.significand < 2 ^ 64 then some n.significand
  else none

/-- The value read into a format. Integers are rounded once; a negative numeral that is an integer of
64 bits only without its sign goes through double precision. -/
def real? (reals : RealReader) (p : Precision) (n : Numeral) : Option (Binary p) :=
  match n.integer? with
  | some z => some (Binary.ofInt z)
  | none =>
    if n.whole && n.negative && n.significand < 2 ^ 64 then
      some (Binary.convert p (Binary.ofInt n.significand : Binary .double).neg)
    else reals p n

/-- A zero in front of other digits is refused. -/
example : read ['0', '1'] = .error .invalidNumber := rfl

end Numeral

/-- The decimal exponents of the values that are written without an exponent. -/
def plainExponents : Precision → Int × Int
  | .single => (-6, 12)
  | .double => (-5, 15)

/-- An exponent with its sign always written. -/
def exponentMark (e : Int) : Text :=
  'e' :: (if e < 0 then Decimal.ofInt e else '+' :: Decimal.ofInt e)

/-- A finite value as a number, with one decimal at least unless it has an exponent. -/
def realText {p : Precision} (a : Binary p) : Text :=
  let decimal := p.shortest .even a.magnitude
  let (least, greatest) := plainExponents p
  let plain := a.isZero || (least ≤ decimal.leadingExponent && decimal.leadingExponent ≤ greatest)
  (if a.negative then ['-'] else []) ++
    if plain then decimal.positionalPoint else decimal.scientific exponentMark

end Dimensional.Json
