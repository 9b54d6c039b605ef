import Dimensional.Source.Literal

/-!
# What the text of a literal says

A literal is told apart by how it begins: a digit begins a number, a quote or an `r` a string. A number
is whole unless it has a point or an exponent.
-/

namespace Dimensional.Source.Literal

/-- A text that can be the suffix of a literal. -/
def isSuffix : Text → Bool
  | [] => true
  | c :: rest => Identifier.isStart c && rest.all Identifier.isContinue

/-- An `e` among the digits of a decimal begins an exponent, so that the literal is no integer: signs
and digits follow it, and nothing else but a suffix. -/
def beginsExponent : Bool → Text → Bool
  | digits, [] => digits
  | digits, c :: rest =>
    if c = '_' then beginsExponent digits rest
    else if c = '-' ∨ c = '+' then true
    else if c.isDigit then beginsExponent true rest
    else digits && isSuffix (c :: rest)

/-- The value of the digits of a whole number in a base, behind those that make up `value`, and the
suffix after them. Underlines are passed over. -/
def wholeDigits (base : Nat) : Bool → Nat → Text → Option (Nat × Text)
  | found, value, [] => if found then some (value, []) else none
  | found, value, c :: rest =>
    if c = '_' then wholeDigits base found value rest
    else
      match (if c.isDigit || 10 < base then hexDigit? c else none) with
      | some digit => if digit < base then wholeDigits base true (base * value + digit) rest else none
      | none =>
        if base = 10 ∧ c = '.' then none
        else if base = 10 ∧ (c = 'e' ∨ c = 'E') ∧ beginsExponent false rest then none
        else if found && isSuffix (c :: rest) then some (value, c :: rest)
        else none

/-- The value of a literal that is a whole number, and its suffix. -/
def wholeNumber? (literal : Text) : Option (Nat × Text) :=
  match literal with
  | c :: _ =>
    if c.isDigit then
      let (base, digits) := baseOf literal
      wholeDigits base false 0 digits
    else none
  | [] => none

/-- The value of a literal that is a whole number. -/
def wholeValue? (literal : Text) : Option Nat := (wholeNumber? literal).map Prod.fst

/-- The literal is a number. -/
def isNumber : Text → Bool
  | c :: _ => c.isDigit
  | [] => false

/-- The literal is a number with a point or an exponent. -/
def isFractional (literal : Text) : Bool := isNumber literal && (wholeNumber? literal).isNone

/-- The literal is a string of characters. -/
def isString : Text → Bool
  | c :: _ => c == quote || c == 'r'
  | [] => false

example : wholeNumber? "0x1_Fu8".toList = some (31, "u8".toList) := by decide +kernel

example : wholeValue? "6_4_u16".toList = some 64 := by decide +kernel

example : wholeValue? "1e3".toList = none := by decide +kernel

example : isFractional "2.5e-3".toList = true := by decide +kernel

end Dimensional.Source.Literal
