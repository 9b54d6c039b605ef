import Dimensional.Fault
import Dimensional.Power
import Dimensional.Text.Decimal
import Dimensional.Text.Indent

/-!
# Format specifications

How a number is to be laid out in a field: style, sign, fill, alignment, width, decimals, digits. The
layout itself is `Spec.pad`, which every number passes through, integer or not.

* `Spec.checked_eq_ok` — a format is accepted as it is, if its width and its decimals fit 16 bits;
* `Spec.pad_length` — a padded text has exactly the greater of the width and its own length;
* `Spec.pad_of_width_le` — a text that fills the field is left alone.
-/

namespace Dimensional.Format

/-- Which rendering of a value is asked for. -/
inductive Style where
  /-- The text for a reader. -/
  | display
  /-- The text for a programmer, on one line. -/
  | debug
  /-- The same, with a line for each part. -/
  | pretty
  deriving DecidableEq, Repr

/-- Where a short text stands in its field. -/
inductive Align where
  | left
  | center
  | right
  deriving DecidableEq, Repr

/-- The alignment that a mark in a format string asks for. -/
def Align.ofChar? : Char → Option Align
  | '<' => some .left
  | '^' => some .center
  | '>' => some .right
  | _ => none

/-- The digits of integers in the programmer's forms. -/
inductive Digits where
  | decimal
  /-- Those of the two's complement. -/
  | hexadecimal (upper : Bool)
  deriving DecidableEq, Repr

/-- A format specification. -/
structure Spec where
  style : Style := .display
  /-- The character that fills a field around a short text. -/
  fill : Char := ' '
  /-- Right when not given: only numbers are laid out here. -/
  align : Option Align := none
  /-- A `+` before numbers that are not negative. -/
  plus : Bool := false
  /-- Zeros between the sign and the number in place of the fill. -/
  zero : Bool := false
  /-- The least number of characters. -/
  width : Nat := 0
  /-- The number of decimals, for numbers that have them. -/
  precision : Option Nat := none
  digits : Digits := .decimal
  deriving DecidableEq, Repr

namespace Spec

/-- The specification that asks for nothing. -/
def plain : Spec := {}

/-- The format, unless its width or the number of its decimals is too great. -/
def checked (spec : Spec) : Except Fault Spec :=
  if spec.width < 2 ^ 16 ∧ spec.precision.getD 0 < 2 ^ 16 then .ok spec else .error .formatArgument

/-- The sign that is written before a number. -/
def sign (spec : Spec) (negative : Bool) : Text :=
  if negative then ['-'] else if spec.plus then ['+'] else []

/-- How many fill characters stand before a text that lacks `missing` characters; the odd one of a
centred text stands behind it. -/
def leading (spec : Spec) (missing : Nat) : Nat :=
  match spec.align with
  | some .left => 0
  | some .center => missing / 2
  | some .right | none => missing

/-- Lay out a sign and a text in the field. Zeros go between the two and take the place of fill and
alignment. -/
def pad (spec : Spec) (sign body : Text) : Text :=
  let missing := spec.width - (sign.length + body.length)
  if spec.zero then sign ++ (List.replicate missing '0' ++ body)
  else
    List.replicate (spec.leading missing) spec.fill ++ (sign ++ body) ++
      List.replicate (missing - spec.leading missing) spec.fill

/-- An integer in decimal. Precision makes no difference to it. -/
def decimal (spec : Spec) (n : Int) : Text :=
  spec.pad (spec.sign (n < 0)) (Decimal.ofNat n.natAbs)

/-- The hexadecimal digits of a number. -/
def hexDigits (upper : Bool) (n : Nat) : Text :=
  (Nat.toDigits 16 n).map fun c => if upper then c.toUpper else c

/-- The two's complement of an integer of so many bits, in hexadecimal. It has no sign of its own, and a mark
before it where each part of a value has its line. -/
def hexadecimal (spec : Spec) (upper : Bool) (bits : Nat) (n : Int) : Text :=
  spec.pad (spec.sign false ++ if spec.style = .pretty then ['0', 'x'] else [])
    (hexDigits upper (n % 2 ^ bits).toNat)

/-- An integer of so many bits. Only a programmer's form can have other digits than decimal ones. -/
def integer (spec : Spec) (bits : Nat) (n : Int) : Text :=
  match spec.style, spec.digits with
  | .display, _ | _, .decimal => spec.decimal n
  | _, .hexadecimal upper => spec.hexadecimal upper bits n

/-! ### Laws -/

theorem checked_eq_ok {spec accepted : Spec} :
    spec.checked = .ok accepted ↔
      accepted = spec ∧ spec.width < 2 ^ 16 ∧ spec.precision.getD 0 < 2 ^ 16 := by
  unfold checked
  split
  · next fits => exact ⟨fun h => ⟨(Except.ok.inj h).symm, fits⟩, fun h => congrArg _ h.1.symm⟩
  · next exceeds => exact ⟨nofun, fun h => absurd h.2 exceeds⟩

theorem leading_le (spec : Spec) (missing : Nat) : spec.leading missing ≤ missing := by
  unfold leading
  split <;> omega

theorem pad_length (spec : Spec) (sign body : Text) :
    (spec.pad sign body).length = max spec.width (sign.length + body.length) := by
  have bound := spec.leading_le (spec.width - (sign.length + body.length))
  unfold pad
  split
  · simp only [List.length_append, List.length_replicate]
    omega
  · simp only [List.length_append, List.length_replicate]
    omega

theorem pad_of_width_le {spec : Spec} {sign body : Text}
    (h : spec.width ≤ sign.length + body.length) : spec.pad sign body = sign ++ body := by
  have none_missing : spec.width - (sign.length + body.length) = 0 := by omega
  have none_leading : spec.leading 0 = 0 := Nat.le_zero.1 (spec.leading_le 0)
  unfold pad
  simp only [none_missing, none_leading]
  split <;> simp

theorem integer_of_display {spec : Spec} (h : spec.style = .display) (bits : Nat) (n : Int) :
    spec.integer bits n = spec.decimal n := by
  rw [integer, h]

/-- The two's complement of a negative number, marked, behind its sign and zeros. -/
example : integer { style := .pretty, plus := true, zero := true, width := 8, digits := .hexadecimal false } 8 (-7) =
    "+0x000f9".toList := by rfl

end Spec

end Dimensional.Format
