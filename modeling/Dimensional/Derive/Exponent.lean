import Dimensional.Derive.Cursor
import Dimensional.Integer.Fixed

/-!
# Written exponents

An exponent is an integer literal, possibly behind a minus sign; the literal may carry a sign of its own.
The literal counts with its own sign when it is held against the greatest exponent, and the sign in
front is applied afterwards.

* `integerLiteral?_suffix` — behind an integer literal is an end of what was there.
-/

namespace Dimensional.Derive

open Source

/-- An integer literal at the head of the tokens: its value, where it is, and the rest. -/
def integerLiteral? : List Tree → Option (Int × Span × List Tree)
  | .literal text span :: rest => (Literal.wholeValue? text).map fun (n : Nat) => (n, span, rest)
  | .punct '-' _ sign :: .literal text span :: rest =>
    (Literal.wholeValue? text).map fun (n : Nat) => (-n, sign.join span, rest)
  | _ => none

theorem integerLiteral?_suffix {ts rest : List Tree} {value : Int} {span : Span}
    (h : integerLiteral? ts = some (value, span, rest)) : rest <:+ ts := by
  unfold integerLiteral? at h
  split at h
  · obtain ⟨_, _, e⟩ := Option.map_eq_some_iff.1 h
    cases e
    exact List.suffix_cons _ _
  · obtain ⟨_, _, e⟩ := Option.map_eq_some_iff.1 h
    cases e
    exact (List.suffix_cons _ _).trans (List.suffix_cons _ _)
  · exact nomatch h

/-- An integer literal: its value, and where it is. -/
def integer : Reader (Int × Span) where
  run c :=
    match integerLiteral? c.tokens with
    | some (value, span, rest) => .ok ((value, span), { c with tokens := rest })
    | none => .error ⟨c.here, false, .integerExponent⟩
  forward h := by
    split at h
    · next found =>
      cases h
      exact integerLiteral?_suffix found
    · cases h

/-- The exponent that a literal of this value stands for, behind a minus sign or not. -/
def limited (negative : Bool) (value : Int) (span : Span) : Reading Failure (Fixed .i32) :=
  match Fixed.ofInt? .i32 value with
  | none => failAt span (if value < 0 then .numberTooSmall else .numberTooLarge)
  | some n =>
    if (greatestExponent : Int) < value then failAt span .exponentTooLarge
    else if negative then Reading.ofArithmetic n.neg
    else return n

/-- An exponent. -/
def exponent : Reading Failure (Fixed .i32) := do
  let negative ← mark? "-"
  let (value, span) ← integer
  limited negative value span

end Dimensional.Derive
