import Dimensional.Derive.Cursor
import Dimensional.Power

/-!
# Members

A member of a structure has a name, or a number that counts it. Behind two members that are numbers a
point and the digits around it look like one number, which is taken apart again.
-/

namespace Dimensional.Derive.Grammar

open Source

/-- The value of a literal that counts members. It has no suffix, no sign, and 32 bits. -/
def memberIndex (negative : Bool) (text : Text) (span : Span) : Reader Nat :=
  match Literal.wholeNumber? text with
  | none => failAt span (.expected ["integer literal".toList])
  | some (n, suffix) =>
    if !suffix.isEmpty then failAt span (.expected ["unsuffixed integer".toList])
    else if negative then failAt span .invalidDigit
    else if n < 2 ^ 32 then return n
    else failAt span .numberTooLarge

/-- A number that is next, possibly behind a minus sign; where it is, and how many tokens it takes. -/
def takeNumber : List Tree → Option (Bool × Text × Span × Nat)
  | .literal text span :: _ =>
    if Literal.isNumber text then some (false, text, span, 1) else none
  | .punct '-' _ sign :: .literal text span :: _ =>
    if Literal.isNumber text then some (true, text, sign.join span, 2) else none
  | _ => none

/-- A member: does it have a name? -/
def member : Reader Bool := do
  let ts ← tokens
  match takeNumber ts with
  | some (negative, text, span, count) =>
    if Literal.isFractional text then failExpected "identifier or integer"
    let n ← memberIndex negative text span
    pass count
    write [.literal (Decimal.ofNat n) span]
    return false
  | none =>
    if nextIsIdent ts then skip else failExpected "identifier or integer"
    return true

/-- The digits before the first point, and those behind each point. -/
def pointed : Text → Text × List Text
  | [] => ([], [])
  | c :: rest =>
    let (first, others) := pointed rest
    if c = '.' then ([], first :: others) else (c :: first, others)

/-- Members that are numbers and look like one number, with the points between them. -/
def members (negative : Bool) (span : Span) : List Text → Reader Unit
  | [] => return
  | part :: parts => do
    let n ← memberIndex negative part span
    write [.literal (Decimal.ofNat n) span]
    if !parts.isEmpty then write (markTrees ['.'])
    members false span parts

/-- Members that look like one number, if such a number is next; is there one, with nothing to follow
its last point? -/
def pointedMembers? : Reader Bool := do
  match takeNumber (← tokens) with
  | some (negative, text, span, count) =>
    if !Literal.isFractional text then return false
    let (first, others) := pointed text
    let unfinished := others.getLast? == some []
    pass count
    members negative span (first :: if unfinished then others.dropLast else others)
    if unfinished then write (markTrees ['.'])
    return !unfinished
  | none => return false

end Dimensional.Derive.Grammar
