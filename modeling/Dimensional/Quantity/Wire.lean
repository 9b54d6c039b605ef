import Dimensional.Json.Reader
import Dimensional.Quantity.Basic

/-!
# Quantities in JSON

A quantity is written either as its bare scalar or, tagged, as an object that holds the exponents
beside it. Reading a bare scalar trusts the dimension that the reader names; reading the tagged form
checks it, if the exponents are there to check.

* `Wire.write_int` — an integer is written as its decimal;
* `Wire.finish_eq_ok` — when the members of an object make a quantity.
-/

namespace Dimensional.Wire

open Json (Error Field RealReader)

/-! ### Writing -/

/-- A scalar as JSON. What is not finite is written as `null`. -/
def scalarText : {k : ScalarKind} → Scalar k → Text
  | .int _, a => a.text
  | .float _, a => if a.isNaN || a.isInfinite then "null".toList else Json.realText a

variable {d : Dimension} {k : ScalarKind}

/-- The bare scalar. -/
def write (q : Quantity d k) : Text := scalarText q.value

/-- The exponents as a list. -/
def exponentsText (powers : Powers) : Text :=
  '[' :: (List.intercalate [','] (powers.toList.map Decimal.ofInt) ++ [']'])

/-- A member of an object. -/
def memberText (field : Field) (content : Text) : Text :=
  '\x22' :: (field.key ++ '\x22' :: ':' :: content)

/-- The scalar and the exponents, in this order. -/
def writeTagged (q : Quantity d k) : Text :=
  Json.openBrace :: (memberText .value (write q) ++
    ',' :: (memberText .exponents (exponentsText d.exponents) ++ [Json.closeBrace]))

/-! ### Reading -/

section Reading

variable (reals : RealReader)

/-- A quantity from a bare scalar. -/
def read (d : Dimension) (k : ScalarKind) (cs : Text) : Except Error (Quantity d k) := do
  let (a, rest) ← Json.readScalar reals k cs
  Json.readEnd rest
  return ⟨a⟩

/-- The rest of `count` exponents, the first of which may be the first of the list. -/
def readExponentList : Nat → Nat → Bool → Text → Except Error (List (Fixed .i32) × Text)
  | 0, _, _, cs => .ok ([], cs)
  | count + 1, seen, first, cs => do
    match ← Json.readNext first cs with
    | none => .error (.wrongLength seen .exponents)
    | some cs =>
      let (n, rest) ← Json.readInteger reals .i32 cs
      let (ns, rest) ← readExponentList count (seen + 1) false rest
      return (n :: ns, rest)

/-- A list of exactly eight exponents. -/
def readExponents (cs : Text) : Except Error (Exponents × Text) :=
  match Json.skipBlanks cs with
  | [] => .error (.ended .value)
  | '[' :: rest => do
    let (ns, rest) ← readExponentList reals 8 0 true rest
    let rest ← Json.readClose rest
    match PerAxis.ofList? ns with
    | some e => return (e, rest)
    | none => .error (.wrongLength ns.length .exponents)
  | cs => .error (Json.wrongType reals .exponents cs)

end Reading

/-- The members of an object that have been read. -/
structure Members (k : ScalarKind) where
  value : Option (Scalar k) := none
  exponents : Option Exponents := none

/-- Read the content of a member whose key has been read. A key comes once; a second one is refused
before its content is looked at. -/
def Members.readMember (reals : RealReader) (members : Members k) (key cs : Text) : Except Error (Members k × Text) :=
  match Field.ofKey? key with
  | none => .error (.unknownField key)
  | some .value =>
    if members.value.isSome then .error (.duplicateField .value)
    else do
      let (a, rest) ← Json.readScalar reals k (← Json.readColon cs)
      return ({ members with value := some a }, rest)
  | some .exponents =>
    if members.exponents.isSome then .error (.duplicateField .exponents)
    else do
      let (e, rest) ← readExponents reals (← Json.readColon cs)
      return ({ members with exponents := some e }, rest)

/-- The quantity of a complete object: the value must be there, and exponents that are there must be
those of the dimension. -/
def Members.finish (d : Dimension) (members : Members k) : Except Error (Quantity d k) :=
  match members.value with
  | none => .error (.missingField .value)
  | some a =>
    match members.exponents with
    | none => .ok ⟨a⟩
    | some found =>
      match Exponents.ensure d.exponents found.powers with
      | .ok () => .ok ⟨a⟩
      | .error error => .error (.dimension error)

/-- The members up to the closing brace, in at most `fuel` steps. -/
def readMembers (reals : RealReader) : Nat → Bool → Members k → Text → Except Error (Members k × Text)
  | 0, _, _, _ => .error (.ended .object)
  | fuel + 1, first, members, cs => do
    match ← Json.readKey first cs with
    | (none, rest) => return (members, rest)
    | (some key, rest) =>
      let (members, rest) ← members.readMember reals key rest
      readMembers reals fuel false members rest

/-- A quantity from an object. Every member takes a character, so the length of the text is fuel
enough; the object is judged at its closing brace, before what follows it. -/
def readTagged (reals : RealReader) (d : Dimension) (k : ScalarKind) (cs : Text) : Except Error (Quantity d k) :=
  match Json.skipBlanks cs with
  | [] => .error (.ended .value)
  | c :: rest =>
    if c = Json.openBrace then do
      let (members, rest) ← readMembers reals (rest.length + 1) true ({} : Members k) rest
      let q ← members.finish d
      Json.readEnd rest
      return q
    else .error (Json.wrongType reals .quantity (c :: rest))

/-! ### Laws -/

theorem write_int {l : IntKind} (q : Quantity d (.int l)) :
    write q = Decimal.ofInt q.toInt := rfl

theorem finish_eq_ok {members : Members k} {q : Quantity d k} :
    members.finish d = .ok q ↔
      members.value = some q.value ∧
        ∀ found, members.exponents = some found → found.powers = d.exponents := by
  obtain ⟨value, exponents⟩ := members
  cases value with
  | none => exact ⟨nofun, fun h => nomatch h.1⟩
  | some a =>
    cases exponents with
    | none =>
      constructor
      · intro h; cases h; exact ⟨rfl, fun _ h => (nomatch h)⟩
      · rintro ⟨h, -⟩; cases h; rfl
    | some found =>
      have agree := @Powers.equals_iff d.exponents found.powers
      simp only [Members.finish, Exponents.ensure]
      split
      · next heq =>
        split at heq
        · next equal =>
          constructor
          · intro h; cases h; exact ⟨rfl, fun _ h => by cases h; exact (agree.1 equal).symm⟩
          · rintro ⟨h, -⟩; cases h; rfl
        · cases heq
      · next heq =>
        split at heq
        · cases heq
        · next unequal =>
          exact ⟨nofun, fun h => absurd (agree.2 (h.2 found rfl).symm) unequal⟩

end Dimensional.Wire
