import Dimensional.Derive.Attribute

/-!
# The declaration of a marker

What makes a type a marker: the dimension trait is implemented for it, with one type for each axis that
spells the exponent, `Z0`, `P3` or `N2`.

* `exponentOf?_exponentName` — the spelling of an exponent reads back as that exponent;
* `exponentName_injective` — different exponents are spelled differently.
-/

namespace Dimensional.Derive

open Source

/-- The type that spells an exponent: its sign as a letter, and its magnitude. -/
def exponentName (n : Int) : Text :=
  if n = 0 then ['Z', '0']
  else (if 0 < n then 'P' else 'N') :: Decimal.ofNat n.natAbs

/-- The words of the type that spells an exponent, under a path. -/
def exponentWords (path : Path) (n : Int) : List Text :=
  path.words ++ ["::".toList, "typenum".toList, "::".toList, exponentName n]

/-- The type that spells an exponent, on one line. -/
def exponentText (path : Path) (n : Int) : Text :=
  List.intercalate [' '] (exponentWords path n)

/-- A marker to be declared. -/
structure Marker where
  name : Ident
  path : Path
  exponents : Powers
  deriving DecidableEq

namespace Marker

/-- The item that gives the exponent on one axis. -/
def axisWords (m : Marker) (axis : Axis) : List Text :=
  ["type".toList, axis.title.toList, ['=']] ++ exponentWords m.path (m.exponents.get axis) ++ [[';']]

/-- The words of the declaration. -/
def words (m : Marker) : List Text :=
  "impl".toList :: m.path.words ++
    ["::".toList, "Dimension".toList, "for".toList, m.name.text, ['\x7b']] ++
    Axis.all.flatMap m.axisWords ++ [['\x7d']]

/-- The declaration on one line. -/
def text (m : Marker) : Text := List.intercalate [' '] m.words

end Marker

/-! ### Reading the spelling back -/

/-- The exponent that a type spells. -/
def exponentOf? : Text → Option Int
  | ['Z', '0'] => some 0
  | 'P' :: digits => (Decimal.toNat? digits).map Int.ofNat
  | 'N' :: digits => (Decimal.toNat? digits).map fun n => -(n : Int)
  | _ => none

theorem exponentOf?_exponentName (n : Int) : exponentOf? (exponentName n) = some n := by
  by_cases zero : n = 0
  · rw [zero]; rfl
  · by_cases positive : 0 < n
    · rw [exponentName, if_neg zero, if_pos positive, exponentOf?, Decimal.toNat?_ofNat]
      exact congrArg some (by show (n.natAbs : Int) = n; omega)
    · rw [exponentName, if_neg zero, if_neg positive, exponentOf?, Decimal.toNat?_ofNat]
      exact congrArg some (by show -(n.natAbs : Int) = n; omega)

theorem exponentName_injective {a b : Int} (h : exponentName a = exponentName b) : a = b :=
  Option.some.inj (by rw [← exponentOf?_exponentName a, h, exponentOf?_exponentName])

end Dimensional.Derive
