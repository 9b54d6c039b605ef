import Dimensional.Power
import Dimensional.Text.Decimal

/-!
# The integer scalar types

A kind is a width and a signedness. Widths are fixed (8 to 128 bits) or that of the machine word;
the word has 64 bits here, but of a word only 16 bits are promised, which is what `widens` counts on.

* `IntKind.holds_zero` — every kind has zero among its values;
* `IntKind.widens_iff`, `IntKind.widens_trans` — where a lossless conversion goes, and that two make one.
-/

namespace Dimensional

/-- Width of an integer type. -/
inductive Width where
  | w8 | w16 | w32 | w64 | w128
  /-- The machine word. -/
  | word
  deriving DecidableEq, Repr

namespace Width

/-- All widths, narrow to wide, the word last. -/
def all : List Width := [w8, w16, w32, w64, w128, word]

/-- Size in bytes. -/
def bytes : Width → Nat
  | w8 => 1
  | w16 => 2
  | w32 => 4
  | w64 => 8
  | w128 => 16
  | word => 8

/-- Size in bits. -/
def bits (w : Width) : Nat := 8 * w.bytes

/-- The size that a value may rely on: a word is only promised to have 16 bits. -/
def promisedBits : Width → Nat
  | word => 16
  | w => w.bits

/-- How the width is spelled in the name of a type. -/
def text : Width → String
  | w8 => "8"
  | w16 => "16"
  | w32 => "32"
  | w64 => "64"
  | w128 => "128"
  | word => "size"

theorem bits_pos (w : Width) : 0 < w.bits := by cases w <;> decide

theorem promisedBits_of_fixed {w : Width} (h : w ≠ .word) : w.promisedBits = w.bits := by
  cases w with
  | word => exact absurd rfl h
  | w8 | w16 | w32 | w64 | w128 => rfl

end Width

/-- An integer scalar type. -/
structure IntKind where
  signed : Bool
  width : Width
  deriving DecidableEq, Repr

namespace IntKind

/-- The type of exponents. -/
def i32 : IntKind := ⟨true, .w32⟩

/-- Both families, signed first. -/
def all : List IntKind :=
  Width.all.map (IntKind.mk true) ++ Width.all.map (IntKind.mk false)

/-- Name of the type, such as `i32` or `usize`. -/
def name (k : IntKind) : String :=
  if k.signed then "i" ++ k.width.text else "u" ++ k.width.text

/-- Least value. -/
def min (k : IntKind) : Int :=
  if k.signed then -(2 ^ (k.width.bits - 1)) else 0

/-- Greatest value. -/
def max (k : IntKind) : Int :=
  if k.signed then 2 ^ (k.width.bits - 1) - 1 else 2 ^ k.width.bits - 1

/-- The integer `n` is a value of the kind. -/
def Holds (k : IntKind) (n : Int) : Prop := k.min ≤ n ∧ n ≤ k.max

instance (k : IntKind) (n : Int) : Decidable (k.Holds n) := inferInstanceAs (Decidable (_ ∧ _))

theorem holds_zero (k : IntKind) : k.Holds 0 := by
  obtain ⟨signed, width⟩ := k
  cases signed <;> cases width <;> decide

theorem i32_holds {n : Int} : i32.Holds n ↔ -2147483648 ≤ n ∧ n ≤ 2147483647 := Iff.rfl

/-- There is a lossless conversion from `k` to `l`: the type itself, or a fixed width that fits into
the bits promised by the other with its sign. An unsigned type needs one more bit in a signed one;
a signed type has no place in an unsigned one. -/
def widens (k l : IntKind) : Bool :=
  if k = l then true
  else if k.width = .word then false
  else match k.signed, l.signed with
    | true, true | false, false => k.width.bits ≤ l.width.promisedBits
    | false, true => k.width.bits < l.width.promisedBits
    | true, false => false

theorem widens_refl (k : IntKind) : k.widens k = true := if_pos rfl

/-- Between two kinds it takes a fixed width, no sign to lose, and room for the bits, with one more for a
sign to gain. -/
theorem widens_iff {k l : IntKind} (hne : k ≠ l) :
    k.widens l = true ↔ k.width ≠ .word ∧ (k.signed = true → l.signed = true) ∧
      k.width.bits + l.signed.toNat ≤ l.width.promisedBits + k.signed.toNat := by
  obtain ⟨ks, kw⟩ := k
  obtain ⟨ls, lw⟩ := l
  rw [widens, if_neg hne]
  by_cases hword : kw = .word
  · simp [hword]
  · rw [if_neg hword]
    cases ks <;> cases ls <;>
      simp only [decide_eq_true_iff, ne_eq, hword, not_false_iff, true_and, Bool.toNat_false, Bool.toNat_true,
        Bool.false_eq_true, false_implies, implies_true, true_implies, false_and] <;>
      omega

theorem signed_of_widens {k l : IntKind} (h : k.widens l = true) (hk : k.signed = true) : l.signed = true := by
  by_cases hkl : k = l
  · rwa [← hkl]
  · exact ((widens_iff hkl).1 h).2.1 hk

theorem widens_trans {k l m : IntKind} (h : k.widens l = true) (h' : l.widens m = true) :
    k.widens m = true := by
  by_cases hkl : k = l
  · rwa [hkl]
  by_cases hlm : l = m
  · rwa [← hlm]
  by_cases hkm : k = m
  · rw [hkm]
    exact m.widens_refl
  obtain ⟨hfixed, hsign, hbits⟩ := (widens_iff hkl).1 h
  obtain ⟨hfixed', hsign', hbits'⟩ := (widens_iff hlm).1 h'
  rw [Width.promisedBits_of_fixed hfixed'] at hbits
  refine (widens_iff hkm).2 ⟨hfixed, hsign' ∘ hsign, ?_⟩
  omega

end IntKind

end Dimensional
