import Dimensional.Text.Basic

/-!
# Decimal text of whole numbers

Every whole number that the library prints is written here, in the canonical decimal: no leading zero,
`-` before a negative number, never `-0`.

* `Decimal.toNat?_ofNat`, `Decimal.toInt?_ofInt` — a printed number reads back;
* `Decimal.ofNat_injective`, `Decimal.ofInt_injective` — different numbers have different texts;
* `Decimal.ofNat_ne_leading_zero` — there are no leading zeros.
-/

namespace Dimensional

namespace Decimal

/-- The canonical decimal of a natural number. -/
def ofNat (n : Nat) : Text :=
  Nat.toDigits 10 n

/-- The canonical decimal of an integer. -/
def ofInt : Int → Text
  | .ofNat n => ofNat n
  | .negSucc n => '-' :: ofNat (n + 1)

/-- The number that a nonempty run of decimal digits stands for; leading zeros are allowed. -/
def toNat? (digits : Text) : Option Nat :=
  if digits ≠ [] ∧ digits.all Char.isDigit then some (Nat.ofDigitChars 10 digits 0) else none

/-- The number that a run of digits stands for, with one `-` allowed in front. -/
def toInt? : Text → Option Int
  | '-' :: digits => (toNat? digits).map fun n => -(n : Int)
  | digits => (toNat? digits).map Int.ofNat

/-! ### Laws -/

theorem ofNat_ne_nil (n : Nat) : ofNat n ≠ [] :=
  Nat.toDigits_ne_nil

theorem isDigit_of_mem_ofNat {n : Nat} {c : Char} (h : c ∈ ofNat n) : c.isDigit = true :=
  Nat.isDigit_of_mem_toDigits (by decide) (by decide) h

theorem toNat?_ofNat (n : Nat) : toNat? (ofNat n) = some n := by
  have digits : (ofNat n).all Char.isDigit = true :=
    List.all_eq_true.2 fun _ h => isDigit_of_mem_ofNat h
  rw [toNat?, if_pos ⟨ofNat_ne_nil n, digits⟩]
  exact congrArg some Nat.ofDigitChars_ten_toDigits

theorem ofNat_injective {m n : Nat} (h : ofNat m = ofNat n) : m = n :=
  Option.some.inj (by rw [← toNat?_ofNat m, h, toNat?_ofNat])

/-- A decimal of a natural number does not begin with a sign. -/
theorem ofNat_eq_cons (n : Nat) : ∃ c rest, ofNat n = c :: rest ∧ c.isDigit = true := by
  match h : ofNat n with
  | [] => exact absurd h (ofNat_ne_nil n)
  | c :: rest => exact ⟨c, rest, rfl, isDigit_of_mem_ofNat (h ▸ List.mem_cons_self)⟩

/-- A decimal begins with a zero only if it is no more than that. -/
theorem eq_zero_of_ofNat_eq_cons {n : Nat} {rest : Text} (h : ofNat n = '0' :: rest) : n = 0 := by
  induction n using Nat.strongRecOn generalizing rest with
  | ind n ih =>
    by_cases small : n < 10
    · have single : ['0'] = [n.digitChar] := by
        rw [ofNat, Nat.toDigits_of_lt_base small] at h
        rw [h, (List.cons.inj h).2]
      have read := toNat?_ofNat n
      rw [ofNat, Nat.toDigits_of_lt_base small, ← single] at read
      exact (Option.some.inj read).symm
    · rw [ofNat, Nat.toDigits_of_base_le (by decide) (by omega)] at h
      have front : ofNat (n / 10) = '0' :: (ofNat (n / 10)).tail := by
        cases shape : ofNat (n / 10) with
        | nil => exact absurd shape (ofNat_ne_nil _)
        | cons c cs =>
          rw [ofNat] at shape
          rw [shape] at h
          rw [(List.cons.inj h).1]
          rfl
      have zero := ih (n / 10) (by omega) front
      omega

theorem ofNat_ne_leading_zero (n : Nat) (c : Char) (rest : Text) : ofNat n ≠ '0' :: c :: rest := by
  intro h
  have zero := eq_zero_of_ofNat_eq_cons h
  rw [zero] at h
  cases h

theorem toInt?_ofInt (z : Int) : toInt? (ofInt z) = some z := by
  cases z with
  | ofNat n =>
    obtain ⟨c, rest, shape, digit⟩ := ofNat_eq_cons n
    have unsigned : c ≠ '-' := by rintro rfl; exact absurd digit (by decide)
    have read := toNat?_ofNat n
    simp only [ofInt]
    rw [shape] at read ⊢
    unfold toInt?
    split
    · next heq => exact absurd (List.cons.inj heq).1 unsigned
    · rw [read]; rfl
  | negSucc n =>
    simp only [ofInt, toInt?, toNat?_ofNat]
    show some (-((n + 1 : Nat) : Int)) = some (Int.negSucc n)
    rw [Int.negSucc_eq]
    rfl

theorem ofInt_injective {a b : Int} (h : ofInt a = ofInt b) : a = b :=
  Option.some.inj (by rw [← toInt?_ofInt a, h, toInt?_ofInt])

end Decimal

end Dimensional
