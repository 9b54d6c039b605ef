import Dimensional.Text.Decimal

/-!
# Runs of digits

A run of digits keeps its value when zeros are put in front of it, so there are many runs for a number.
Only one of them is canonical: that which does not begin with a zero, or is no more than a zero.

* `Decimal.toNat?_zeros_append` — zeros in front keep the value;
* `Decimal.ofNat_append` — digits behind a printed number are digits of a printed number;
* `Decimal.isCanonical_iff` — the canonical run of a number is the one that is printed.
-/

namespace Dimensional.Decimal

/-- Zeros in front of digits keep their value. -/
theorem toNat?_zeros_append (count : Nat) {digits : Text} (h : digits ≠ []) :
    toNat? (List.replicate count '0' ++ digits) = toNat? digits := by
  have hnonempty : List.replicate count '0' ++ digits ≠ [] := fun hnil => h (List.append_eq_nil_iff.1 hnil).2
  have hzeros : (List.replicate count '0').all Char.isDigit = true := by
    refine List.all_eq_true.2 fun c hc => ?_
    rw [List.eq_of_mem_replicate hc]
    rfl
  have hall : (List.replicate count '0' ++ digits).all Char.isDigit = digits.all Char.isDigit := by
    rw [List.all_append, hzeros, Bool.true_and]
  have hvalue : Nat.ofDigitChars 10 (List.replicate count '0' ++ digits) 0 = Nat.ofDigitChars 10 digits 0 := by
    rw [Nat.ofDigitChars_append, Nat.ofDigitChars_replicate_zero, Nat.mul_zero]
  simp only [toNat?, hall, hvalue, hnonempty, h, ne_eq, not_false_eq_true, true_and]

/-! ### The canonical run -/

/-- The run of digits stands for the number, and begins with a zero only if it is no more than that. -/
structure IsCanonical (digits : Text) (n : Nat) : Prop where
  value : toNat? digits = some n
  noLeadingZero : ∀ rest, digits = '0' :: rest → rest = []

theorem isCanonical_ofNat (n : Nat) : IsCanonical (ofNat n) n where
  value := toNat?_ofNat n
  noLeadingZero := by
    intro rest h
    cases rest with
    | nil => rfl
    | cons c rest => exact absurd h (ofNat_ne_leading_zero n c rest)

/-- A digit is the character of its value. -/
theorem exists_digitChar {c : Char} (h : c.isDigit = true) :
    ∃ d < 10, d.digitChar = c ∧ c.toNat - '0'.toNat = d := by
  have hbounds : 48 ≤ c.toNat ∧ c.toNat ≤ 57 := by
    rw [Char.isDigit, Bool.and_eq_true, decide_eq_true_iff, decide_eq_true_iff] at h
    exact h
  have hzero : '0'.toNat = 48 := rfl
  refine ⟨c.toNat - 48, by omega, ?_, by rw [hzero]⟩
  apply Char.toNat_inj.1
  rw [Nat.toNat_digitChar_of_lt_ten (by omega)]
  omega

/-- Digits behind the text of a positive number make up the text of a number. -/
theorem ofNat_append {digits : Text} (h : digits.all Char.isDigit = true) {n : Nat} (hn : 0 < n) :
    ofNat n ++ digits = ofNat (Nat.ofDigitChars 10 digits n) := by
  induction digits generalizing n with
  | nil => rw [List.append_nil, Nat.ofDigitChars_nil]
  | cons c digits ih =>
    rw [List.all_cons, Bool.and_eq_true] at h
    obtain ⟨d, hlt, hchar, hvalue⟩ := exists_digitChar h.1
    have hdigit : ofNat n ++ [c] = ofNat (10 * n + d) := by
      have hjoin := Nat.toDigits_append_toDigits (by decide : 1 < 10) hn hlt
      rw [Nat.toDigits_of_lt_base hlt, hchar] at hjoin
      exact hjoin
    calc ofNat n ++ c :: digits
        = (ofNat n ++ [c]) ++ digits := List.append_cons _ _ _
      _ = ofNat (10 * n + d) ++ digits := by rw [hdigit]
      _ = ofNat (Nat.ofDigitChars 10 digits (10 * n + d)) := ih h.2 (by omega)
      _ = ofNat (Nat.ofDigitChars 10 (c :: digits) n) := by rw [Nat.ofDigitChars_cons, hvalue]

/-- **The canonical run of a number is the one that is printed.** -/
theorem isCanonical_iff {digits : Text} {n : Nat} : IsCanonical digits n ↔ digits = ofNat n := by
  refine ⟨fun h => ?_, fun h => h ▸ isCanonical_ofNat n⟩
  have hvalue := h.value
  rw [toNat?] at hvalue
  split at hvalue
  · next hrun =>
    obtain ⟨hnonempty, hdigits⟩ := hrun
    rw [← Option.some.inj hvalue]
    cases digits with
    | nil => exact absurd rfl hnonempty
    | cons c rest =>
      by_cases hzero : c = '0'
      · subst hzero
        rw [h.noLeadingZero rest rfl]
        rfl
      · rw [List.all_cons, Bool.and_eq_true] at hdigits
        obtain ⟨d, hlt, hchar, hd⟩ := exists_digitChar hdigits.1
        have hpositive : 0 < d := by
          refine Nat.pos_of_ne_zero fun hd0 => hzero ?_
          rw [← hchar, hd0]
          rfl
        have hfirst : ofNat d = [c] := by rw [ofNat, Nat.toDigits_of_lt_base hlt, hchar]
        calc c :: rest = ofNat d ++ rest := by rw [hfirst]; rfl
          _ = ofNat (Nat.ofDigitChars 10 rest d) := ofNat_append hdigits.2 hpositive
          _ = ofNat (Nat.ofDigitChars 10 (c :: rest) 0) := by
            rw [Nat.ofDigitChars_cons, hd, Nat.mul_zero, Nat.zero_add]
  · cases hvalue

end Dimensional.Decimal
