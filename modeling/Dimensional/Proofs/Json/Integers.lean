import Dimensional.Proofs.Json.Values

/-!
# Integers in JSON read back

The canonical decimal of an integer is a written number, and stands for the integer in the kinds that hold
it, and for nothing in all others.

* `Number.text_ofInt` — the number that is written for an integer;
* `scalar_ofInt_eq_ok` — what it stands for.
-/

namespace Dimensional.Json

/-! ### The number of an integer -/

/-- The number that is written for an integer. -/
def Number.ofInt (x : Int) : Number where
  negative := decide (x < 0)
  integral := ⟨Decimal.ofNat x.natAbs, Decimal.ofNat_ne_nil _, fun _ hc => Decimal.isDigit_of_mem_ofNat hc⟩
  no_leading_zero := Decimal.ofNat_ne_leading_zero _
  decimals? := none
  power? := none

namespace Number

theorem text_ofInt (x : Int) : (ofInt x).text = Decimal.ofInt x := by
  have htext : (ofInt x).text = (if decide (x < 0) then ['-'] else []) ++ (Decimal.ofNat x.natAbs ++ []) := rfl
  rw [htext, List.append_nil]
  cases x with
  | ofNat n =>
    have hpositive : ¬ Int.ofNat n < 0 := Int.not_lt.2 (Int.natCast_nonneg n)
    rw [decide_eq_false hpositive]
    rfl
  | negSucc n =>
    rw [decide_eq_true (Int.negSucc_lt_zero n)]
    rfl

theorem integer_ofInt (x : Int) : (ofInt x).integer = x := signed_ofDigitChars x

theorem significand_ofInt (x : Int) : (ofInt x).numeral.significand = x.natAbs := by
  show Nat.ofDigitChars 10 (Decimal.ofNat x.natAbs ++ []) 0 = x.natAbs
  rw [List.append_nil]
  exact Nat.ofDigitChars_ten_toDigits

theorem integer?_numeral_ofInt (x : Int) :
    (ofInt x).numeral.integer? =
      if x < 0 then if 0 < x.natAbs ∧ x.natAbs ≤ 2 ^ 63 then some (-(x.natAbs : Int)) else none
      else if x.natAbs < 2 ^ 64 then some (x.natAbs : Int) else none := by
  have hwhole : (ofInt x).numeral.whole = true := rfl
  have hnegative : (ofInt x).numeral.negative = decide (x < 0) := rfl
  simp only [Numeral.integer?, hwhole, hnegative, significand_ofInt, Bool.not_true, Bool.false_eq_true, if_false,
    decide_eq_true_eq]

/-- A numeral that is read as an integer is read as the one that was written. -/
theorem integer?_eq_some {x y : Int} (h : (ofInt x).numeral.integer? = some y) : y = x := by
  rw [integer?_numeral_ofInt] at h
  split at h
  · split at h
    · have hy := Option.some.inj h
      omega
    · cases h
  · split at h
    · have hy := Option.some.inj h
      omega
    · cases h

theorem integer?_of_bounds {x : Int} (hlow : -2 ^ 63 ≤ x) (hhigh : x < 2 ^ 64) :
    (ofInt x).numeral.integer? = some x := by
  rw [integer?_numeral_ofInt]
  by_cases hnegative : x < 0
  · rw [if_pos hnegative, if_pos (by omega)]
    exact congrArg some (by omega)
  · rw [if_neg hnegative, if_pos (by omega)]
    exact congrArg some (by omega)

theorem found_eq_integer {reals : RealReader} {x y : Int}
    (h : (ofInt x).numeral.found reals = .ok (.integer y)) : y = x := by
  unfold Numeral.found at h
  split at h
  · next z hinteger =>
    cases h
    exact integer?_eq_some hinteger
  · -- longer than every integer: a real or nothing
    split at h <;> cases h

end Number

/-! ### Integers of a kind -/

/-- A kind of at most 64 bits lies in what a numeral can hold. -/
theorem short_bounds {k : IntKind} (hshort : k.width ≠ .w128) : -2 ^ 63 ≤ k.min ∧ k.max < 2 ^ 64 := by
  obtain ⟨signed, width⟩ := k
  cases signed <;> cases width <;> first | exact absurd rfl hshort | decide

theorem found_toFixed_ofInt {reals : RealReader} {k : IntKind} (hshort : k.width ≠ .w128) {x : Int} {a : Fixed k} :
    (((Number.ofInt x).numeral.found reals).bind fun found => found.toFixed k) = .ok a ↔ a.toInt = x := by
  constructor
  · intro h
    obtain ⟨found, hfound, hfixed⟩ := bind_eq_ok.1 h
    rw [toFixed_eq_ok.1 hfixed] at hfound
    exact Number.found_eq_integer hfound
  · rintro rfl
    obtain ⟨hmin, hmax⟩ := short_bounds hshort
    have hinteger := Number.integer?_of_bounds (Int.le_trans hmin a.min_le) (Int.lt_of_le_of_lt a.le_max hmax)
    have hfound : (Number.ofInt a.toInt).numeral.found reals = .ok (.integer a.toInt) := by
      rw [Numeral.found, hinteger]
    exact bind_eq_ok.2 ⟨_, hfound, toFixed_eq_ok.2 rfl⟩

theorem signed_of_negative {k : IntKind} (a : Fixed k) (h : a.toInt < 0) : k.signed = true := by
  cases hsigned : k.signed with
  | true => rfl
  | false =>
    have hmin : k.min = 0 := by rw [IntKind.min, hsigned]; rfl
    have hle := a.min_le
    omega

/-- A sign and digits are read into 128 bits, if the kind has a sign. -/
theorem longInteger_ofInt {k : IntKind} {x : Int} {a : Fixed k} :
    (Number.ofInt x).longInteger k = .ok a ↔ a.toInt = x := by
  rw [Number.longInteger, Number.integer_ofInt]
  by_cases hrefused : (Number.ofInt x).negative = true ∧ (!k.signed) = true
  · rw [if_pos hrefused]
    constructor
    · intro h
      cases h
    · intro ha
      have hsigned := signed_of_negative a (ha ▸ of_decide_eq_true hrefused.1)
      rw [hsigned] at hrefused
      cases hrefused.2
  · rw [if_neg hrefused, ← Fixed.ofInt?_eq_some]
    cases Fixed.ofInt? k x with
    | none =>
      constructor <;>
      · intro h
        cases h
    | some b => exact ⟨fun h => congrArg some (Except.ok.inj h), fun h => congrArg Except.ok (Option.some.inj h)⟩

/-- **The number of an integer stands for the integer**, in the kinds that hold it. -/
theorem scalar_ofInt_eq_ok {reals : RealReader} {k : IntKind} {x : Int} {a : Fixed k} :
    (Value.number (.ofInt x)).scalar reals (.int k) = .ok a ↔ a.toInt = x := by
  by_cases hlong : k.width = .w128
  · have hread := readLongInteger_number k (.ofInt x) endsNumber_nil
    rw [List.append_nil] at hread
    have hscalar : (Value.number (.ofInt x)).scalar reals (.int k) = (Number.ofInt x).longInteger k :=
      scalar_of_read ((if_pos hlong).trans hread)
    rw [hscalar]
    exact longInteger_ofInt
  · have hread := readShortInteger_number reals k (.ofInt x) endsNumber_nil
    rw [List.append_nil] at hread
    have hscalar : (Value.number (.ofInt x)).scalar reals (.int k) =
        ((Number.ofInt x).numeral.found reals).bind fun found => found.toFixed k :=
      scalar_of_read ((if_neg hlong).trans hread)
    rw [hscalar]
    exact found_toFixed_ofInt hlong

end Dimensional.Json
