import Dimensional.Json.RealReader
import Dimensional.Proofs.Binary.Shortest
import Dimensional.Proofs.Json.Values
import Mathlib.Algebra.Order.Field.Power

/-!
# Reals in JSON read back

A finite value is written as its shortest decimal, with a point or with a power of ten.  Whatever the layout,
the text is a written number with the value of that decimal, and reading rounds it back to what was written.

* `Numeral.nearest?_eq_some` — a numeral is read as the nearest value;
* `exists_number_positionalPoint`, `exists_number_scientific` — both layouts are written numbers that spell the
  decimal;
* `exists_number_realText` — so is the text of a finite value;
* `scalar_once` — which is read back as that value, if it is rounded once.
-/

namespace Dimensional

/-! ### Beyond the format -/

namespace Precision

variable {p : Precision} {d : Decimal10} {reach : Nat}

/-- A power of ten by which one is less than half of a unit. -/
theorem half_unit_reach (p : Precision) : 2 * p.unitsPerOne ≤ 10 ^ 1000 := by cases p <;> decide +kernel

/-- A power of ten that is beyond the finite values. -/
theorem infinity_reach (p : Precision) : p.units p.infinity < 10 ^ 1000 * p.unitsPerOne := by
  cases p <;> decide +kernel

/-- Less than half of a unit is rounded to nothing. -/
theorem rounds_zero_of_size (unit : 2 * p.unitsPerOne ≤ 10 ^ reach) (h : d.size ≤ -reach) :
    p.Rounds (d.value * p.unitsPerOne) 0 := by
  have ten : (10 : ℚ) ≠ 0 := by norm_num
  have one : (2 * p.unitsPerOne : ℚ) ≤ 10 ^ reach := by exact_mod_cast unit
  have nonneg := d.value_nonneg
  have small : d.value ≤ 10 ^ (-reach : Int) := d.value_lt.le.trans (zpow_le_zpow_right₀ (by norm_num) h)
  have half : d.value * (2 * p.unitsPerOne) ≤ 1 := by
    calc d.value * (2 * p.unitsPerOne) ≤ 10 ^ (-reach : Int) * 10 ^ reach :=
          mul_le_mul small one (by positivity) (by positivity)
      _ = 1 := by rw [zpow_neg, zpow_natCast, inv_mul_cancel₀ (pow_ne_zero _ ten)]
  have first : p.units 1 = 1 := by cases p <;> decide
  refine ⟨?_, ?_, nofun⟩
  · have product : 0 ≤ d.value * p.unitsPerOne := by positivity
    rw [Nat.zero_sub, units_zero]
    push_cast
    linarith
  · rw [units_zero, Nat.zero_add, first]
    push_cast
    linarith

/-- A number that is rounded to a finite value is not beyond all of them. -/
theorem size_le_of_rounds {m : Nat} (beyond : p.units p.infinity < 10 ^ reach * p.unitsPerOne)
    (finite : m < p.infinity) (nonzero : d.significand ≠ 0) (h : p.Rounds (d.value * p.unitsPerOne) m) :
    d.size ≤ reach := by
  have own : p.units m ≤ p.units p.infinity := p.units_strictMono.monotone finite.le
  have next : p.units (m + 1) ≤ p.units p.infinity := p.units_strictMono.monotone finite
  have bound : (p.units m + p.units (m + 1) : ℚ) < 2 * (10 ^ reach * p.unitsPerOne) := by
    exact_mod_cast (show p.units m + p.units (m + 1) < 2 * (10 ^ reach * p.unitsPerOne) by omega)
  have one : (0 : ℚ) < p.unitsPerOne := by exact_mod_cast Nat.two_pow_pos p.unitBits
  have scaled : d.value * p.unitsPerOne < 10 ^ reach * p.unitsPerOne := by
    linarith [h.high]
  have value : d.value < 10 ^ (reach : Int) := by
    rw [zpow_natCast]
    exact (mul_lt_mul_iff_left₀ one).1 scaled
  have power := (zpow_lt_zpow_iff_right₀ (by norm_num : (1 : ℚ) < 10)).1 ((d.le_value nonzero).trans_lt value)
  omega

end Precision

namespace Json

/-! ### Reading a numeral -/

namespace Numeral

/-- The decimal that a numeral spells, without its sign. -/
def decimal (n : Numeral) : Decimal10 := ⟨n.significand, n.exponent⟩

variable {p : Precision} {n : Numeral} {a : Binary p}

/-- **A numeral is read as the nearest value**, if that is finite. -/
theorem nearest?_eq_some (sign : n.negative = a.negative) (finite : a.magnitude < p.infinity)
    (h : p.Rounds (n.decimal.value * p.unitsPerOne) a.magnitude) : n.nearest? p = some a := by
  have size : n.exponent + (Decimal.ofNat n.significand).length = n.decimal.size := rfl
  unfold nearest?
  dsimp only
  rw [size]
  split
  · next small =>
    have zero : a.magnitude = 0 := by
      rcases small with none | tiny
      · exact (Precision.rounds_of_zero (d := n.decimal) none).1 h
      · exact h.unique (Precision.rounds_zero_of_size p.half_unit_reach (by omega))
    exact congrArg some (Binary.ext sign zero.symm)
  · next large =>
    rw [not_or] at large
    have bounded := Precision.size_le_of_rounds (d := n.decimal) p.infinity_reach finite large.1 h
    rw [if_neg (by omega)]
    rw [Decimal10.value_units] at h
    have nearest : p.round (n.significand * Decimal10.scaleUp n.exponent * p.unitsPerOne)
        (Decimal10.scaleDown n.exponent) = a.magnitude := by
      refine (Precision.round_eq p (Decimal10.scaleDown_pos _) h).trans ?_
      exact Nat.min_eq_right finite.le
    have value : Binary.nearest n.negative (n.significand * Decimal10.scaleUp n.exponent * p.unitsPerOne)
        (Decimal10.scaleDown n.exponent) = a := Binary.ext sign nearest
    have notInfinite : a.isInfinite = false := by simpa [Binary.isInfinite] using finite.ne
    rw [value, notInfinite]
    rfl

theorem real?_of_fraction (reals : RealReader) (h : n.whole = false) : n.real? reals p = reals p n := by
  rw [real?, integer?, h]
  rfl

end Numeral

/-! ### Digits -/

/-- Zeros in front of digits do not count. -/
theorem ofDigitChars_padded (n count : Nat) :
    Nat.ofDigitChars 10 (List.replicate count '0' ++ Decimal.ofNat n) 0 = n := by
  rw [Nat.ofDigitChars_append, Nat.ofDigitChars_replicate_zero, Nat.mul_zero]
  exact Nat.ofDigitChars_ten_toDigits

/-- Zeros behind digits count as factors of ten. -/
theorem ofDigitChars_shifted (n count : Nat) :
    Nat.ofDigitChars 10 (Decimal.ofNat n ++ List.replicate count '0') 0 = 10 ^ count * n := by
  rw [Nat.ofDigitChars_append, Nat.ofDigitChars_replicate_zero]
  exact congrArg _ Nat.ofDigitChars_ten_toDigits

theorem isDigit_of_mem_zeros {count : Nat} {c : Char} (h : c ∈ List.replicate count '0') : c.isDigit = true := by
  rw [List.eq_of_mem_replicate h]
  rfl

/-- No zero stands in front of the digits of a number other than zero. -/
theorem ofNat_append_ne {n : Nat} (h : n ≠ 0) (rest more : Text) : Decimal.ofNat n ++ rest ≠ '0' :: more := by
  obtain ⟨c, digits, shape, -⟩ := Decimal.ofNat_eq_cons n
  rw [shape]
  intro zero
  rw [(List.cons.inj zero).1] at shape
  exact h (Decimal.eq_zero_of_ofNat_eq_cons shape)

namespace Digits

/-- The digits of a natural number. -/
def ofNat (n : Nat) : Digits := ⟨Decimal.ofNat n, Decimal.ofNat_ne_nil n, fun _ => Decimal.isDigit_of_mem_ofNat⟩

/-- The digits of a natural number behind zeros. -/
def padded (count n : Nat) : Digits where
  text := List.replicate count '0' ++ Decimal.ofNat n
  ne_nil h := Decimal.ofNat_ne_nil n (List.append_eq_nil_iff.1 h).2
  digit _ h := (List.mem_append.1 h).elim isDigit_of_mem_zeros Decimal.isDigit_of_mem_ofNat

/-- The digits of a natural number in front of zeros. -/
def shifted (n count : Nat) : Digits where
  text := Decimal.ofNat n ++ List.replicate count '0'
  ne_nil h := Decimal.ofNat_ne_nil n (List.append_eq_nil_iff.1 h).1
  digit _ h := (List.mem_append.1 h).elim Decimal.isDigit_of_mem_ofNat isDigit_of_mem_zeros

/-- The digits of a natural number up to a place among them. -/
def front (n : Nat) {place : Nat} (h : 0 < place) : Digits where
  text := (Decimal.ofNat n).take place
  ne_nil nil := (List.take_eq_nil_iff.1 nil).elim h.ne' (Decimal.ofNat_ne_nil n)
  digit _ mem := Decimal.isDigit_of_mem_ofNat (List.mem_of_mem_take mem)

/-- The digits of a natural number from a place among them on. -/
def back (n : Nat) {place : Nat} (h : place < (Decimal.ofNat n).length) : Digits where
  text := (Decimal.ofNat n).drop place
  ne_nil nil := Nat.not_le.2 h (List.drop_eq_nil_iff.1 nil)
  digit _ mem := Decimal.isDigit_of_mem_ofNat (List.mem_of_mem_drop mem)

end Digits

/-! ### Writing a decimal -/

/-- A written number that has this sign and spells this decimal, and is no integer. -/
structure Number.Writes (n : Number) (negative : Bool) (d : Decimal10) : Prop where
  sign : n.negative = negative
  fraction : n.numeral.whole = false
  decimal : n.numeral.decimal = d

/-- A number with as many decimals as the decimal has, and with its digits. -/
theorem Number.writes_of_digits {negative : Bool} {d : Decimal10} {integral decimals : Digits}
    (leading : ∀ c more, integral.text ≠ '0' :: c :: more)
    (digits : Nat.ofDigitChars 10 (integral.text ++ decimals.text) 0 = d.significand)
    (places : (decimals.text.length : Int) = -d.exponent) :
    Number.Writes ⟨negative, integral, leading, some decimals, none⟩ negative d := by
  have fraction : decimals.text.isEmpty = false := Bool.eq_false_iff.2 decimals.isEmpty
  have exponent : 0 - (decimals.text.length : Int) = d.exponent := by omega
  refine ⟨rfl, by rw [Numeral.whole]; exact (Bool.and_true _).trans fraction, ?_⟩
  show Decimal10.mk (Nat.ofDigitChars 10 (integral.text ++ decimals.text) 0) (0 - (decimals.text.length : Int)) = _
  rw [digits, exponent]

/-- How a sign is written. -/
def signText (negative : Bool) : Text := if negative then ['-'] else []

/-- The decimal that positional notation spells: a whole number has one digit more, a zero behind the point. -/
def pointed (d : Decimal10) : Decimal10 :=
  if d.exponent < 0 then d else ⟨10 ^ (d.exponent.toNat + 1) * d.significand, -1⟩

theorem pointed_of_neg {d : Decimal10} (h : d.exponent < 0) : pointed d = d := if_pos h

theorem pointed_of_nonneg {d : Decimal10} (h : 0 ≤ d.exponent) :
    pointed d = ⟨10 ^ (d.exponent.toNat + 1) * d.significand, -1⟩ := if_neg (Int.not_lt.2 h)

theorem exponent_pointed (d : Decimal10) : (pointed d).exponent < 0 := by
  rcases Int.lt_or_le d.exponent 0 with small | large
  · rwa [pointed_of_neg small]
  · rw [pointed_of_nonneg large]
    exact (show (-1 : Int) < 0 by decide)

theorem value_pointed (d : Decimal10) : (pointed d).value = d.value := by
  rcases Int.lt_or_le d.exponent 0 with small | large
  · rw [pointed_of_neg small]
  · have ten : (10 : ℚ) ≠ 0 := by norm_num
    have exponent : ((d.exponent.toNat + 1 : Nat) : Int) + -1 = d.exponent := by omega
    rw [pointed_of_nonneg large, Decimal10.value, Decimal10.value, Nat.cast_mul, Nat.cast_pow,
      mul_comm (_ ^ _ : ℚ), mul_assoc, ← zpow_natCast, Nat.cast_ofNat, ← zpow_add₀ ten, exponent]

section Layouts

variable (negative : Bool) {d : Decimal10}

/-- Digits, zeros behind them up to the point, and one more. -/
theorem exists_number_shifted (zero : d.significand = 0 → d.exponent = 0) (h : 0 ≤ d.exponent) :
    ∃ n : Number, n.text = signText negative ++ d.positionalPoint ∧ n.Writes negative (pointed d) := by
  have leading : ∀ c more, (Digits.shifted d.significand d.exponent.toNat).text ≠ '0' :: c :: more := by
    intro c more
    by_cases nothing : d.significand = 0
    · show Decimal.ofNat d.significand ++ List.replicate d.exponent.toNat '0' ≠ _
      rw [nothing, zero nothing]
      exact nofun
    · exact ofNat_append_ne nothing _ _
  have digits : Nat.ofDigitChars 10 ((Digits.shifted d.significand d.exponent.toNat).text ++ (Digits.ofNat 0).text) 0 =
      10 ^ (d.exponent.toNat + 1) * d.significand := by
    rw [← ofDigitChars_shifted, List.replicate_succ', ← List.append_assoc]
    rfl
  refine ⟨⟨negative, .shifted d.significand d.exponent.toNat, leading, some (.ofNat 0), none⟩, ?_,
    pointed_of_nonneg h ▸ Number.writes_of_digits leading digits rfl⟩
  have places : (-d.exponent).toNat = 0 := by omega
  rw [Decimal10.positionalPoint, if_neg (Int.not_lt.2 h), Decimal10.positional, if_pos places]
  rfl

/-- The point among the digits. -/
theorem exists_number_split (h : d.exponent < 0) (inside : (-d.exponent).toNat < d.digits.length) :
    ∃ n : Number, n.text = signText negative ++ d.positionalPoint ∧ n.Writes negative (pointed d) := by
  have nonzero : (-d.exponent).toNat ≠ 0 := by omega
  have first : 0 < d.digits.length - (-d.exponent).toNat := by omega
  have last : d.digits.length - (-d.exponent).toNat < (Decimal.ofNat d.significand).length := by
    show _ < d.digits.length
    omega
  have whole : (Digits.front d.significand first).text ++ (Digits.back d.significand last).text =
      Decimal.ofNat d.significand := List.take_append_drop _ _
  have leading : ∀ c more, (Digits.front d.significand first).text ≠ '0' :: c :: more := by
    intro c more shape
    rw [shape] at whole
    exact Decimal.ofNat_ne_leading_zero _ _ _ whole.symm
  have digits : Nat.ofDigitChars 10
      ((Digits.front d.significand first).text ++ (Digits.back d.significand last).text) 0 = d.significand := by
    rw [whole]
    exact Nat.ofDigitChars_ten_toDigits
  have places : ((Digits.back d.significand last).text.length : Int) = -d.exponent := by
    show ((d.digits.drop (d.digits.length - (-d.exponent).toNat)).length : Int) = -d.exponent
    rw [List.length_drop]
    omega
  rw [pointed_of_neg h]
  refine ⟨_, ?_, Number.writes_of_digits leading digits places⟩
  rw [Decimal10.positionalPoint, if_pos h, Decimal10.positional, if_neg nonzero, if_pos inside]
  show signText negative ++ (d.digits.take _ ++ (('.' :: d.digits.drop _) ++ [])) = _
  rw [List.append_nil]

/-- Zeros behind the point, and digits behind them. -/
theorem exists_number_padded (h : d.exponent < 0) (outside : d.digits.length ≤ (-d.exponent).toNat) :
    ∃ n : Number, n.text = signText negative ++ d.positionalPoint ∧ n.Writes negative (pointed d) := by
  have nonzero : (-d.exponent).toNat ≠ 0 := by omega
  have leading : ∀ c more, (Digits.ofNat 0).text ≠ '0' :: c :: more := nofun
  have digits : Nat.ofDigitChars 10 ((Digits.ofNat 0).text ++
      (Digits.padded ((-d.exponent).toNat - d.digits.length) d.significand).text) 0 = d.significand :=
    ofDigitChars_padded d.significand ((-d.exponent).toNat - d.digits.length + 1)
  have places : ((Digits.padded ((-d.exponent).toNat - d.digits.length) d.significand).text.length : Int) =
      -d.exponent := by
    show ((List.replicate ((-d.exponent).toNat - d.digits.length) '0' ++ d.digits).length : Int) = _
    rw [List.length_append, List.length_replicate]
    omega
  rw [pointed_of_neg h]
  refine ⟨_, ?_, Number.writes_of_digits leading digits places⟩
  rw [Decimal10.positionalPoint, if_pos h, Decimal10.positional, if_neg nonzero, if_neg (Nat.not_lt.2 outside)]
  show signText negative ++ (['0'] ++ (('.' :: (List.replicate _ '0' ++ d.digits)) ++ [])) = _
  rw [List.append_nil]
  rfl

/-- **A decimal with a point is a written number**, if zero is written as no more than that. -/
theorem exists_number_positionalPoint (zero : d.significand = 0 → d.exponent = 0) :
    ∃ n : Number, n.text = signText negative ++ d.positionalPoint ∧ n.Writes negative (pointed d) := by
  rcases Int.lt_or_le d.exponent 0 with small | large
  · rcases Nat.lt_or_ge (-d.exponent).toNat d.digits.length with inside | outside
    · exact exists_number_split negative small inside
    · exact exists_number_padded negative small outside
  · exact exists_number_shifted negative zero large

end Layouts

/-- The power of ten that is written for an exponent. -/
def TenPower.ofInt (e : Int) : TenPower := ⟨false, some (decide (e < 0)), .ofNat e.natAbs⟩

theorem TenPower.text_ofInt (e : Int) : (ofInt e).text = exponentMark e := by
  show 'e' :: ((ofInt e).signText ++ Decimal.ofNat e.natAbs) = _
  rw [exponentMark]
  cases e with
  | ofNat n => rfl
  | negSucc n =>
    rw [if_pos (Int.negSucc_lt_zero n), ofInt, decide_eq_true (Int.negSucc_lt_zero n)]
    rfl

theorem TenPower.value_ofInt (e : Int) : (ofInt e).value = e := signed_ofDigitChars e

/-- **A decimal with a power of ten is a written number.** -/
theorem exists_number_scientific (negative : Bool) (d : Decimal10) :
    ∃ n : Number, n.text = signText negative ++ d.scientific exponentMark ∧ n.Writes negative d := by
  obtain ⟨digit, rest, shape, isDigit⟩ := Decimal.ofNat_eq_cons d.significand
  have digits : d.digits = digit :: rest := shape
  have significand : Nat.ofDigitChars 10 (digit :: rest) 0 = d.significand := by
    rw [← shape]
    exact Nat.ofDigitChars_ten_toDigits
  have exponent : d.leadingExponent - (rest.length : Int) = d.exponent := by
    rw [Decimal10.leadingExponent, digits, List.length_cons]
    omega
  let first : Digits := ⟨[digit], List.cons_ne_nil _ _, fun c h => by rw [List.mem_singleton.1 h]; exact isDigit⟩
  have leading : ∀ c more, first.text ≠ '0' :: c :: more := nofun
  rw [Decimal10.scientific, digits]
  cases rest with
  | nil =>
    refine ⟨⟨negative, first, leading, none, some (.ofInt d.leadingExponent)⟩, ?_, rfl, rfl, ?_⟩
    · show signText negative ++ ([digit] ++ ([] ++ (TenPower.ofInt d.leadingExponent).text)) = _
      rw [TenPower.text_ofInt]
      rfl
    · show Decimal10.mk (Nat.ofDigitChars 10 [digit] 0)
        ((TenPower.ofInt d.leadingExponent).value - (([] : Text).length : Int)) = _
      rw [TenPower.value_ofInt, significand, exponent]
  | cons next more =>
    let others : Digits := ⟨next :: more, List.cons_ne_nil _ _,
      fun c h => Decimal.isDigit_of_mem_ofNat (shape ▸ List.mem_cons_of_mem _ h)⟩
    refine ⟨⟨negative, first, leading, some others, some (.ofInt d.leadingExponent)⟩, ?_,
      rfl, rfl, ?_⟩
    · show signText negative ++ ([digit] ++ (('.' :: next :: more) ++ (TenPower.ofInt d.leadingExponent).text)) = _
      rw [TenPower.text_ofInt]
      rfl
    · show Decimal10.mk (Nat.ofDigitChars 10 (digit :: next :: more) 0)
        ((TenPower.ofInt d.leadingExponent).value - ((next :: more).length : Int)) = _
      rw [TenPower.value_ofInt, significand, exponent]

/-! ### Finite values -/

variable {p : Precision} {a : Binary p}

/-- The exponent of a value is small enough for positional notation. -/
def isPlain (a : Binary p) : Bool :=
  a.isZero || ((plainExponents p).1 ≤ (p.shortest .even a.magnitude).leadingExponent &&
    (p.shortest .even a.magnitude).leadingExponent ≤ (plainExponents p).2)

/-- The decimal that is written for a finite value: the shortest one, as positional notation spells it or with its
own digits. -/
def writtenDecimal (a : Binary p) : Decimal10 :=
  if isPlain a then pointed (p.shortest .even a.magnitude) else p.shortest .even a.magnitude

/-- What is used of it: there are not many digits before the point. -/
def Writable (p : Precision) (magnitude : Nat) (d : Decimal10) : Prop :=
  d = p.shortest .even magnitude ∨
    d = pointed (p.shortest .even magnitude) ∧ (p.shortest .even magnitude).leadingExponent ≤ (plainExponents p).2

theorem writable_writtenDecimal (a : Binary p) : Writable p a.magnitude (writtenDecimal a) := by
  unfold writtenDecimal
  cases plain : isPlain a with
  | false => exact .inl rfl
  | true =>
    refine .inr ⟨rfl, ?_⟩
    rcases (Bool.or_eq_true _ _).mp plain with none | between
    · have nothing : p.shortest .even a.magnitude = ⟨0, 0⟩ := by
        rw [beq_iff_eq.1 none]
        rfl
      rw [nothing]
      cases p <;> decide
    · exact of_decide_eq_true ((Bool.and_eq_true _ _).mp between).2

theorem Writable.value_eq {m : Nat} {d : Decimal10} (h : Writable p m d) : d.value = (p.shortest .even m).value := by
  rcases h with rfl | ⟨rfl, -⟩
  · rfl
  · exact value_pointed _

/-- **The text of a finite value is a written number.** -/
theorem exists_number_realText (a : Binary p) :
    ∃ n : Number, n.text = realText a ∧ n.Writes a.negative (writtenDecimal a) := by
  have zero : (p.shortest .even a.magnitude).significand = 0 → (p.shortest .even a.magnitude).exponent = 0 := by
    intro nothing
    rw [Precision.significand_shortest nothing]
  unfold writtenDecimal
  cases plain : isPlain a with
  | true =>
    obtain ⟨n, text, writes⟩ := exists_number_positionalPoint a.negative zero
    exact ⟨n, text.trans (congrArg (signText a.negative ++ ·) (if_pos plain)).symm, writes⟩
  | false =>
    obtain ⟨n, text, writes⟩ := exists_number_scientific a.negative (p.shortest .even a.magnitude)
    exact ⟨n, text.trans (congrArg (signText a.negative ++ ·) (if_neg (Bool.eq_false_iff.1 plain))).symm, writes⟩

/-- A number that is no integer stands for what the reader of decimals finds. -/
theorem scalar_of_fraction (reals : RealReader) {n : Number} (h : n.numeral.whole = false) :
    (Value.number n).scalar reals (.float p) = (reals p n.numeral).elim (.error .numberOutOfRange) .ok := by
  have read := readReal_number reals p n endsNumber_nil
  rw [Numeral.real?_of_fraction reals h, List.append_nil] at read
  refine scalar_of_read (read.trans ?_)
  cases reals p n.numeral <;> rfl

/-- **The text of a finite value is read back as that value**, if its decimal is rounded once. -/
theorem scalar_once {n : Number} {d : Decimal10} (finite : a.magnitude < p.infinity) (h : n.Writes a.negative d)
    (writable : Writable p a.magnitude d) : (Value.number n).scalar .once (.float p) = .ok a := by
  have rounds := p.rounds_shortest .even a.magnitude
  rw [← writable.value_eq, ← h.decimal] at rounds
  rw [scalar_of_fraction .once h.fraction, RealReader.once, Numeral.nearest?_eq_some h.sign finite rounds]
  rfl

end Json

end Dimensional
