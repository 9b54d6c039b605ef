import Dimensional.Proofs.Json.Document
import Mathlib.Data.List.TakeDrop

/-!
# Written numbers are read in place

A written number is read as what its parts say, whatever follows it that does not continue a number.

* `Number.read_text` — a number is read as its numeral;
* `readShortInteger_number`, `readLongInteger_number`, `readReal_number` — and so are the scalars that are
  made of it.
-/

namespace Dimensional.Json

/-! ### Ends and beginnings -/

/-- Nothing here continues a number. -/
def EndsNumber (rest : Text) : Prop :=
  ∀ c more, rest = c :: more → c.isDigit = false ∧ c ≠ '.' ∧ c ≠ 'e' ∧ c ≠ 'E'

theorem endsNumber_nil : EndsNumber [] := by
  intro c more h
  cases h

theorem endsNumber_cons {c : Char} (rest : Text)
    (h : c.isDigit = false ∧ c ≠ '.' ∧ c ≠ 'e' ∧ c ≠ 'E') : EndsNumber (c :: rest) := by
  intro d more same
  cases same
  exact h

theorem EndsNumber.notDigit {rest : Text} (h : EndsNumber rest) :
    ∀ c more, rest = c :: more → c.isDigit = false :=
  fun c more hrest => (h c more hrest).1

/-- Digits end where something else begins. -/
theorem span_isDigit {digits rest : Text} (hdigits : ∀ c ∈ digits, c.isDigit = true)
    (hrest : ∀ c more, rest = c :: more → c.isDigit = false) :
    (digits ++ rest).span Char.isDigit = (digits, rest) := by
  rw [List.span_eq_takeWhile_dropWhile, List.takeWhile_append_of_pos hdigits,
    List.dropWhile_append_of_pos hdigits]
  cases rest with
  | nil => rw [List.takeWhile_nil, List.dropWhile_nil, List.append_nil]
  | cons c more =>
    have hc : ¬ c.isDigit = true := by
      rw [hrest c more rfl]
      exact Bool.false_ne_true
    rw [List.takeWhile_cons_of_neg hc, List.dropWhile_cons_of_neg hc, List.append_nil]

/-- A character that a number begins with. -/
def StartsNumber (c : Char) : Prop := c = '-' ∨ c.isDigit = true

theorem ne_of_startsNumber {c d : Char} (h : StartsNumber c) (hd : d ≠ '-' ∧ d.isDigit = false) :
    c ≠ d := by
  rintro rfl
  rcases h with hdash | hdigit
  · exact hd.1 hdash
  · rw [hd.2] at hdigit
    cases hdigit

theorem notBlank_of_startsNumber {c : Char} (h : StartsNumber c) : isBlank c = false := by
  rw [Bool.eq_false_iff]
  intro hblank
  simp only [isBlank, Bool.or_eq_true, beq_iff_eq] at hblank
  rcases hblank with ((hc | hc) | hc) | hc <;> exact ne_of_startsNumber h (by decide) hc

theorem not_dash_of_isDigit {c : Char} (h : c.isDigit = true) : c ≠ '-' := by
  rintro rfl
  cases h

/-! ### Parts of a number -/

theorem sign_of_not_dash {c : Char} (h : c ≠ '-') (more : Text) :
    Numeral.sign (c :: more) = (false, c :: more) := by
  unfold Numeral.sign
  split
  · next heq => exact absurd (List.cons.inj heq).1 h
  · rfl

theorem readExponent_of_ends {rest : Text} (h : EndsNumber rest) :
    Numeral.readExponent rest = .ok (none, rest) := by
  unfold Numeral.readExponent
  split
  · next more => exact absurd rfl (h 'e' more rfl).2.2.1
  · next more => exact absurd rfl (h 'E' more rfl).2.2.2
  · rfl

theorem Digits.eq_cons (digits : Digits) : ∃ c more, digits.text = c :: more ∧ c.isDigit = true := by
  cases hshape : digits.text with
  | nil => exact absurd hshape digits.ne_nil
  | cons c more => exact ⟨c, more, rfl, digits.digit c (hshape ▸ List.mem_cons_self)⟩

theorem Digits.isEmpty (digits : Digits) : ¬ digits.text.isEmpty = true :=
  fun h => digits.ne_nil (List.isEmpty_iff.1 h)

/-- The sign and the digits of an integer say what it is. -/
theorem signed_ofDigitChars (x : Int) :
    (if decide (x < 0) = true then -(Nat.ofDigitChars 10 (Decimal.ofNat x.natAbs) 0 : Int)
      else (Nat.ofDigitChars 10 (Decimal.ofNat x.natAbs) 0 : Int)) = x := by
  have hdigits : Nat.ofDigitChars 10 (Decimal.ofNat x.natAbs) 0 = x.natAbs := Nat.ofDigitChars_ten_toDigits
  rw [hdigits]
  by_cases hnegative : x < 0
  · rw [if_pos (decide_eq_true hnegative)]
    omega
  · rw [decide_eq_false hnegative, if_neg Bool.false_ne_true]
    omega

namespace TenPower

variable (p : TenPower) {rest : Text}

/-- The exponent that is written. -/
def value : Int :=
  let size : Int := Nat.ofDigitChars 10 p.digits.text 0
  if p.negative?.getD false then -size else size

theorem exponentSign_text (rest : Text) :
    Numeral.exponentSign (p.signText ++ (p.digits.text ++ rest)) =
      (p.negative?.getD false, p.digits.text ++ rest) := by
  rw [signText]
  split
  · next hnone =>
    obtain ⟨c, more, hshape, hdigit⟩ := p.digits.eq_cons
    rw [hnone, hshape]
    show Numeral.exponentSign (c :: (more ++ rest)) = (false, c :: (more ++ rest))
    unfold Numeral.exponentSign
    split
    · next heq =>
      rw [(List.cons.inj heq).1] at hdigit
      cases hdigit
    · next heq => exact absurd (List.cons.inj heq).1 (not_dash_of_isDigit hdigit)
    · rfl
  · next hplus =>
    rw [hplus]
    rfl
  · next hminus =>
    rw [hminus]
    rfl

theorem readExponent_text (h : EndsNumber rest) :
    Numeral.readExponent (p.text ++ rest) = .ok (some p.value, rest) := by
  have hsign := p.exponentSign_text rest
  have hspan := span_isDigit p.digits.digit h.notDigit
  have htext : p.text ++ rest = (if p.capital then 'E' else 'e') :: (p.signText ++ (p.digits.text ++ rest)) := by
    rw [text, List.cons_append, List.append_assoc]
  rw [htext, value]
  cases p.capital <;>
  · simp only [Bool.false_eq_true, if_false, if_true, Numeral.readExponent, hsign, hspan]
    exact if_neg p.digits.isEmpty

end TenPower

/-! ### Numbers -/

theorem readNumeral_cons (reals : RealReader) (wanted : Wanted) {c : Char} (h : StartsNumber c) (more : Text) :
    readNumeral reals wanted (c :: more) = Numeral.read (c :: more) := by
  rw [readNumeral, skipBlanks_of_not_blank (notBlank_of_startsNumber h)]
  exact if_pos h

namespace Number

variable (n : Number) {rest : Text}

/-- The digits behind the point. -/
def decimals : Text :=
  match n.decimals? with
  | none => []
  | some digits => digits.text

/-- What the number is read as. -/
def numeral : Numeral := ⟨n.negative, n.integral.text, n.decimals, n.power?.map TenPower.value⟩

/-- The integer in front of the point. -/
def integer : Int :=
  let size : Int := Nat.ofDigitChars 10 n.integral.text 0
  if n.negative then -size else size

/-- A number is over, or goes on with its power of ten. -/
theorem head_powerText (h : EndsNumber rest) {c : Char} {more : Text}
    (hshape : n.powerText ++ rest = c :: more) : c.isDigit = false ∧ c ≠ '.' := by
  rw [powerText] at hshape
  split at hshape
  · obtain ⟨hdigit, hpoint, -⟩ := h c more hshape
    exact ⟨hdigit, hpoint⟩
  · next p _ =>
    obtain ⟨rfl, -⟩ := List.cons.inj hshape
    cases p.capital <;> decide

theorem head_decimalsText (h : EndsNumber rest) {c : Char} {more : Text}
    (hshape : n.decimalsText ++ (n.powerText ++ rest) = c :: more) : c.isDigit = false := by
  rw [decimalsText] at hshape
  split at hshape
  · exact (n.head_powerText h hshape).1
  · obtain ⟨rfl, -⟩ := List.cons.inj hshape
    rfl

theorem readDecimals_decimalsText (h : EndsNumber rest) :
    Numeral.readDecimals (n.decimalsText ++ (n.powerText ++ rest)) =
      .ok (n.decimals, n.powerText ++ rest) := by
  cases hdecimals : n.decimals? with
  | none =>
    simp only [decimalsText, decimals, hdecimals, List.nil_append]
    unfold Numeral.readDecimals
    split
    · next more hpoint => exact absurd rfl (n.head_powerText h hpoint).2
    · rfl
  | some digits =>
    have hspan := span_isDigit digits.digit fun c more hshape => (n.head_powerText h hshape).1
    simp only [decimalsText, decimals, hdecimals, List.cons_append, Numeral.readDecimals, hspan]
    exact if_neg digits.isEmpty

theorem readExponent_powerText (h : EndsNumber rest) :
    Numeral.readExponent (n.powerText ++ rest) = .ok (n.power?.map TenPower.value, rest) := by
  cases hpower : n.power? with
  | none =>
    simp only [powerText, hpower, List.nil_append]
    exact readExponent_of_ends h
  | some p =>
    simp only [powerText, hpower]
    exact p.readExponent_text h

theorem sign_text (rest : Text) :
    Numeral.sign (n.text ++ rest) =
      (n.negative, n.integral.text ++ (n.decimalsText ++ (n.powerText ++ rest))) := by
  obtain ⟨c, more, hshape, hdigit⟩ := n.integral.eq_cons
  have htext : n.text ++ rest =
      (if n.negative then ['-'] else []) ++
        (n.integral.text ++ (n.decimalsText ++ (n.powerText ++ rest))) := by
    simp only [text, List.append_assoc]
  rw [htext]
  cases n.negative with
  | true => rfl
  | false =>
    rw [hshape]
    exact sign_of_not_dash (not_dash_of_isDigit hdigit) _

theorem span_text (h : EndsNumber rest) :
    (n.integral.text ++ (n.decimalsText ++ (n.powerText ++ rest))).span Char.isDigit =
      (n.integral.text, n.decimalsText ++ (n.powerText ++ rest)) :=
  span_isDigit n.integral.digit fun _ _ hshape => n.head_decimalsText h hshape

/-- Where a number begins. -/
theorem text_eq_cons : ∃ c more, n.text = c :: more ∧ StartsNumber c := by
  obtain ⟨c, more, hshape, hdigit⟩ := n.integral.eq_cons
  rw [text, hshape]
  cases n.negative with
  | true => exact ⟨'-', _, rfl, .inl rfl⟩
  | false => exact ⟨c, _, rfl, .inr hdigit⟩

/-- A number has a sign exactly when it is negative. -/
theorem dash_iff_negative {c : Char} {more : Text} (hshape : n.text = c :: more) :
    c = '-' ↔ n.negative = true := by
  obtain ⟨d, ds, hdigits, hdigit⟩ := n.integral.eq_cons
  rw [text, hdigits] at hshape
  cases hnegative : n.negative with
  | true =>
    rw [hnegative] at hshape
    exact ⟨fun _ => rfl, fun _ => (List.cons.inj hshape).1.symm⟩
  | false =>
    rw [hnegative] at hshape
    obtain ⟨rfl, -⟩ := List.cons.inj hshape
    exact ⟨fun h => absurd h (not_dash_of_isDigit hdigit), nofun⟩

/-- **A number is read as its numeral.** -/
theorem read_text (h : EndsNumber rest) : Numeral.read (n.text ++ rest) = .ok (n.numeral, rest) := by
  unfold Numeral.read
  rw [n.sign_text]
  simp only [n.span_text h]
  split
  · next hnil => exact absurd hnil n.integral.ne_nil
  · next hzero => exact absurd hzero (n.no_leading_zero _ _)
  · rw [bind_of_ok (n.readDecimals_decimalsText h)]
    simp only [bind_of_ok (n.readExponent_powerText h)]
    rfl

theorem readNumeral_text (reals : RealReader) (wanted : Wanted) (h : EndsNumber rest) :
    readNumeral reals wanted (n.text ++ rest) = .ok (n.numeral, rest) := by
  have hread := n.read_text h
  obtain ⟨c, more, hshape, hstart⟩ := n.text_eq_cons
  rw [hshape] at hread ⊢
  exact (readNumeral_cons reals wanted hstart _).trans hread

end Number

/-! ### Scalars -/

theorem readShortInteger_number (reals : RealReader) (k : IntKind) (n : Number) {rest : Text} (h : EndsNumber rest) :
    readShortInteger reals k (n.text ++ rest) =
      ((n.numeral.found reals).bind fun found => found.toFixed k).map fun a => (a, rest) := by
  rw [readShortInteger, bind_of_ok (n.readNumeral_text reals _ h)]
  show ((n.numeral.found reals).bind fun found => (found.toFixed k).bind fun a => .ok (a, rest)) = _
  cases n.numeral.found reals with
  | error e => rfl
  | ok found =>
    show (found.toFixed k).bind _ = (found.toFixed k).map _
    cases found.toFixed k <;> rfl

theorem readReal_number (reals : RealReader) (p : Precision) (n : Number) {rest : Text} (h : EndsNumber rest) :
    readReal reals p (n.text ++ rest) =
      ((match n.numeral.real? reals p with
        | some a => .ok a
        | none => .error .numberOutOfRange : Except Error (Binary p)).map fun a => (a, rest)) := by
  rw [readReal, bind_of_ok (n.readNumeral_text reals _ h)]
  show (match n.numeral.real? reals p with | some a => _ | none => _) = _
  cases n.numeral.real? reals p <;> rfl

/-- The integer of 128 bits that a number begins with. -/
def Number.longInteger (k : IntKind) (n : Number) : Except Error (Fixed k) :=
  if n.negative = true ∧ (!k.signed) = true then .error .numberOutOfRange
  else (Fixed.ofInt? k n.integer).elim (.error .numberOutOfRange) .ok

/-- A reader of 128 bits stops behind the digits. -/
theorem readLongInteger_number (k : IntKind) (n : Number) {rest : Text} (h : EndsNumber rest) :
    readLongInteger k (n.text ++ rest) =
      (n.longInteger k).map fun a => (a, n.decimalsText ++ n.powerText ++ rest) := by
  obtain ⟨c, more, hshape, hstart⟩ := n.text_eq_cons
  have hdash := n.dash_iff_negative hshape
  have hsign := n.sign_text rest
  rw [hshape, List.cons_append] at hsign ⊢
  rw [readLongInteger, skipBlanks_of_not_blank (notBlank_of_startsNumber hstart), Number.longInteger]
  by_cases hrefused : n.negative = true ∧ (!k.signed) = true
  · rw [if_pos hrefused]
    exact if_pos ⟨hdash.2 hrefused.1, hrefused.2⟩
  · simp only [if_neg hrefused, hdash, hsign, n.span_text h]
    split
    · next hnil => exact absurd hnil n.integral.ne_nil
    · next hzero => exact absurd hzero (n.no_leading_zero _ _)
    · rw [Number.integer, List.append_assoc]
      cases Fixed.ofInt? k _ <;> rfl

end Dimensional.Json
