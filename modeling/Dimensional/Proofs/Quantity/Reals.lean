import Dimensional.Proofs.Binary.FewestDigits
import Dimensional.Proofs.Json.DoubleReals
import Dimensional.Proofs.Json.SingleReals
import Dimensional.Proofs.Quantity.Tagged

/-!
# Real quantities in JSON and back

A finite real quantity is written with the fewest digits that round to it.  A reader that rounds once gives it
back bit by bit, from both forms.  The reader that stays in double precision does so for every quantity of single
precision, and for those of double precision whose digits and power of ten are exact; the others come back near to
where they were, and not always there.  What is not finite is written as `null`, which is read as nothing.

* `exists_content` — what is written for a finite scalar is a number;
* `ReadBack`, `readBack_of_numeral` — what both forms are read back as is up to the reader of that number;
* `scalar_null` — what is written for any other scalar stands for nothing;
* `reals_survive` — one rounding loses nothing;
* `reals_stepwise` — what is left of real quantities if each step rounds.
-/

namespace Dimensional.Wire

open Json

variable {d : Dimension} {k : ScalarKind} {p : Precision} {reals : RealReader}

/-- The scalar is a finite value. -/
def IsFinite (q : Quantity d (.float p)) : Prop :=
  Binary.isNaN q.value = false ∧ Binary.isInfinite q.value = false

instance (q : Quantity d (.float p)) : Decidable (IsFinite q) := inferInstanceAs (Decidable (_ ∧ _))

theorem isFinite_iff {q : Quantity d (.float p)} : IsFinite q ↔ Binary.magnitude q.value < p.infinity := by
  rw [IsFinite, Binary.isNaN, Binary.isInfinite, decide_eq_false_iff_not, beq_eq_false_iff_ne]
  omega

theorem write_of_finite {q : Quantity d (.float p)} (h : IsFinite q) : write q = realText q.value := by
  show (if (Binary.isNaN q.value || Binary.isInfinite q.value) = true then _ else _) = _
  rw [h.1, h.2]
  rfl

theorem write_of_not_finite {q : Quantity d (.float p)} (h : ¬ IsFinite q) : write q = "null".toList := by
  show (if (Binary.isNaN q.value || Binary.isInfinite q.value) = true then _ else _) = _
  refine if_pos ?_
  rw [Bool.or_eq_true]
  by_contra neither
  simp only [not_or, Bool.not_eq_true] at neither
  exact h neither

/-! ### Both forms -/

/-- Both forms of a quantity are read as a scalar: the bare one under every dimension, the tagged one under those
with the same exponents. -/
structure ReadBack (reals : RealReader) (q : Quantity d k) (a : Scalar k) : Prop where
  bare : ∀ d' : Dimension, read reals d' k (write q) = .ok ⟨a⟩
  tagged : ∀ d' : Dimension, d.Same d' → readTagged reals d' k (writeTagged q) = .ok ⟨a⟩

/-- Neither form is read as a quantity, whatever the dimension. -/
structure Refused (reals : RealReader) (q : Quantity d k) (error : Error) : Prop where
  bare : ∀ d' : Dimension, read reals d' k (write q) = .error error
  tagged : ∀ d' : Dimension, readTagged reals d' k (writeTagged q) = .error error

section

variable {q : Quantity d k} {content : Value}

/-- What a content stands for is read back, since both forms are documents with that content. -/
theorem readBack_of_scalar (he : ∀ axis, IntKind.i32.Holds (d.exponents.get axis)) (text : content.text = write q)
    {a : Scalar k} (scalar : content.scalar reals k = .ok a) : ReadBack reals q a where
  bare d' := by
    rw [← text]
    exact read_text_eq_ok.2 scalar
  tagged d' same := (readTagged_tagged text (Exponents.powers_ofPowers he) _).2 ⟨same, scalar⟩

end

/-! ### Finite scalars -/

/-- What is written for a finite scalar is a number, and spells a decimal with the value of its shortest one. -/
theorem exists_content {q : Quantity d (.float p)} (h : IsFinite q) :
    ∃ n : Number, n.text = write q ∧ n.Writes (Binary.negative q.value) (writtenDecimal q.value) := by
  obtain ⟨n, text, writes⟩ := exists_number_realText q.value
  exact ⟨n, text.trans (write_of_finite h).symm, writes⟩

/-- **What both forms are read back as** is what the reader of decimals finds for that number. -/
theorem readBack_of_numeral {q : Quantity d (.float p)} {n : Number} {a : Binary p} {negative : Bool}
    {decimal : Decimal10} (he : ∀ axis, IntKind.i32.Holds (d.exponents.get axis)) (text : n.text = write q)
    (writes : n.Writes negative decimal) (found : reals p n.numeral = some a) : ReadBack reals q a := by
  have content : (Value.number n).text = write q := text
  refine readBack_of_scalar he content ?_
  rw [scalar_of_fraction reals writes.fraction, found]
  rfl

/-! ### Other scalars -/

/-- No scalar is read from `null`. -/
theorem scalar_null (reals : RealReader) (p : Precision) :
    Value.null.scalar reals (.float p) = .error (.wrongType .null (.scalar p.name)) := rfl

/-- Whatever the reader, nothing is read from either form of what is not finite. -/
theorem refused_of_not_finite {q : Quantity d (.float p)} (he : ∀ axis, IntKind.i32.Holds (d.exponents.get axis))
    (h : ¬ IsFinite q) : Refused reals q (.wrongType .null (.scalar p.name)) where
  bare d' := by
    rw [write_of_not_finite h]
    rfl
  tagged d' := by
    have content : Value.null.text = write q := (write_of_not_finite h).symm
    exact readTagged_of_error content (Exponents.powers_ofPowers he) (scalar_null reals p)

/-! ### There and back -/

/-- **One rounding loses nothing**: a finite quantity is read back with the pattern that it had. -/
theorem reals_survive {q : Quantity d (.float p)} (he : ∀ axis, IntKind.i32.Holds (d.exponents.get axis))
    (h : IsFinite q) : ReadBack .once q q.value := by
  obtain ⟨n, text, writes⟩ := exists_content h
  have content : (Value.number n).text = write q := text
  exact readBack_of_scalar he content (scalar_once (isFinite_iff.1 h) writes (writable_writtenDecimal q.value))

/-- **Real quantities, read in steps.**  A finite one is written with the fewest digits that round to it.  Both forms
of it are read back: with the pattern that it had in single precision; in double precision with its sign, and off by
no more than a few roundings, or not at all where its digits and their power of ten are exact.  One that is not finite
is written as `null`, and no number is read from either form. -/
theorem reals_stepwise (d : Dimension) (he : ∀ axis, IntKind.i32.Holds (d.exponents.get axis)) :
    (∀ (p : Precision) (q : Quantity d (.float p)), IsFinite q →
      ∃ (n : Number) (shortest : Decimal10), n.text = write q ∧
        n.Writes (Binary.negative q.value) (writtenDecimal q.value) ∧
        (writtenDecimal q.value).value = shortest.value ∧ p.IsShortest (Binary.magnitude q.value) shortest) ∧
    (∀ q : Quantity d (.float .single), IsFinite q → ReadBack .stepwise q q.value) ∧
    (∀ q : Quantity d (.float .double), IsFinite q → ∃ a, ReadBack .stepwise q a ∧ Near q.value a) ∧
    (∀ q : Quantity d (.float .double), IsFinite q →
      (writtenDecimal q.value).significand ≤ 2 ^ 53 → (writtenDecimal q.value).exponent.natAbs ≤ 22 →
      ReadBack .stepwise q q.value) ∧
    (∀ (p : Precision) (q : Quantity d (.float p)), ¬ IsFinite q →
      write q = "null".toList ∧
      writeTagged q = openBrace :: (memberText .value "null".toList ++
        ',' :: (memberText .exponents (exponentsText d.exponents) ++ [closeBrace])) ∧
      Refused .stepwise q (.wrongType .null (.scalar p.name))) := by
  refine ⟨fun p q finite => ?_, fun q finite => ?_, fun q finite => ?_, fun q finite few short => ?_,
    fun p q other => ⟨write_of_not_finite other, ?_, refused_of_not_finite he other⟩⟩
  · obtain ⟨n, text, writes⟩ := exists_content finite
    exact ⟨n, _, text, writes, (writable_writtenDecimal q.value).value_eq, p.isShortest_shortest _ _⟩
  · obtain ⟨n, text, writes⟩ := exists_content finite
    have writable := writes.decimal.symm ▸ writable_writtenDecimal q.value
    exact readBack_of_numeral he text writes (stepwise_single (isFinite_iff.1 finite) writable writes.sign)
  · obtain ⟨n, text, writes⟩ := exists_content finite
    have writable := writes.decimal.symm ▸ writable_writtenDecimal q.value
    obtain ⟨a, found, near⟩ := stepwise_double (isFinite_iff.1 finite) writable writes.sign
    exact ⟨a, readBack_of_numeral he text writes found, near⟩
  · obtain ⟨n, text, writes⟩ := exists_content finite
    have writable := writes.decimal.symm ▸ writable_writtenDecimal q.value
    rw [← writes.decimal] at few short
    exact readBack_of_numeral he text writes
      (stepwise_double_exact (isFinite_iff.1 finite) writable writes.sign few short)
  · rw [writeTagged, write_of_not_finite other]

/-- The value next below zero in single precision, a tenth and 1e-23 in double precision, and infinity. -/
theorem reals_stepwise_extremes :
    let small : Quantity Catalogue.speed (.float .single) := ⟨⟨true, 1, by decide⟩⟩
    let tenth : Quantity Catalogue.speed (.float .double) := ⟨⟨false, 0x3fb999999999999a, by decide⟩⟩
    let rough : Quantity Catalogue.speed (.float .double) := ⟨⟨false, 0x3b282db34012b251, by decide⟩⟩
    let infinite : Quantity Catalogue.speed (.float .double) := ⟨Binary.signedInfinity false⟩
    (∀ axis, IntKind.i32.Holds (Catalogue.speed.exponents.get axis)) ∧
      (IsFinite small ∧ write small = "-1e-45".toList ∧ ReadBack .stepwise small small.value) ∧
      (IsFinite tenth ∧ write tenth = "0.1".toList ∧ ReadBack .stepwise tenth tenth.value) ∧
      (IsFinite rough ∧ write rough = "1e-23".toList ∧ ∃ a, ReadBack .stepwise rough a ∧ Near rough.value a) ∧
      (¬ IsFinite infinite ∧ write infinite = "null".toList ∧
        Refused .stepwise infinite (.wrongType .null (.scalar "f64"))) := by
  intro small tenth rough infinite
  have hspeed : ∀ axis, IntKind.i32.Holds (Catalogue.speed.exponents.get axis) := by
    intro axis
    cases axis <;> decide
  have hsmall : IsFinite small := by decide
  have htenth : IsFinite tenth := by decide
  have hrough : IsFinite rough := by decide
  have hinfinite : ¬ IsFinite infinite := by decide
  obtain ⟨-, single, double, exact, other⟩ := reals_stepwise Catalogue.speed hspeed
  obtain ⟨hwrite, -, hrefused⟩ := other .double infinite hinfinite
  exact ⟨hspeed, ⟨hsmall, by decide +kernel, single small hsmall⟩,
    ⟨htenth, by decide +kernel, exact tenth htenth (by decide +kernel) (by decide +kernel)⟩,
    ⟨hrough, by decide +kernel, double rough hrough⟩, hinfinite, hwrite, hrefused⟩

/-- 1e-23 does not come back as it was: the power of ten that it is divided by is rounded, and so is the quotient.
Nor is a decimal in front of the least normal value read as the value that is nearest to it. -/
theorem stepwise_loses :
    let rough : Quantity Catalogue.speed (.float .double) := ⟨⟨false, 0x3b282db34012b251, by decide⟩⟩
    let next : Quantity Catalogue.speed (.float .double) := ⟨⟨false, 0x3b282db34012b252, by decide⟩⟩
    IsFinite rough ∧ write rough = "1e-23".toList ∧
      read .stepwise Catalogue.speed (.float .double) (write rough) = .ok next ∧
      readTagged .stepwise Catalogue.speed (.float .double) (writeTagged rough) = .ok next ∧
      ¬ ReadBack .stepwise rough rough.value ∧
      read .once Catalogue.speed (.float .double) "2.2250738585072011e-308".toList =
        .ok ⟨⟨false, 0x000fffffffffffff, by decide⟩⟩ ∧
      read .stepwise Catalogue.speed (.float .double) "2.2250738585072011e-308".toList =
        .ok ⟨⟨false, 0x0010000000000000, by decide⟩⟩ := by
  intro rough next
  have text : write rough = "1e-23".toList := by decide +kernel
  have bare : read .stepwise Catalogue.speed (.float .double) (write rough) = .ok next := by
    rw [text]
    decide +kernel
  have tagged : readTagged .stepwise Catalogue.speed (.float .double) (writeTagged rough) = .ok next := by
    rw [writeTagged, text]
    decide +kernel
  refine ⟨by decide, text, bare, tagged, fun same => ?_, by decide +kernel, by decide +kernel⟩
  have equal := Except.ok.inj (bare.symm.trans (same.bare Catalogue.speed))
  exact absurd equal (by decide)

end Dimensional.Wire
