import Dimensional.Proofs.Exponents.Grammar
import Dimensional.Proofs.Integer.Bytes
import Mathlib.Data.List.TFAE

/-!
# Equality of exponent vectors

Vectors are compared in many ways: axis by axis, by what is hashed, by what is printed, by the quotient, or by
a check that they match.  All of these ask the same question.

* `flatMap_inj_of_length` — blocks of one length are told apart in a row;
* `Exponents.hashBytes_injective` — equal bytes are hashed for equal vectors only;
* `Exponents.isDimensionless_of_divide` — a quotient is dimensionless exactly for equal vectors;
* `Exponents.ensureMatches_of_ne` — unequal vectors do not match, and the error names both in order;
* `Exponents.equalities_agree` — all of this together.
-/

namespace Dimensional

/-- Blocks of one length are told apart in a row. -/
theorem flatMap_inj_of_length {α β : Type} {f : α → List β} {n : Nat} (block : ∀ a, (f a).length = n)
    (inj : ∀ a b, f a = f b → a = b) :
    ∀ {as bs : List α}, as.length = bs.length → as.flatMap f = bs.flatMap f → as = bs := by
  intro as
  induction as with
  | nil =>
    intro bs length _
    exact (List.length_eq_zero_iff.1 length.symm).symm
  | cons a as ih =>
    intro bs length h
    obtain _ | ⟨b, bs⟩ := bs
    · exact nomatch length
    · rw [List.flatMap_cons, List.flatMap_cons] at h
      obtain ⟨first, rest⟩ := List.append_inj h ((block a).trans (block b).symm)
      rw [inj a b first, ih (Nat.succ.inj length) rest]

namespace Exponents

theorem toList_length (e : Exponents) : e.toList.length = 8 := rfl

theorem toList_injective {e f : Exponents} (h : e.toList = f.toList) : e = f :=
  Option.some.inj (by rw [← PerAxis.ofList?_toList e, h, PerAxis.ofList?_toList])

/-- **Equal bytes are hashed for equal vectors only.** -/
theorem hashBytes_injective {e f : Exponents} (h : e.hashBytes = f.hashBytes) : e = f := by
  have counts : (Fixed.bytesOf 8 e.toList.length).length = (Fixed.bytesOf 8 f.toList.length).length := by
    rw [Fixed.bytesOf_length, Fixed.bytesOf_length]
  have exponents : e.toList.flatMap Fixed.littleEndian = f.toList.flatMap Fixed.littleEndian :=
    (List.append_inj h counts).2
  exact toList_injective (flatMap_inj_of_length Fixed.littleEndian_length
    (fun _ _ => Fixed.littleEndian_injective) (by rw [toList_length, toList_length]) exponents)

/-! ### Quotients -/

theorem isDimensionless_iff {e : Exponents} : e.isDimensionless = true ↔ ∀ axis, (e.get axis).toInt = 0 := by
  have none (axis : Axis) : (one.get axis).toInt = 0 := by
    rw [one, PerAxis.get_const]
    rfl
  rw [isDimensionless, equals_iff]
  constructor
  · rintro rfl
    exact none
  · intro h
    exact ext_toInt fun axis => by rw [h axis, none axis]

/-- **A quotient is dimensionless exactly for equal vectors.** -/
theorem isDimensionless_of_divide {e f r : Exponents} (h : e.divide f = .ok r) :
    r.isDimensionless = true ↔ e = f := by
  rw [isDimensionless_iff]
  constructor
  · intro none
    refine ext_toInt fun axis => ?_
    have difference := get_divide h axis
    rw [none axis] at difference
    omega
  · rintro rfl axis
    rw [get_divide h, Int.sub_self]

/-- A vector over itself does not overflow. -/
theorem divide_self (e : Exponents) : e.divide e = .ok one :=
  divide_eq_ok.2 fun axis => by
    rw [Int.sub_self, one, PerAxis.get_const]
    rfl

/-- Two vectors are equal exactly if there is a quotient and it is dimensionless. -/
theorem exists_divide_iff {e f : Exponents} :
    (∃ r, e.divide f = .ok r ∧ r.isDimensionless = true) ↔ e = f := by
  constructor
  · rintro ⟨r, hr, none⟩
    exact (isDimensionless_of_divide hr).1 none
  · rintro rfl
    exact ⟨one, divide_self e, (isDimensionless_of_divide (divide_self e)).2 rfl⟩

/-! ### The check -/

theorem ensureMatches_self (e : Exponents) : e.ensureMatches e = .ok () := by
  rw [ensureMatches, Exponents.ensure, if_pos (Powers.equals_iff.2 rfl)]

/-- **Unequal vectors do not match**, and the error names both, the expected one first. -/
theorem ensureMatches_of_ne {e f : Exponents} (h : e ≠ f) :
    e.ensureMatches f = .error (.mismatch e.powers f.powers) := by
  have differ : ¬ e.powers.equals f.powers = true := fun same => h (powers_injective (Powers.equals_iff.1 same))
  rw [ensureMatches, Exponents.ensure, if_neg differ]

theorem ensureMatches_eq_ok {e f : Exponents} : e.ensureMatches f = .ok () ↔ e = f := by
  constructor
  · intro ok
    by_contra differ
    rw [ensureMatches_of_ne differ] at ok
    exact nomatch ok
  · rintro rfl
    exact ensureMatches_self e

/-! ### All together -/

/-- **All ways to compare two vectors agree**: by the test on all axes, as values, by the bytes that are hashed,
by the check that they match, by what is printed, by the exponents on each axis, and by a quotient that is
dimensionless.  That quotient does not overflow for equal vectors; for unequal ones it may, and is never
dimensionless.  The check then names both, the expected one first. -/
theorem equalities_agree (a b : Exponents) :
    [a = b,
      a.equals b = true,
      (a == b) = true,
      a.hashBytes = b.hashBytes,
      a.ensureMatches b = .ok (),
      a.text = b.text,
      ∀ axis, a.get axis = b.get axis,
      ∃ r, a.divide b = .ok r ∧ r.isDimensionless = true].TFAE ∧
    (∀ r, a.divide b = .ok r → (r.isDimensionless = true ↔ a = b)) ∧
    (a ≠ b → a.ensureMatches b = .error (.mismatch a.powers b.powers)) := by
  refine ⟨List.tfae_of_forall (a = b) _ ?_, fun r => isDimensionless_of_divide, ensureMatches_of_ne⟩
  simp only [List.forall_mem_cons, List.not_mem_nil, false_implies, implies_true, and_true, true_and]
  exact ⟨equals_iff, beq_iff_eq, ⟨hashBytes_injective, congrArg hashBytes⟩, ensureMatches_eq_ok,
    ⟨text_injective, congrArg text⟩, ⟨PerAxis.ext_get, fun h axis => congrArg (PerAxis.get · axis) h⟩,
    exists_divide_iff⟩

/-- Powers of a length that differ in sign have a quotient, and it is not dimensionless. -/
theorem equalities_agree_length :
    let area : Exponents := one.set .length ⟨2, by decide, by decide⟩
    let perArea : Exponents := one.set .length ⟨-2, by decide, by decide⟩
    let quotient : Exponents := one.set .length ⟨4, by decide, by decide⟩
    area.divide perArea = .ok quotient ∧ quotient.isDimensionless = false ∧ area.text ≠ perArea.text ∧
      area.ensureMatches perArea = .error (.mismatch area.powers perArea.powers) := by
  intro area perArea quotient
  obtain ⟨agree, hquotient, hmismatch⟩ := equalities_agree area perArea
  have differ : area ≠ perArea := by decide
  have hdivide : area.divide perArea = .ok quotient := by decide
  exact ⟨hdivide, Bool.eq_false_iff.2 fun none => differ ((hquotient _ hdivide).1 none),
    fun same => differ ((agree.out 5 0).1 same), hmismatch differ⟩

end Exponents

end Dimensional
