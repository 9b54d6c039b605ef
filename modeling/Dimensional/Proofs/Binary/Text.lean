import Dimensional.Binary.Text
import Dimensional.Proofs.Format.Field

/-!
# The texts of reals

Behind its sign the text of a finite real begins with a digit, in whatever form it is written, and the texts
of the others begin with a letter.  So the sign is all that stands before the zeros of a field.  No form breaks
a line.

* `Decimal10.beginsWithDigit_positional`, `Decimal10.beginsWithDigit_scientific`,
  `beginsWithDigit_fixedDecimals` — the three forms;
* `Binary.unsigned_body` — none of them begins with a sign;
* `Binary.pads_iff_format`, `Binary.laysOut_format` — a real is written into its field, and only its fill can
  break a line.
-/

namespace Dimensional

open Format (Spec Unsigned parted)

/-- The text begins with a digit. -/
def BeginsWithDigit (t : Text) : Prop := ∃ c rest, t = c :: rest ∧ c.isDigit = true

namespace BeginsWithDigit

variable {t : Text}

theorem ofNat (n : Nat) : BeginsWithDigit (Decimal.ofNat n) := Decimal.ofNat_eq_cons n

theorem unsigned (h : BeginsWithDigit t) : Unsigned t := by
  obtain ⟨c, rest, rfl, hc⟩ := h
  exact Format.unsigned_of_isDigit hc rest

theorem append (h : BeginsWithDigit t) (more : Text) : BeginsWithDigit (t ++ more) := by
  obtain ⟨c, rest, rfl, hc⟩ := h
  exact ⟨c, rest ++ more, rfl, hc⟩

theorem take (h : BeginsWithDigit t) {count : Nat} (hcount : 0 < count) : BeginsWithDigit (t.take count) := by
  obtain ⟨c, rest, rfl, hc⟩ := h
  obtain ⟨count, rfl⟩ := Nat.exists_eq_succ_of_ne_zero (Nat.ne_of_gt hcount)
  exact ⟨c, rest.take count, rfl, hc⟩

theorem zeros_append (h : BeginsWithDigit t) (count : Nat) : BeginsWithDigit (List.replicate count '0' ++ t) := by
  cases count with
  | zero => exact h
  | succ count => exact ⟨'0', List.replicate count '0' ++ t, rfl, rfl⟩

end BeginsWithDigit

/-! ### The forms of a decimal -/

namespace Decimal10

theorem beginsWithDigit_positional (d : Decimal10) : BeginsWithDigit d.positional := by
  have hdigits : BeginsWithDigit d.digits := .ofNat d.significand
  unfold positional
  dsimp only
  split
  · exact hdigits.append _
  · split
    · next hfew => exact (hdigits.take (Nat.sub_pos_of_lt hfew)).append _
    · exact ⟨'0', _, rfl, rfl⟩

theorem beginsWithDigit_positionalPoint (d : Decimal10) : BeginsWithDigit d.positionalPoint := by
  unfold positionalPoint
  split
  · exact d.beginsWithDigit_positional
  · exact d.beginsWithDigit_positional.append _

theorem beginsWithDigit_scientific (d : Decimal10) (exponentMark : Int → Text) :
    BeginsWithDigit (d.scientific exponentMark) := by
  obtain ⟨c, rest, hdigits, hc⟩ := BeginsWithDigit.ofNat d.significand
  rw [scientific, digits, hdigits]
  cases rest with
  | nil => exact ⟨c, _, rfl, hc⟩
  | cons next rest => exact ⟨c, _, rfl, hc⟩

end Decimal10

theorem beginsWithDigit_fixedDecimals (places n d : Nat) : BeginsWithDigit (fixedDecimals places n d) := by
  have hpadded := (BeginsWithDigit.ofNat (roundHalfEven (n * 10 ^ places) d)).zeros_append
    (places + 1 - (Decimal.ofNat (roundHalfEven (n * 10 ^ places) d)).length)
  unfold fixedDecimals
  dsimp only
  split
  · exact hpadded
  · refine (hpadded.take ?_).append _
    rw [List.length_append, List.length_replicate]
    omega

/-! ### Lines -/

theorem no_break_ofNat (n : Nat) : '\n' ∉ Decimal.ofNat n :=
  fun h => absurd (Decimal.isDigit_of_mem_ofNat h) (by decide)

theorem no_break_ofInt (z : Int) : '\n' ∉ Decimal.ofInt z := by
  cases z with
  | ofNat n => exact no_break_ofNat n
  | negSucc n => exact List.not_mem_cons_of_ne_of_not_mem (by decide) (no_break_ofNat _)

theorem no_break_zeros (count : Nat) : '\n' ∉ List.replicate count '0' :=
  fun h => absurd (List.eq_of_mem_replicate h) (by decide)

/-- A text with a point somewhere in it breaks no line that it did not break before. -/
theorem no_break_pointed {t : Text} (h : '\n' ∉ t) (count : Nat) : '\n' ∉ t.take count ++ '.' :: t.drop count :=
  Spec.no_break_append (fun front => h (List.mem_of_mem_take front))
    (List.not_mem_cons_of_ne_of_not_mem (by decide) fun back => h (List.mem_of_mem_drop back))

namespace Decimal10

theorem no_break_positional (d : Decimal10) : '\n' ∉ d.positional := by
  have hdigits : '\n' ∉ d.digits := no_break_ofNat d.significand
  unfold positional
  dsimp only
  split
  · exact Spec.no_break_append hdigits (no_break_zeros _)
  · split
    · exact no_break_pointed hdigits _
    · exact Spec.no_break_append (s := ['0', '.']) (by decide) (Spec.no_break_append (no_break_zeros _) hdigits)

theorem no_break_positionalPoint (d : Decimal10) : '\n' ∉ d.positionalPoint := by
  unfold positionalPoint
  split
  · exact d.no_break_positional
  · exact Spec.no_break_append d.no_break_positional (by decide)

theorem no_break_scientific (d : Decimal10) {exponentMark : Int → Text} (hmark : ∀ e, '\n' ∉ exponentMark e) :
    '\n' ∉ d.scientific exponentMark := by
  have hdigits : '\n' ∉ d.digits := no_break_ofNat d.significand
  unfold scientific
  split
  · decide
  · next digit heq =>
    rw [heq] at hdigits
    exact Spec.no_break_append hdigits (hmark _)
  · next digit rest _ heq =>
    rw [heq] at hdigits
    have hdigit : '\n' ≠ digit := fun h => hdigits (List.mem_cons.2 (.inl h))
    have hrest : '\n' ∉ rest := fun h => hdigits (List.mem_cons_of_mem _ h)
    exact List.not_mem_cons_of_ne_of_not_mem hdigit
      (List.not_mem_cons_of_ne_of_not_mem (by decide) (Spec.no_break_append hrest (hmark _)))

end Decimal10

theorem no_break_fixedDecimals (places n d : Nat) : '\n' ∉ fixedDecimals places n d := by
  have hpadded := Spec.no_break_append
    (no_break_zeros (places + 1 - (Decimal.ofNat (roundHalfEven (n * 10 ^ places) d)).length))
    (no_break_ofNat (roundHalfEven (n * 10 ^ places) d))
  unfold fixedDecimals
  dsimp only
  split
  · exact hpadded
  · exact no_break_pointed hpadded _

/-! ### Reals -/

namespace Binary

variable {p : Precision} {spec : Spec}

theorem beginsWithDigit_digits (spec : Spec) (a : Binary p) : BeginsWithDigit (a.digits spec) := by
  unfold digits
  split
  · exact beginsWithDigit_fixedDecimals _ _ _
  · exact Decimal10.beginsWithDigit_positional _
  · dsimp only
    split
    · exact Decimal10.beginsWithDigit_scientific _ _
    · exact Decimal10.beginsWithDigit_positionalPoint _
  · dsimp only
    split
    · exact Decimal10.beginsWithDigit_scientific _ _
    · exact Decimal10.beginsWithDigit_positionalPoint _

/-- Behind the sign no other begins. -/
theorem unsigned_body (spec : Spec) (a : Binary p) : Unsigned (a.body spec) := by
  unfold body
  split
  · rfl
  · split
    · rfl
    · exact (a.beginsWithDigit_digits spec).unsigned

theorem parted_text (spec : Spec) (a : Binary p) :
    parted (a.sign spec ++ a.body spec) = (a.sign spec, a.body spec) := by
  have hbody := a.unsigned_body spec
  rw [sign]
  split
  · exact hbody
  · exact Format.parted_sign_append spec a.negative hbody

theorem no_break_digits (spec : Spec) (a : Binary p) : '\n' ∉ a.digits spec := by
  have hmark : ∀ e, '\n' ∉ 'e' :: Decimal.ofInt e := fun e =>
    List.not_mem_cons_of_ne_of_not_mem (by decide) (no_break_ofInt e)
  unfold digits
  split
  · exact no_break_fixedDecimals _ _ _
  · exact Decimal10.no_break_positional _
  · dsimp only
    split
    · exact Decimal10.no_break_scientific _ hmark
    · exact Decimal10.no_break_positionalPoint _
  · dsimp only
    split
    · exact Decimal10.no_break_scientific _ hmark
    · exact Decimal10.no_break_positionalPoint _

theorem no_break_body (spec : Spec) (a : Binary p) : '\n' ∉ a.body spec := by
  unfold body
  split
  · decide
  · split
    · decide
    · exact a.no_break_digits spec

/-- **A real is laid out.** -/
theorem laysOut_format (spec : Spec) (a : Binary p) : spec.LaysOut (a.format spec.narrow) (a.format spec) := by
  refine ⟨a.sign spec, a.body spec, Spec.pad_of_width_le (Nat.zero_le _), rfl,
    Spec.no_break_append ?_ (a.no_break_body spec)⟩
  rw [sign]
  split
  · decide
  · exact spec.no_break_sign

/-- **A real is written into its field.** -/
theorem pads_iff_format (a : Binary p) {field : Text} :
    spec.Pads (a.format spec.narrow) field ↔ field = a.format spec :=
  Spec.pads_iff_of_parted (a.parted_text spec)

end Binary

end Dimensional
