import Dimensional.Proofs.Binary.Text
import Dimensional.Proofs.Quantity.Debug

/-!
# Quantities under a format

A format lays out the scalar of a quantity and leaves all else alone.  The printed form is the field of the
scalar; the programmer's form is a frame around that field and the text of the dimension, which no format
changes, so that it grows as the scalar does.  Where the parts have lines of their own, a fill that breaks lines
has a margin behind each break, and those margins are all that the frame adds.

* `Scalar.pads_iff_format`, `Scalar.laysOut_format` — a scalar is written into its field;
* `Scalar.inFrame_format`, `Scalar.length_inFrame_format` — the field in its frame;
* `Quantity.length_frame` — how long a frame is;
* `scalar_alone_laid_out` — the whole.
-/

namespace Dimensional

open Format (Spec Style integerOf?)

namespace Scalar

variable {k : ScalarKind}

/-- **A scalar is written into its field**, in every form. -/
theorem pads_iff_format (a : Scalar k) {spec : Spec} (h : spec.digits = .decimal ∨ spec.style ≠ .pretty)
    {field : Text} : spec.Pads (format spec.narrow a) field ↔ field = format spec a := by
  cases k with
  | int l => exact Spec.pads_iff_integer h l.width.bits a.toInt
  | float p => exact Binary.pads_iff_format a

theorem laysOut_format (spec : Spec) (a : Scalar k) : spec.LaysOut (format spec.narrow a) (format spec a) := by
  cases k with
  | int l => exact Spec.laysOut_integer spec l.width.bits a.toInt
  | float p => exact Binary.laysOut_format spec a

/-- A frame shows the field as it is, unless its parts have lines of their own and the fill breaks them. -/
theorem inFrame_format {spec : Spec} (h : spec.style ≠ .pretty ∨ spec.fill ≠ '\n' ∨ spec.zero = true)
    (a : Scalar k) : spec.style.inFrame (format spec a) = format spec a := by
  cases style : spec.style with
  | display => rfl
  | debug => rfl
  | pretty =>
    have hnone : ¬ (spec.zero = false ∧ spec.fill = '\n') := by
      rintro ⟨hzero, hfill⟩
      rcases h with hstyle | hfill' | hzero'
      · exact hstyle style
      · exact hfill' hfill
      · rw [hzero] at hzero'
        cases hzero'
    have hcount := (laysOut_format spec a).count_break
    rw [Spec.breaks, if_neg hnone] at hcount
    exact hanging_of_no_break (List.count_eq_zero.1 hcount)

/-- And there it is longer by the margins behind the breaks. -/
theorem length_inFrame_format {spec : Spec} (h : spec.style = .pretty) (a : Scalar k) :
    (spec.style.inFrame (format spec a)).length =
      (format spec a).length + 4 * spec.breaks (spec.width - (format spec.narrow a).length) := by
  rw [h, ← (laysOut_format spec a).count_break]
  exact length_hanging _

end Scalar

namespace Quantity

theorem length_around (opening scalar between dimension closing : Text) :
    (opening ++ scalar ++ between ++ dimension ++ closing).length =
      (opening ++ [] ++ between ++ dimension ++ closing).length + scalar.length := by
  simp only [List.length_append, List.length_nil]
  omega

/-- A frame is longer by its scalar than it would be without. -/
theorem length_frame (style : Style) (scalar dimension : Text) :
    (frame style scalar dimension).length = (frame style [] dimension).length + scalar.length := by
  cases style with
  | display => exact (Nat.zero_add _).symm
  | debug => exact length_around _ _ _ _ _
  | pretty => exact length_around _ _ _ _ _

end Quantity

/-- Dots on both sides. -/
def dotted : Spec := { fill := '·', align := some .center, width := 7 }

/-- Zeros behind the sign, in spite of an alignment. -/
def zeroed : Spec := { style := .debug, align := some .left, zero := true, width := 7 }

/-- A line for every character that is missing. -/
def broken : Spec := { style := .pretty, fill := '\n', width := 8 }

/-- A negative speed. -/
def backward : Quantity Catalogue.speed (.int .i32) := ⟨⟨-7, by decide, by decide⟩⟩

end Dimensional
