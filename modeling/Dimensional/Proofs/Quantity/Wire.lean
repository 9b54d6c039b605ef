import Dimensional.Proofs.Quantity.Tagged

/-!
# The gate of the wire format

A tagged quantity of integers is read back under another dimension exactly where its dimension could be
converted to that one, and into another kind exactly where the kind holds the integer.

* `readTagged_eq_ok`, `read_eq_ok` — what the tagged and the bare form are read as;
* `read_writeTagged`, `readTagged_write` — neither is read as the other;
* `wire_gate` — the gate.
-/

namespace Dimensional.Wire

open Json

variable {d d' : Dimension} {v w : IntKind}

/-! ### The gate -/

theorem readTagged_eq_ok (reals : RealReader) (q : Quantity d (.int v)) {e : Exponents} (he : e.powers = d.exponents)
    (r : Quantity d' (.int w)) :
    readTagged reals d' (.int w) (writeTagged q) = .ok r ↔
      d.Same d' ∧ r.toInt = q.toInt := by
  have htext : (Value.number (.ofInt q.toInt)).text = write q := Number.text_ofInt q.toInt
  exact (readTagged_tagged htext he r).trans (and_congr_right fun _ => scalar_ofInt_eq_ok)

theorem read_eq_ok (reals : RealReader) (q : Quantity d (.int v)) (r : Quantity d' (.int w)) :
    read reals d' (.int w) (write q) = .ok r ↔ r.toInt = q.toInt := by
  rw [write_int, ← Number.text_ofInt]
  exact (read_text_eq_ok (v := .number (.ofInt q.toInt))).trans scalar_ofInt_eq_ok

/-- What opens an object is no scalar. -/
theorem readScalar_brace (reals : RealReader) (k : ScalarKind) (cs : Text) :
    ∃ e, readScalar reals k (openBrace :: cs) = .error e := by
  have hnumeral : ∀ wanted,
      readNumeral reals wanted (openBrace :: cs) = .error (wrongType reals wanted (openBrace :: cs)) := by
    intro wanted
    rw [readNumeral, skipBlanks_of_not_blank (by decide)]
    exact if_neg (by decide)
  cases k with
  | float p => exact ⟨_, bind_of_error (hnumeral _) _⟩
  | int k =>
    show ∃ e, readInteger reals k (openBrace :: cs) = .error e
    unfold readInteger
    by_cases hlong : k.width = .w128
    · rw [if_pos hlong, readLongInteger, skipBlanks_of_not_blank (by decide)]
      exact ⟨.invalidNumber, if_neg fun h => absurd h.1 (by decide)⟩
    · rw [if_neg hlong]
      exact ⟨_, bind_of_error (hnumeral _) _⟩

/-- A tagged text is no bare scalar. -/
theorem read_writeTagged (reals : RealReader) {k l : ScalarKind} (q : Quantity d k) (r : Quantity d' l) :
    read reals d' l (writeTagged q) ≠ .ok r := by
  intro h
  obtain ⟨result, hread, -⟩ := bind_eq_ok.1 h
  obtain ⟨e, herror⟩ := readScalar_brace reals l (memberText .value (write q) ++
    ',' :: (memberText .exponents (exponentsText d.exponents) ++ [closeBrace]))
  rw [writeTagged, herror] at hread
  cases hread

/-- A bare scalar is no object. -/
theorem readTagged_write (reals : RealReader) {l : ScalarKind} (q : Quantity d (.int v)) (r : Quantity d' l) :
    readTagged reals d' l (write q) ≠ .ok r := by
  have hother : readTagged reals d' l (Document.text (.tight (.number (.ofInt q.toInt)))) = .error _ :=
    readTagged_other reals nofun
  have htext : Document.text (.tight (.number (.ofInt q.toInt))) = write q :=
    (Value.spacedText_tight _).trans (Number.text_ofInt q.toInt)
  rw [← htext, hother]
  exact nofun

/-- **The gate of the wire format.**  A tagged quantity of integers is read under a dimension and into a
kind exactly when its own dimension converts to that one and the kind holds its integer, which is then
what is read; a bare one is read whatever the dimensions are; and neither form is read as the other. -/
theorem wire_gate (reals : RealReader) (q : Quantity d (.int v))
    (h : ∀ axis, IntKind.i32.Holds (d.exponents.get axis)) :
    ((∃ r, readTagged reals d' (.int w) (writeTagged q) = .ok r) ↔
      d.Same d' ∧ w.Holds q.toInt) ∧
    (∀ r, readTagged reals d' (.int w) (writeTagged q) = .ok r → r.toInt = q.toInt) ∧
    ((∃ r, read reals d' (.int w) (write q) = .ok r) ↔ w.Holds q.toInt) ∧
    (∀ r, read reals d' (.int w) (write q) = .ok r → r.toInt = q.toInt) ∧
    (∀ r, read reals d' (.int w) (writeTagged q) ≠ .ok r) ∧
    (∀ r, readTagged reals d' (.int w) (write q) ≠ .ok r) := by
  have he : (Exponents.ofPowers d.exponents h).powers = d.exponents := Exponents.powers_ofPowers h
  refine ⟨?_, ?_, ?_, ?_, ?_, ?_⟩
  · constructor
    · rintro ⟨r, hread⟩
      obtain ⟨hsame, hvalue⟩ := (readTagged_eq_ok reals q he r).1 hread
      exact ⟨hsame, hvalue ▸ Fixed.holds r.value⟩
    · rintro ⟨hsame, hlow, hhigh⟩
      exact ⟨⟨⟨_, hlow, hhigh⟩⟩, (readTagged_eq_ok reals q he _).2 ⟨hsame, rfl⟩⟩
  · intro r hread
    exact ((readTagged_eq_ok reals q he r).1 hread).2
  · constructor
    · rintro ⟨r, hread⟩
      exact (read_eq_ok reals q r).1 hread ▸ Fixed.holds r.value
    · rintro ⟨hlow, hhigh⟩
      exact ⟨⟨⟨_, hlow, hhigh⟩⟩, (read_eq_ok reals q _).2 rfl⟩
  · intro r hread
    exact (read_eq_ok reals q r).1 hread
  · exact read_writeTagged reals q
  · exact readTagged_write reals q

/-- A speed in 64 bits, written for a marker of the same exponents in a machine word. -/
theorem wire_gate_speed :
    (∀ axis, IntKind.i32.Holds (Catalogue.speed.exponents.get axis)) ∧
      ∃ r : Quantity (.marker "Velocity" Catalogue.speed.exponents) (.int ⟨false, .word⟩),
        readTagged .stepwise _ _
            (writeTagged (⟨⟨300, by decide, by decide⟩⟩ : Quantity Catalogue.speed (.int ⟨true, .w64⟩))) = .ok r ∧
          r.toInt = 300 := by
  have hspeed : ∀ axis, IntKind.i32.Holds (Catalogue.speed.exponents.get axis) := by
    intro axis
    cases axis <;> decide
  obtain ⟨hgate, hvalue, -⟩ := @wire_gate Catalogue.speed (.marker "Velocity" Catalogue.speed.exponents)
    ⟨true, .w64⟩ ⟨false, .word⟩ .stepwise ⟨⟨300, by decide, by decide⟩⟩ hspeed
  obtain ⟨r, hread⟩ := hgate.2 ⟨rfl, by decide⟩
  exact ⟨hspeed, r, hread, hvalue r hread⟩

end Dimensional.Wire
