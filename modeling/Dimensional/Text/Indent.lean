import Dimensional.Text.Basic

/-!
# Indented text

The parts of a value stand on lines of their own, each with a margin in front.  A line begins with its first
character: a part that holds line breaks gets a margin behind each of them, and nothing stands behind the last
break of all.

* `partLines_eq` — the lines of a part;
* `hanging_of_no_break`, `length_hanging` — a part of one line, and how much longer any other one gets.
-/

namespace Dimensional

/-- What stands in front of an indented line. -/
def margin : Text := List.replicate 4 ' '

/-- The text with a margin in front of every character that begins a line. -/
def indentFrom : Bool → Text → Text
  | _, [] => []
  | begins, c :: cs => (if begins then margin else []) ++ c :: indentFrom (c == '\n') cs

/-- The lines of a part of a value: the part, a comma and a line break, indented. -/
def partLines (t : Text) : Text := indentFrom true (t ++ [',', '\n'])

/-- The text with a margin behind each of its line breaks. -/
def hanging (t : Text) : Text := t.flatMap fun c => c :: if c = '\n' then margin else []

/-! ### Laws -/

theorem hanging_cons (c : Char) (cs : Text) :
    hanging (c :: cs) = (c :: if c = '\n' then margin else []) ++ hanging cs := List.flatMap_cons

theorem hanging_append (s t : Text) : hanging (s ++ t) = hanging s ++ hanging t := List.flatMap_append

theorem hanging_of_no_break {t : Text} (h : '\n' ∉ t) : hanging t = t := by
  induction t with
  | nil => rfl
  | cons c cs ih =>
    have first : c ≠ '\n' := fun breaks => h (breaks ▸ List.mem_cons_self)
    rw [hanging_cons, if_neg first, ih fun rest => h (List.mem_cons_of_mem c rest), List.singleton_append]

theorem length_hanging (t : Text) : (hanging t).length = t.length + 4 * t.count '\n' := by
  induction t with
  | nil => rfl
  | cons c cs ih =>
    rw [hanging_cons, List.length_append, ih, List.length_cons, List.length_cons, List.count_cons]
    by_cases breaks : c = '\n'
    · rw [if_pos breaks, if_pos (beq_iff_eq.2 breaks), margin, List.length_replicate]
      omega
    · rw [if_neg breaks, if_neg fun same => breaks (beq_iff_eq.1 same), List.length_nil]
      omega

/-- Inside a part, a text that something follows has a margin behind each of its line breaks. -/
theorem indentFrom_append_cons (begins : Bool) (t : Text) {c : Char} (h : c ≠ '\n') (rest : Text) :
    indentFrom begins (t ++ c :: rest) =
      (if begins then margin else []) ++ (hanging t ++ c :: indentFrom false rest) := by
  induction t generalizing begins with
  | nil =>
    rw [List.nil_append, indentFrom, beq_eq_false_iff_ne.2 h]
    rfl
  | cons d ds ih =>
    rw [List.cons_append, indentFrom, ih, hanging_cons, List.append_assoc, List.cons_append]
    simp only [beq_iff_eq]

/-- **The lines of a part** are a margin, the part with a margin behind each of its line breaks, and a comma. -/
theorem partLines_eq (t : Text) : partLines t = margin ++ (hanging t ++ [',', '\n']) := by
  rw [partLines, indentFrom_append_cons true t (by decide)]
  rfl

/-- A part of two lines. -/
example : partLines "a\nb".toList = "    a\n    b,\n".toList := by rfl

end Dimensional
