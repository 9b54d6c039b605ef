import Dimensional.Proofs.Exponents.Grammar
import Dimensional.Quantity.Basic

/-!
# Reading dimensions back from what is printed

The text of a dimension stands in frames: alone, in the programmer's form of a vector, behind the value in
the programmer's form of a quantity, and twice in the message of a mismatch.  Nothing that a vector is
printed with ends its place in a frame, and the last colon of a quantity is that of its dimension, whatever
is printed for the value:

* `Quantity.format_eq_frame` — the frame of a quantity, and what stands in it;
* `Dimension.exponentsOfDebug?_debug`, `Quantity.exponentsOfDebug?_format` — the frames can be read;
* `Exponents.vectorsOfMismatch?_message` — and so can both vectors of a mismatch;
* `dimensions_readable` — what is printed for a dimension determines it.
-/

namespace Dimensional

open Format (Spec)

/-! ### Places in a frame -/

/-- The character does not end the place of a vector in a frame. -/
def goesOn (c : Char) : Bool := c != ' ' && c != ','

/-- What stands behind the last colon. -/
def behindLastColon (t : Text) : Text := (t.reverse.takeWhile (· != ':')).reverse

theorem behindLastColon_append (front : Text) {tail : Text} (h : ':' ∉ tail) :
    behindLastColon (front ++ ':' :: tail) = tail := by
  have htail : ∀ c ∈ tail.reverse, (c != ':') = true := by
    intro c hc
    exact bne_iff_ne.2 (ne_of_mem_of_not_mem (List.mem_reverse.1 hc) h)
  have hfront : (':' :: front.reverse).takeWhile (· != ':') = [] := List.takeWhile_cons_of_neg (by decide)
  rw [behindLastColon, List.reverse_append, List.reverse_cons, List.append_assoc,
    List.takeWhile_append_of_pos htail, List.singleton_append, hfront, List.append_nil, List.reverse_reverse]

namespace Powers

theorem ne_of_mem_text {v : Powers} {c d : Char} (h : c ∈ v.text)
    (hd : d.isAlphanum = false ∧ d ≠ '^' ∧ d ≠ '-' ∧ d ≠ '·') : c ≠ d := by
  rintro rfl
  rcases isPart_or_dot_of_mem_text h with hpart | hdot
  · exact Factor.not_isPart ⟨hd.1, hd.2.1, hd.2.2.1⟩ hpart
  · exact hd.2.2.2 hdot

theorem goesOn_of_mem_text {v : Powers} {c : Char} (h : c ∈ v.text) : goesOn c = true := by
  rw [goesOn, Bool.and_eq_true, bne_iff_ne, bne_iff_ne]
  exact ⟨ne_of_mem_text h (by decide), ne_of_mem_text h (by decide)⟩

/-- The place of a vector in a frame reaches to its end. -/
theorem span_text (v : Powers) {c : Char} (hend : goesOn c = false) (rest : Text) :
    (v.text ++ c :: rest).takeWhile goesOn = v.text ∧ (v.text ++ c :: rest).dropWhile goesOn = c :: rest := by
  have hc : ¬ goesOn c = true := by
    rw [hend]
    exact Bool.false_ne_true
  constructor
  · rw [List.takeWhile_append_of_pos fun _ h => goesOn_of_mem_text h, List.takeWhile_cons_of_neg hc,
      List.append_nil]
  · rw [List.dropWhile_append_of_pos fun _ h => goesOn_of_mem_text h, List.dropWhile_cons_of_neg hc]

end Powers

/-! ### Vectors -/

/-- The exponents of a vector type from the programmer's form of its value. -/
def Dimension.exponentsOfDebug? (t : Text) : Option Powers :=
  Powers.ofText? (t.drop "Dim(".length).dropLast

theorem Dimension.exponentsOfDebug?_debug (d : Dimension) : exponentsOfDebug? d.debug = some d.exponents := by
  have hframe : (d.debug.drop "Dim(".length).dropLast = d.exponents.text :=
    List.dropLast_concat
  rw [exponentsOfDebug?, hframe, Powers.ofText?_text]

/-! ### Quantities -/

/-- The exponents from the programmer's form of a quantity, on one line or on several. -/
def Quantity.exponentsOfDebug? (t : Text) : Option Powers :=
  Powers.ofText? ((behindLastColon t).tail.takeWhile goesOn)

/-- A vector behind the last colon is read. -/
theorem Quantity.exponentsOfDebug?_frame (front : Text) (v : Powers) (c : Char) (rest : Text)
    (hend : goesOn c = false) (hrest : ':' ∉ c :: rest) :
    exponentsOfDebug? (front ++ ':' :: ' ' :: (v.text ++ c :: rest)) = some v := by
  have hcolon : ':' ∉ ' ' :: (v.text ++ c :: rest) := by
    intro hmem
    rcases List.mem_append.1 (List.mem_of_ne_of_mem (by decide) hmem) with htext | htail
    · exact Powers.ne_of_mem_text htext (by decide) rfl
    · exact hrest htail
  rw [exponentsOfDebug?, behindLastColon_append front hcolon, List.tail_cons, (v.span_text hend rest).1,
    Powers.ofText?_text]

/-- What stands for a part of a value in its frame: the text, with a margin behind each of its line breaks where
parts have lines of their own. -/
def Format.Style.inFrame (style : Format.Style) (t : Text) : Text :=
  match style with
  | .display | .debug => t
  | .pretty => hanging t

namespace Quantity

variable {d : Dimension} {k : ScalarKind}

/-- What a quantity is printed as in each style, around the texts of its scalar and its dimension. -/
def frame (style : Format.Style) (scalar dimension : Text) : Text :=
  match style with
  | .display => scalar
  | .debug => "Quantity \x7b value: ".toList ++ scalar ++ ", dimension: ".toList ++ dimension ++ " \x7d".toList
  | .pretty =>
    "Quantity \x7b\n    value: ".toList ++ scalar ++ ",\n    dimension: ".toList ++ dimension ++ ",\n\x7d".toList

/-- What stands before and behind two parts on lines of their own. -/
theorem lines_append (opening before value scalar behind name dimension closing : Text) :
    opening ++ (before ++ ((value ++ scalar) ++ behind)) ++ (before ++ ((name ++ dimension) ++ behind)) ++ closing =
      (opening ++ (before ++ value)) ++ scalar ++ (behind ++ (before ++ name)) ++ dimension ++
        (behind ++ closing) := by
  simp only [List.append_assoc]

/-- The lines of the parts are those of the frame: neither the names nor the dimension break one. -/
theorem format_eq_frame (q : Quantity d k) (spec : Spec) :
    q.format spec = frame spec.style (spec.style.inFrame (Scalar.format spec q.value)) d.exponents.text := by
  have hline : '\n' ∉ "dimension: ".toList ++ d.text := by
    intro h
    rcases List.mem_append.1 h with hname | htext
    · exact absurd hname (by decide)
    · exact Powers.ne_of_mem_text htext (by decide) rfl
  have hvalue : ∀ t : Text, hanging ("value: ".toList ++ t) = "value: ".toList ++ hanging t := fun t => by
    rw [hanging_append, hanging_of_no_break (by decide)]
  cases style : spec.style with
  | display => rw [format, style]; rfl
  | debug => rw [format, style]; rfl
  | pretty =>
    rw [format, style]
    show "Quantity \x7b\n".toList ++ partLines _ ++ partLines _ ++ ['\x7d'] = _
    rw [partLines_eq, partLines_eq, hvalue, hanging_of_no_break hline, lines_append]
    rfl

/-- The name of the dimension ends with the last colon. -/
theorem named_append (opening scalar name dimension rest : Text) :
    opening ++ scalar ++ (name ++ [':', ' ']) ++ dimension ++ rest =
      (opening ++ scalar ++ name) ++ ':' :: ' ' :: (dimension ++ rest) := by
  simp only [List.append_assoc, List.cons_append, List.nil_append]

/-- Whatever stands for the scalar. -/
theorem exponentsOfDebug?_eq {style : Format.Style} (hstyle : style ≠ .display) (scalar : Text) (v : Powers) :
    exponentsOfDebug? (frame style scalar v.text) = some v := by
  cases style with
  | display => exact absurd rfl hstyle
  | debug =>
    have hframe : frame .debug scalar v.text = _ :=
      named_append "Quantity \x7b value: ".toList scalar ", dimension".toList v.text " \x7d".toList
    rw [hframe]
    exact exponentsOfDebug?_frame _ _ ' ' ['\x7d'] (by decide) (by decide)
  | pretty =>
    have hframe : frame .pretty scalar v.text = _ :=
      named_append "Quantity \x7b\n    value: ".toList scalar ",\n    dimension".toList v.text ",\n\x7d".toList
    rw [hframe]
    exact exponentsOfDebug?_frame _ _ ',' ['\n', '\x7d'] (by decide) (by decide)

/-- Whatever the format and the scalar. -/
theorem exponentsOfDebug?_format (q : Quantity d k) {spec : Spec} (hstyle : spec.style ≠ .display) :
    exponentsOfDebug? (q.format spec) = some d.exponents := by
  rw [format_eq_frame]
  exact exponentsOfDebug?_eq hstyle _ _

end Quantity

/-! ### Mismatches -/

namespace Exponents

/-- The expected vector and the one that was found, from the message of a mismatch. -/
def vectorsOfMismatch? (t : Text) : Option (Powers × Powers) := do
  let vectors := t.drop "dimension mismatch: expected ".length
  let expected ← Powers.ofText? (vectors.takeWhile goesOn)
  let found ← Powers.ofText? ((vectors.dropWhile goesOn).drop ", found ".length)
  return (expected, found)

theorem vectorsOfMismatch?_message (expected found : Powers) :
    vectorsOfMismatch? (Error.mismatch expected found).message = some (expected, found) := by
  have hmessage : (Error.mismatch expected found).message =
      "dimension mismatch: expected ".toList ++ expected.text ++ ", found ".toList ++ found.text := rfl
  have hframe : (Error.mismatch expected found).message.drop "dimension mismatch: expected ".length =
      expected.text ++ ',' :: (" found ".toList ++ found.text) := by
    rw [hmessage, List.append_assoc, List.append_assoc]
    exact List.drop_left' rfl
  obtain ⟨hexpected, hrest⟩ := expected.span_text (c := ',') rfl (" found ".toList ++ found.text)
  have hfound : (", found ".toList ++ found.text).drop ", found ".length = found.text := List.drop_left' rfl
  rw [vectorsOfMismatch?, hframe, hexpected, hrest, Powers.ofText?_text]
  show (Powers.ofText? ((", found ".toList ++ found.text).drop ", found ".length)).bind _ = _
  rw [hfound, Powers.ofText?_text]
  rfl

/-- The vectors of a mismatch have different texts. -/
theorem text_ne_of_ensureMatches {e f : Exponents} {error : Error}
    (h : e.ensureMatches f = .error error) : error = .mismatch e.powers f.powers ∧ e.text ≠ f.text := by
  unfold ensureMatches ensure at h
  split at h
  · cases h
  · next hequals =>
    cases h
    refine ⟨rfl, fun htext => hequals ?_⟩
    rw [text_injective htext]
    exact Powers.equals_iff.2 rfl

end Exponents

/-- **What is printed for a dimension determines it.**  The printed vectors are the texts of the grammar,
one for each vector, and no format changes them.  They are read back from the programmer's forms of vectors
and of quantities, whatever the format and the scalar, and from the message of a mismatch, which therefore
never names the same text twice. -/
theorem dimensions_readable :
    (∀ e : Exponents, IsVectorText e.text) ∧
    (∀ t, IsVectorText t → ∃ e : Exponents, e.text = t ∧ ∀ f : Exponents, f.text = t → f = e) ∧
    (∀ (e : Exponents) (spec : Spec), spec.style = .display → e.format spec = e.text) ∧
    (∀ e : Exponents, Powers.ofText? e.text = some e.powers) ∧
    (∀ d : Dimension, Dimension.exponentsOfDebug? d.debug = some d.exponents) ∧
    (∀ (d : Dimension) (k : ScalarKind) (q : Quantity d k) (spec : Spec), spec.style ≠ .display →
      Quantity.exponentsOfDebug? (q.format spec) = some d.exponents) ∧
    (∀ (e f : Exponents) (error : Exponents.Error), e.ensureMatches f = .error error →
      Exponents.vectorsOfMismatch? error.message = some (e.powers, f.powers) ∧ e.text ≠ f.text) := by
  refine ⟨IsVectorText.text, ?_, ?_, fun e => Powers.ofText?_text e.powers,
    Dimension.exponentsOfDebug?_debug, fun d k q spec => q.exponentsOfDebug?_format, ?_⟩
  · intro t ht
    obtain ⟨e, he⟩ := ht.eq_text
    exact ⟨e, he, fun f hf => Exponents.text_injective (hf.trans he.symm)⟩
  · intro e spec hstyle
    rw [Exponents.format, hstyle]
  · intro e f error h
    obtain ⟨rfl, hne⟩ := Exponents.text_ne_of_ensureMatches h
    exact ⟨Exponents.vectorsOfMismatch?_message _ _, hne⟩

/-- A speed where an area is expected. -/
theorem dimensions_readable_speed :
    ∃ (area speed : Exponents) (error : Exponents.Error), area.text = "L^2".toList ∧ speed.text = "T^-1·L".toList ∧
      area.ensureMatches speed = .error error ∧
      Exponents.vectorsOfMismatch? error.message = some (Catalogue.area.exponents, Catalogue.speed.exponents) := by
  have harea : ∀ axis, IntKind.i32.Holds (Catalogue.area.exponents.get axis) := by
    intro axis
    cases axis <;> decide
  have hspeed : ∀ axis, IntKind.i32.Holds (Catalogue.speed.exponents.get axis) := by
    intro axis
    cases axis <;> decide
  have herror : (Exponents.ofPowers _ harea).ensureMatches (.ofPowers _ hspeed) =
      .error (.mismatch Catalogue.area.exponents Catalogue.speed.exponents) := by rfl
  obtain ⟨-, -, -, -, -, -, hmismatch⟩ := dimensions_readable
  exact ⟨_, _, _, rfl, rfl, herror, (hmismatch _ _ _ herror).1⟩

end Dimensional
