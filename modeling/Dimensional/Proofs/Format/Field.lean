import Dimensional.Format.Spec
import Dimensional.Proofs.Text.Decimal

/-!
# Texts in their fields

A format with a width puts a text into a field.  What is missing to the width is filled up: with zeros
behind the sign, if the format asks for them, and else with the fill, on the sides that the alignment leaves.

* `Spec.Pads` — the field of a text, told without the way it is written;
* `Spec.Pads.length_eq`, `Spec.Pads.strip_eq` — how long it is, and that nothing of the text is lost in it;
* `Spec.pads_iff` — the fields are what `Spec.pad` writes;
* `integerOf?_decimal` — an integer is read from its field;
* `Spec.laysOut_integer`, `Spec.pads_iff_integer` — whatever its digits, an integer is laid out in its field, and
  only its fill can break a line.
-/

namespace Dimensional.Format

/-! ### Signs -/

/-- A text in two parts: its sign, if it begins with one, and the rest. -/
def parted : Text → Text × Text
  | '-' :: rest => (['-'], rest)
  | '+' :: rest => (['+'], rest)
  | text => ([], text)

/-- The text begins with no sign. -/
def Unsigned (text : Text) : Prop := parted text = ([], text)

theorem parted_append (text : Text) : (parted text).1 ++ (parted text).2 = text := by
  fun_cases parted text with
  | case1 rest => rfl
  | case2 rest => rfl
  | case3 text hminus hplus => rfl

theorem unsigned_of_isAlphanum {c : Char} (h : c.isAlphanum = true) (rest : Text) : Unsigned (c :: rest) := by
  have hother : ∀ sign more, sign.isAlphanum = false → c :: rest ≠ sign :: more := by
    intro sign more hsign heq
    rw [(List.cons.inj heq).1, hsign] at h
    cases h
  exact parted.eq_3 _ (fun more => hother '-' more (by decide)) (fun more => hother '+' more (by decide))

theorem unsigned_of_isDigit {c : Char} (h : c.isDigit = true) (rest : Text) : Unsigned (c :: rest) :=
  unsigned_of_isAlphanum (by rw [Char.isAlphanum, h, Bool.or_true]) rest

theorem parted_sign_append (spec : Spec) (negative : Bool) {body : Text} (h : Unsigned body) :
    parted (spec.sign negative ++ body) = (spec.sign negative, body) := by
  unfold Spec.sign
  split
  · rfl
  · split
    · rfl
    · exact h

/-- Zeros behind a sign are no part of it, and zeros without one do not make one. -/
theorem parted_zeros (text : Text) (count : Nat) :
    parted ((parted text).1 ++ (List.replicate count '0' ++ (parted text).2)) =
      ((parted text).1, List.replicate count '0' ++ (parted text).2) := by
  fun_cases parted text with
  | case1 rest => rfl
  | case2 rest => rfl
  | case3 text hminus hplus =>
    cases count with
    | zero => rw [List.replicate_zero, List.nil_append, List.nil_append, parted.eq_3 text hminus hplus]
    | succ count => rfl

namespace Spec

variable {spec : Spec} {text field : Text}

/-! ### Fields -/

/-- The format without its width. -/
def narrow (spec : Spec) : Spec := { spec with width := 0 }

/-- The format pads the text to the field: with zeros behind the sign, whatever fill and alignment say, or
with the fill on the other sides than that of the alignment, and an odd one behind a centred text. -/
inductive Pads (spec : Spec) (text : Text) : Text → Prop where
  | zeros (on : spec.zero = true) :
      Pads spec text ((parted text).1 ++ (List.replicate (spec.width - text.length) '0' ++ (parted text).2))
  | left (off : spec.zero = false) (aligned : spec.align = some .left) :
      Pads spec text (text ++ List.replicate (spec.width - text.length) spec.fill)
  | right (off : spec.zero = false) (aligned : spec.align = some .right ∨ spec.align = none) :
      Pads spec text (List.replicate (spec.width - text.length) spec.fill ++ text)
  | center (off : spec.zero = false) (aligned : spec.align = some .center) {before behind : Nat}
      (all : before + behind = spec.width - text.length) (split : behind = before ∨ behind = before + 1) :
      Pads spec text (List.replicate before spec.fill ++ text ++ List.replicate behind spec.fill)

theorem Pads.length_eq (h : spec.Pads text field) : field.length = max spec.width text.length := by
  have hparts : (parted text).1.length + (parted text).2.length = text.length := by
    rw [← List.length_append, parted_append]
  cases h with
  | zeros on =>
    simp only [List.length_append, List.length_replicate]
    omega
  | left off aligned =>
    simp only [List.length_append, List.length_replicate]
    omega
  | right off aligned =>
    simp only [List.length_append, List.length_replicate]
    omega
  | center off aligned all split =>
    simp only [List.length_append, List.length_replicate]
    omega

theorem leading_of_left (h : spec.align = some .left) (missing : Nat) : spec.leading missing = 0 := by
  rw [leading, h]

theorem leading_of_right (h : spec.align = some .right ∨ spec.align = none) (missing : Nat) :
    spec.leading missing = missing := by
  rcases h with h | h <;> rw [leading, h]

theorem leading_of_center (h : spec.align = some .center) {before behind : Nat}
    (split : behind = before ∨ behind = before + 1) : spec.leading (before + behind) = before := by
  rw [leading, h]
  show (before + behind) / 2 = before
  omega

/-- The field without the characters that were missing to it. -/
def strip (spec : Spec) (missing : Nat) (field : Text) : Text :=
  if spec.zero then (parted field).1 ++ (parted field).2.drop missing
  else (field.drop (spec.leading missing)).take (field.length - missing)

/-- Without what fills it up, a field is its text. -/
theorem Pads.strip_eq (h : spec.Pads text field) : spec.strip (field.length - text.length) field = text := by
  have hlength := h.length_eq
  have hmissing : field.length - text.length = spec.width - text.length := by omega
  have hrest : field.length - (spec.width - text.length) = text.length := by omega
  rw [hmissing, strip, hrest]
  cases h with
  | zeros on => rw [if_pos on, parted_zeros, List.drop_left' List.length_replicate, parted_append]
  | left off aligned =>
    rw [if_neg (Bool.eq_false_iff.1 off), leading_of_left aligned, List.drop_zero, List.take_left' rfl]
  | right off aligned =>
    rw [if_neg (Bool.eq_false_iff.1 off), leading_of_right aligned, List.drop_left' List.length_replicate,
      List.take_length]
  | center off aligned all split =>
    rw [if_neg (Bool.eq_false_iff.1 off), ← all, leading_of_center aligned split, List.append_assoc,
      List.drop_left' List.length_replicate, List.take_left' rfl]

/-! ### What is written -/

theorem pad_of_zero (h : spec.zero = true) (sign body : Text) :
    spec.pad sign body = sign ++ (List.replicate (spec.width - (sign ++ body).length) '0' ++ body) := by
  rw [pad, if_pos h, List.length_append]

theorem pad_of_fill (h : spec.zero = false) (sign body : Text) :
    spec.pad sign body =
      List.replicate (spec.leading (spec.width - (sign ++ body).length)) spec.fill ++ (sign ++ body) ++
        List.replicate (spec.width - (sign ++ body).length - spec.leading (spec.width - (sign ++ body).length))
          spec.fill := by
  rw [pad, if_neg (Bool.eq_false_iff.1 h), List.length_append]

theorem pads_pad (text : Text) : spec.Pads text (spec.pad (parted text).1 (parted text).2) := by
  cases hzero : spec.zero with
  | true =>
    rw [pad_of_zero hzero, parted_append]
    exact .zeros hzero
  | false =>
    rw [pad_of_fill hzero, parted_append]
    cases halign : spec.align with
    | none =>
      rw [leading_of_right (.inr halign), Nat.sub_self, List.replicate_zero, List.append_nil]
      exact .right hzero (.inr halign)
    | some align =>
      cases align with
      | left =>
        rw [leading_of_left halign, Nat.sub_zero, List.replicate_zero, List.nil_append]
        exact .left hzero halign
      | center =>
        have hleading : spec.leading (spec.width - text.length) = (spec.width - text.length) / 2 := by
          rw [leading, halign]
        rw [hleading]
        exact .center hzero halign (by omega) (by omega)
      | right =>
        rw [leading_of_right (.inl halign), Nat.sub_self, List.replicate_zero, List.append_nil]
        exact .right hzero (.inl halign)

/-- **A text has one field, which is what is written for its sign and its rest.** -/
theorem pads_iff : spec.Pads text field ↔ field = spec.pad (parted text).1 (parted text).2 := by
  refine ⟨fun h => ?_, fun h => h ▸ pads_pad text⟩
  cases h with
  | zeros on => rw [pad_of_zero on, parted_append]
  | left off aligned =>
    rw [pad_of_fill off, parted_append, leading_of_left aligned, List.replicate_zero, List.nil_append,
      Nat.sub_zero]
  | right off aligned =>
    rw [pad_of_fill off, parted_append, leading_of_right aligned, Nat.sub_self, List.replicate_zero,
      List.append_nil]
  | center off aligned all split =>
    rw [pad_of_fill off, parted_append, ← all, leading_of_center aligned split, Nat.add_sub_cancel_left]

/-- What is written for a number is the field of its unpadded text. -/
theorem pads_iff_of_parted {sign body : Text} (h : parted (sign ++ body) = (sign, body)) :
    spec.Pads (spec.narrow.pad sign body) field ↔ field = spec.pad sign body := by
  rw [show spec.narrow.pad sign body = sign ++ body from pad_of_width_le (Nat.zero_le _), pads_iff, h]

/-! ### Length and line breaks -/

theorem no_break_append {s t : Text} (hs : '\n' ∉ s) (ht : '\n' ∉ t) : '\n' ∉ s ++ t :=
  fun h => (List.mem_append.1 h).elim hs ht

theorem no_break_sign (spec : Spec) {negative : Bool} : '\n' ∉ spec.sign negative := by
  rw [sign]
  cases negative <;> cases spec.plus <;> decide

/-- The text is the unpadded one in two parts, laid out, and neither part breaks a line. -/
def LaysOut (spec : Spec) (unpadded text : Text) : Prop :=
  ∃ front body, unpadded = front ++ body ∧ text = spec.pad front body ∧ '\n' ∉ front ++ body

/-- The number of line breaks that a format fills a field up with. -/
def breaks (spec : Spec) (missing : Nat) : Nat := if spec.zero = false ∧ spec.fill = '\n' then missing else 0

theorem LaysOut.length_eq {unpadded : Text} (h : spec.LaysOut unpadded text) :
    text.length = max spec.width unpadded.length := by
  obtain ⟨front, body, rfl, rfl, -⟩ := h
  rw [pad_length, List.length_append]

/-- A laid out text has the line breaks of its fill and no other. -/
theorem LaysOut.count_break {unpadded : Text} (h : spec.LaysOut unpadded text) :
    text.count '\n' = spec.breaks (spec.width - unpadded.length) := by
  obtain ⟨front, body, rfl, rfl, hline⟩ := h
  have hnone : front.count '\n' + body.count '\n' = 0 := by
    rw [← List.count_append]
    exact List.count_eq_zero_of_not_mem hline
  have hbound := spec.leading_le (spec.width - (front ++ body).length)
  cases hzero : spec.zero with
  | true =>
    rw [pad_of_zero hzero, breaks, if_neg fun on => by rw [hzero] at on; cases on.1]
    have hzeros : ∀ count, (List.replicate count '0').count '\n' = 0 := fun count =>
      List.count_eq_zero_of_not_mem fun h => absurd (List.eq_of_mem_replicate h) (by decide)
    rw [List.count_append, List.count_append, hzeros, Nat.zero_add]
    exact hnone
  | false =>
    rw [pad_of_fill hzero, breaks]
    simp only [List.count_append, List.count_replicate, beq_iff_eq, hzero, true_and]
    split <;> omega

end Spec

/-! ### Reading integers -/

section

variable {spec : Spec} {text field : Text}

/-- The character is one of those that fill the fields of integers. -/
def isFilling (c : Char) : Bool := [' ', '*', '·'].contains c

/-- The integer of a text, with a sign or without. -/
def signedOf? (text : Text) : Option Int :=
  (Decimal.toNat? (parted text).2).map fun n : Nat => if (parted text).1 = ['-'] then -(n : Int) else (n : Int)

/-- The integer in a field, whatever the format. -/
def integerOf? (field : Text) : Option Int := signedOf? (field.filter (!isFilling ·))

/-- What fills the field of a text does not change the integer that is read, if it cannot be taken for a part
of the text. -/
theorem Spec.Pads.integerOf?_eq (h : spec.Pads text field) (hfill : isFilling spec.fill = true)
    (htext : ∀ c ∈ text, isFilling c = false) (hdigits : (parted text).2 ≠ []) :
    integerOf? field = signedOf? text := by
  have hkeep : ∀ {kept : Text}, (∀ c ∈ kept, isFilling c = false) → kept.filter (!isFilling ·) = kept :=
    fun hkept => List.filter_eq_self.2 fun c hc => by rw [hkept c hc]; rfl
  have hdrop : ∀ count, (List.replicate count spec.fill).filter (!isFilling ·) = [] := fun count =>
    List.filter_eq_nil_iff.2 fun c hc => by rw [List.eq_of_mem_replicate hc, hfill]; decide
  rw [integerOf?]
  cases h with
  | zeros on =>
    -- zeros stay, and only the value of the digits behind the sign does not change
    have hparts : ∀ c, c ∈ (parted text).1 ∨ c ∈ (parted text).2 → isFilling c = false := by
      intro c hc
      refine htext c ?_
      rw [← parted_append text]
      exact List.mem_append.2 hc
    rw [hkeep, signedOf?, parted_zeros, Decimal.toNat?_zeros_append _ hdigits, signedOf?]
    intro c hc
    rcases List.mem_append.1 hc with hsign | hrest
    · exact hparts c (.inl hsign)
    · rcases List.mem_append.1 hrest with hzeros | hnumber
      · rw [List.eq_of_mem_replicate hzeros]
        decide
      · exact hparts c (.inr hnumber)
  | left off aligned => rw [List.filter_append, hkeep htext, hdrop, List.append_nil]
  | right off aligned => rw [List.filter_append, hkeep htext, hdrop, List.nil_append]
  | center off aligned all split =>
    rw [List.filter_append, List.filter_append, hkeep htext, hdrop, hdrop, List.append_nil, List.nil_append]

theorem not_isFilling_of_isDigit {c : Char} (h : c.isDigit = true) : isFilling c = false := by
  have hnone : [' ', '*', '·'].all (fun d => !d.isDigit) = true := by decide
  refine Bool.eq_false_iff.2 fun hfilling => ?_
  have hdigit := List.all_eq_true.1 hnone c (List.contains_iff_mem.1 hfilling)
  rw [h] at hdigit
  cases hdigit

theorem unsigned_ofNat (n : Nat) : Unsigned (Decimal.ofNat n) := by
  obtain ⟨c, rest, hdigits, hc⟩ := Decimal.ofNat_eq_cons n
  rw [hdigits]
  exact unsigned_of_isDigit hc rest

theorem Spec.sign_eq_minus_iff {negative : Bool} : spec.sign negative = ['-'] ↔ negative = true := by
  cases negative with
  | true => exact ⟨fun _ => rfl, fun _ => rfl⟩
  | false =>
    rw [Spec.sign]
    cases spec.plus <;> decide

/-- Of the text of an integer the sign comes first, if it has one. -/
theorem parted_decimal (spec : Spec) (n : Int) :
    parted (spec.sign (n < 0) ++ Decimal.ofNat n.natAbs) = (spec.sign (n < 0), Decimal.ofNat n.natAbs) :=
  parted_sign_append spec (n < 0) (unsigned_ofNat n.natAbs)

/-- **An integer is read from its field**, whatever its width, its sign, its alignment, and its zeros. -/
theorem integerOf?_decimal (hfill : isFilling spec.fill = true) (n : Int) :
    integerOf? (spec.decimal n) = some n := by
  have hparted := parted_decimal spec n
  have hpads : spec.Pads (spec.sign (n < 0) ++ Decimal.ofNat n.natAbs) (spec.decimal n) :=
    Spec.pads_iff.2 (by rw [hparted]; rfl)
  have htext : ∀ c ∈ spec.sign (n < 0) ++ Decimal.ofNat n.natAbs, isFilling c = false := by
    intro c hc
    rcases List.mem_append.1 hc with hsign | hdigits
    · have hsigns : ∀ negative, (spec.sign negative).all (!isFilling ·) = true := by
        intro negative
        rw [Spec.sign]
        cases negative <;> cases spec.plus <;> decide
      exact Bool.not_inj (List.all_eq_true.1 (hsigns _) c hsign)
    · exact not_isFilling_of_isDigit (Decimal.isDigit_of_mem_ofNat hdigits)
  rw [hpads.integerOf?_eq hfill htext (by rw [hparted]; exact Decimal.ofNat_ne_nil _), signedOf?, hparted,
    Decimal.toNat?_ofNat, Option.map_some]
  refine congrArg some ?_
  by_cases hnegative : n < 0
  · rw [if_pos (Spec.sign_eq_minus_iff.2 (decide_eq_true hnegative))]
    omega
  · rw [if_neg fun hminus => hnegative (of_decide_eq_true (Spec.sign_eq_minus_iff.1 hminus))]
    omega

end

/-! ### Other digits -/

namespace Spec

variable {spec : Spec}

/-- By induction on the digits, the last of them first. -/
theorem isAlphanum_of_mem_toDigits {n : Nat} {c : Char} (h : c ∈ Nat.toDigits 16 n) :
    c.isAlphanum = true ∧ c.toUpper.isAlphanum = true := by
  have hdigit : ∀ d : Fin 16, d.val.digitChar.isAlphanum = true ∧ d.val.digitChar.toUpper.isAlphanum = true := by
    decide
  induction n using Nat.strongRecOn with
  | ind n ih =>
    by_cases small : n < 16
    · rw [Nat.toDigits_of_lt_base small] at h
      rw [List.mem_singleton.1 h]
      exact hdigit ⟨n, small⟩
    · rw [Nat.toDigits_of_base_le (by decide) (by omega)] at h
      rcases List.mem_append.1 h with hfront | hlast
      · exact ih (n / 16) (by omega) hfront
      · rw [List.mem_singleton.1 hlast]
        exact hdigit ⟨n % 16, Nat.mod_lt n (by decide)⟩

theorem isAlphanum_of_mem_hexDigits {upper : Bool} {n : Nat} {c : Char} (h : c ∈ hexDigits upper n) :
    c.isAlphanum = true := by
  obtain ⟨d, hd, rfl⟩ := List.mem_map.1 h
  obtain ⟨lower, capital⟩ := isAlphanum_of_mem_toDigits hd
  split
  · exact capital
  · exact lower

theorem unsigned_hexDigits (upper : Bool) (n : Nat) : Unsigned (hexDigits upper n) := by
  match h : hexDigits upper n with
  | [] => rfl
  | c :: rest => exact unsigned_of_isAlphanum (isAlphanum_of_mem_hexDigits (h ▸ List.mem_cons_self)) rest

theorem laysOut_decimal (spec : Spec) (n : Int) : spec.LaysOut (spec.narrow.decimal n) (spec.decimal n) :=
  ⟨_, _, pad_of_width_le (Nat.zero_le _), rfl, no_break_append spec.no_break_sign
    fun h => absurd (Decimal.isDigit_of_mem_ofNat h) (by decide)⟩

theorem laysOut_hexadecimal (spec : Spec) (upper : Bool) (bits : Nat) (n : Int) :
    spec.LaysOut (spec.narrow.hexadecimal upper bits n) (spec.hexadecimal upper bits n) := by
  refine ⟨_, _, pad_of_width_le (Nat.zero_le _), rfl, no_break_append (no_break_append spec.no_break_sign ?_)
    fun h => absurd (isAlphanum_of_mem_hexDigits h) (by decide)⟩
  split <;> decide

/-- **An integer is laid out**, whatever its digits. -/
theorem laysOut_integer (spec : Spec) (bits : Nat) (n : Int) :
    spec.LaysOut (spec.narrow.integer bits n) (spec.integer bits n) := by
  rw [integer, integer, show spec.narrow.style = spec.style from rfl, show spec.narrow.digits = spec.digits from rfl]
  split
  · exact laysOut_decimal spec n
  · exact laysOut_decimal spec n
  · exact laysOut_hexadecimal spec _ bits n

/-- **An integer is written into its field.**  Where a mark stands before hexadecimal digits, it stands before the
zeros as well, and the field is another one. -/
theorem pads_iff_integer (h : spec.digits = .decimal ∨ spec.style ≠ .pretty) (bits : Nat) (n : Int) {field : Text} :
    spec.Pads (spec.narrow.integer bits n) field ↔ field = spec.integer bits n := by
  have hdecimal : spec.Pads (spec.narrow.decimal n) field ↔ field = spec.decimal n :=
    pads_iff_of_parted (parted_decimal spec n)
  rw [integer, integer, show spec.narrow.style = spec.style from rfl, show spec.narrow.digits = spec.digits from rfl]
  split
  · exact hdecimal
  · exact hdecimal
  · next upper hdigits _ =>
    have hpretty : spec.style ≠ .pretty := h.resolve_left fun decimal => by cases hdigits.symm.trans decimal
    rw [hexadecimal, hexadecimal, if_neg hpretty, if_neg (show spec.narrow.style ≠ .pretty from hpretty),
      List.append_nil, List.append_nil]
    exact pads_iff_of_parted (parted_sign_append spec false (unsigned_hexDigits upper _))

end Spec

end Dimensional.Format
