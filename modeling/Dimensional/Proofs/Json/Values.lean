import Dimensional.Proofs.Json.Numbers
import Dimensional.Proofs.Json.Strings

/-!
# Written values are read in place

What a reader makes of a value does not depend on what follows it, as long as that does not continue a
number. The readers of scalars never look into a list or an object, and only those of 128 bits stop inside
a number.

* `find_value` — the type of a value is told from the value;
* `readScalar_value` — so is the scalar, and what is left of it.
-/

namespace Dimensional.Json

/-! ### Types -/

/-- What the first character of a value says about it. -/
structure Value.Opens (v : Value) (c : Char) : Prop where
  notBlank : isBlank c = false
  notBracket : c ≠ ']'
  notComma : c ≠ ','
  number : StartsNumber c → ∃ n, v = .number n
  array : c = '[' → ∃ lead items, v = .array lead items
  object : c = openBrace → ∃ lead members, v = .object lead members

theorem Value.text_eq_cons (v : Value) : ∃ c more, v.text = c :: more ∧ v.Opens c := by
  have hother : ∀ {P : Prop} {c : Char}, c ≠ '-' ∧ c.isDigit = false → StartsNumber c → P :=
    fun hc hstart => absurd rfl (ne_of_startsNumber hstart hc)
  cases v with
  | null =>
    exact ⟨_, _, rfl, by decide, by decide, by decide, hother (by decide), (absurd · (by decide)),
      (absurd · (by decide))⟩
  | boolean b =>
    cases b <;> exact ⟨_, _, rfl, by decide, by decide, by decide, hother (by decide),
      (absurd · (by decide)), (absurd · (by decide))⟩
  | number n =>
    obtain ⟨c, more, hshape, hstart⟩ := n.text_eq_cons
    have hne : ∀ d : Char, d ≠ '-' ∧ d.isDigit = false → c ≠ d := fun d => ne_of_startsNumber hstart
    exact ⟨c, more, hshape, notBlank_of_startsNumber hstart, hne _ (by decide), hne _ (by decide),
      fun _ => ⟨n, rfl⟩, (absurd · (hne _ (by decide))), (absurd · (hne _ (by decide)))⟩
  | string s =>
    exact ⟨_, _, rfl, by decide, by decide, by decide, hother (by decide), (absurd · (by decide)),
      (absurd · (by decide))⟩
  | array lead items =>
    exact ⟨_, _, rfl, by decide, by decide, by decide, hother (by decide), fun _ => ⟨lead, items, rfl⟩,
      (absurd · (by decide))⟩
  | object lead members =>
    exact ⟨_, _, rfl, by decide, by decide, by decide, hother (by decide), (absurd · (by decide)),
      fun _ => ⟨lead, members, rfl⟩⟩

section Reals

variable (reals : RealReader)

theorem find_cons_of_startsNumber {c : Char} (h : StartsNumber c) (more : Text) :
    find reals (c :: more) = (Numeral.read (c :: more)).bind fun r => r.1.found reals := by
  have hne : ∀ d : Char, d ≠ '-' ∧ d.isDigit = false → c ≠ d := fun d => ne_of_startsNumber h
  unfold find
  split
  · next heq => cases heq
  · next heq => exact absurd (List.cons.inj heq).1 (hne _ (by decide))
  · next heq => exact absurd (List.cons.inj heq).1 (hne _ (by decide))
  · next heq => exact absurd (List.cons.inj heq).1 (hne _ (by decide))
  · next heq => exact absurd (List.cons.inj heq).1 (hne _ (by decide))
  · next heq =>
    obtain ⟨rfl, rfl⟩ := List.cons.inj heq
    rw [if_neg (hne _ (by decide)), if_neg (hne _ (by decide))]
    exact if_pos h

theorem find_number (n : Number) {rest : Text} (h : EndsNumber rest) :
    find reals (n.text ++ rest) = n.numeral.found reals := by
  have hread := n.read_text h
  obtain ⟨c, more, hshape, hstart⟩ := n.text_eq_cons
  rw [hshape] at hread ⊢
  rw [List.cons_append, find_cons_of_startsNumber reals hstart, ← List.cons_append, hread]
  rfl

theorem find_quoted (s : Spelling) (rest : Text) :
    find reals (s.quoted ++ rest) = s.decode.map Found.string := by
  have htext : s.quoted ++ rest = '\x22' :: (s.text ++ '\x22' :: rest) := by
    rw [Spelling.quoted, List.cons_append, List.append_assoc]
    rfl
  have hfind : find reals ('\x22' :: (s.text ++ '\x22' :: rest)) =
      (Quoted.read (s.text ++ '\x22' :: rest)).map fun r => .string r.1 := rfl
  rw [htext, hfind, read_spelling]
  cases s.decode <;> rfl

/-- **The type of a value is told from the value.** -/
theorem find_value (v : Value) {rest : Text} (h : EndsNumber rest) :
    find reals (v.text ++ rest) = find reals v.text := by
  cases v with
  | null => rfl
  | boolean b => cases b <;> rfl
  | number n =>
    have halone := find_number reals n endsNumber_nil
    rw [List.append_nil] at halone
    exact (find_number reals n h).trans halone.symm
  | string s =>
    have halone := find_quoted reals s []
    rw [List.append_nil] at halone
    exact (find_quoted reals s rest).trans halone.symm
  | array lead items => rfl
  | object lead members => rfl

/-! ### Scalars -/

/-- What can be left of a number that is read as an integer: nothing, or what makes it none. -/
def IsLeftover (left : Text) : Prop := ∀ c more, left = c :: more → c = '.' ∨ c = 'e' ∨ c = 'E'

theorem isLeftover_nil : IsLeftover [] := by
  intro c more h
  cases h

theorem Number.isLeftover (n : Number) : IsLeftover (n.decimalsText ++ n.powerText) := by
  intro c more hshape
  rw [decimalsText, powerText] at hshape
  split at hshape
  · split at hshape
    · cases hshape
    · next p _ =>
      obtain ⟨rfl, -⟩ := List.cons.inj hshape
      cases p.capital <;> decide
  · obtain ⟨rfl, -⟩ := List.cons.inj hshape
    decide

theorem readScalar_number (k : ScalarKind) (n : Number) :
    ∃ (x : Except Error (Scalar k)) (left : Text), IsLeftover left ∧ ∀ rest, EndsNumber rest →
      readScalar reals k (n.text ++ rest) = x.map fun a => (a, left ++ rest) := by
  cases k with
  | float p => exact ⟨_, [], isLeftover_nil, fun rest h => readReal_number reals p n h⟩
  | int k =>
    by_cases hlong : k.width = .w128
    · exact ⟨_, _, n.isLeftover, fun rest h => (if_pos hlong).trans (readLongInteger_number k n h)⟩
    · exact ⟨_, [], isLeftover_nil, fun rest h => (if_neg hlong).trans (readShortInteger_number reals k n h)⟩

theorem readNumeral_other {v : Value} (h : ¬ ∃ n, v = .number n) (wanted : Wanted) {rest : Text}
    (hrest : EndsNumber rest) : readNumeral reals wanted (v.text ++ rest) = .error (wrongType reals wanted v.text) := by
  have hfind := find_value reals v hrest
  obtain ⟨c, more, hshape, hopens⟩ := v.text_eq_cons
  rw [wrongType, ← hfind, hshape, List.cons_append, readNumeral, skipBlanks_of_not_blank hopens.notBlank]
  exact if_neg fun hstart => h (hopens.number hstart)

theorem readLongInteger_other {v : Value} (h : ¬ ∃ n, v = .number n) (k : IntKind) (rest : Text) :
    readLongInteger k (v.text ++ rest) = .error .invalidNumber := by
  obtain ⟨c, more, hshape, hopens⟩ := v.text_eq_cons
  have hdash : c ≠ '-' := fun hc => h (hopens.number (.inl hc))
  have hdigit : c.isDigit = false := Bool.eq_false_iff.2 fun hc => h (hopens.number (.inr hc))
  have hspan : ([] ++ c :: (more ++ rest)).span Char.isDigit = ([], c :: (more ++ rest)) :=
    span_isDigit (List.forall_mem_nil _) fun d _ hd => (List.cons.inj hd).1 ▸ hdigit
  rw [hshape, List.cons_append, readLongInteger, skipBlanks_of_not_blank hopens.notBlank]
  simp only [if_neg (fun hc : c = '-' ∧ _ => hdash hc.1), sign_of_not_dash hdash]
  rw [← List.nil_append (c :: (more ++ rest)), hspan]

theorem readScalar_other {v : Value} (h : ¬ ∃ n, v = .number n) (k : ScalarKind) :
    ∃ e, ∀ rest, EndsNumber rest → readScalar reals k (v.text ++ rest) = .error e := by
  cases k with
  | float p => exact ⟨_, fun rest hrest => bind_of_error (readNumeral_other reals h _ hrest) _⟩
  | int k =>
    by_cases hlong : k.width = .w128
    · exact ⟨_, fun rest _ => (if_pos hlong).trans (readLongInteger_other h k rest)⟩
    · exact ⟨_, fun rest hrest =>
        (if_neg hlong).trans (bind_of_error (readNumeral_other reals h _ hrest) _)⟩

/-- **A scalar is read in place**: the value alone decides what it is and what is left of it. -/
theorem readScalar_value (k : ScalarKind) (v : Value) :
    ∃ (x : Except Error (Scalar k)) (left : Text), IsLeftover left ∧ ∀ rest, EndsNumber rest →
      readScalar reals k (v.text ++ rest) = x.map fun a => (a, left ++ rest) := by
  by_cases hnumber : ∃ n, v = .number n
  · obtain ⟨n, rfl⟩ := hnumber
    exact readScalar_number reals k n
  · obtain ⟨e, he⟩ := readScalar_other reals hnumber k
    exact ⟨.error e, [], isLeftover_nil, he⟩

/-! ### What a value stands for -/

/-- The scalar that a value stands for. What is left of a number stands where the value should have ended. -/
def Value.scalar (k : ScalarKind) (v : Value) : Except Error (Scalar k) := do
  let (a, left) ← readScalar reals k v.text
  if left.isEmpty then return a else .error .expectedCommaOrBrace

/-- The eight exponents that a value lists. No more than eight items are looked at. -/
def Value.exponents : Value → Except Error Exponents
  | .array _ items => do
    let ns ← (items.take 8).mapM fun item => item.body.scalar reals (.int .i32)
    match PerAxis.ofList? ns with
    | some e => if items.length = 8 then return e else .error .trailingCharacters
    | none => .error (.wrongLength ns.length .exponents)
  | v => .error (wrongType reals .exponents v.text)

/-- What a reader of scalars does at a value: it takes the scalar, or stops with an error, or takes less
than the whole value. -/
theorem scalar_cases (k : ScalarKind) (v : Value) :
    (∃ a, v.scalar reals k = .ok a ∧ ∀ rest, EndsNumber rest → readScalar reals k (v.text ++ rest) = .ok (a, rest)) ∨
    (∃ e, v.scalar reals k = .error e ∧ ∀ rest, EndsNumber rest → readScalar reals k (v.text ++ rest) = .error e) ∨
    (v.scalar reals k = .error .expectedCommaOrBrace ∧ ∃ a c left, IsLeftover (c :: left) ∧
      ∀ rest, EndsNumber rest → readScalar reals k (v.text ++ rest) = .ok (a, c :: (left ++ rest))) := by
  obtain ⟨x, left, hleft, hread⟩ := readScalar_value reals k v
  have halone := hread [] endsNumber_nil
  rw [List.append_nil, List.append_nil] at halone
  cases x with
  | error e => exact .inr (.inl ⟨e, bind_of_error halone _, hread⟩)
  | ok a =>
    cases left with
    | nil => exact .inl ⟨a, bind_of_ok halone _, hread⟩
    | cons c left => exact .inr (.inr ⟨bind_of_ok halone _, a, c, left, hleft, hread⟩)

end Reals

section Stands

variable {reals : RealReader} {k : ScalarKind} {v : Value}

theorem isLeftover_of_readScalar {a : Scalar k} {left : Text}
    (h : readScalar reals k v.text = .ok (a, left)) : IsLeftover left := by
  obtain ⟨x, left', hleft, hread⟩ := readScalar_value reals k v
  have halone := hread [] endsNumber_nil
  rw [List.append_nil, List.append_nil, h] at halone
  cases x with
  | error e => cases halone
  | ok b =>
    cases halone
    exact hleft

/-- A value stands for a scalar when nothing of it is left. -/
theorem scalar_eq_ok {a : Scalar k} :
    v.scalar reals k = .ok a ↔ readScalar reals k v.text = .ok (a, []) := by
  constructor
  · intro h
    obtain ⟨⟨b, left⟩, hread, h⟩ := bind_eq_ok.1 h
    cases left with
    | nil =>
      cases h
      exact hread
    | cons c left => cases h
  · intro h
    exact bind_of_ok h _

/-- A value of which nothing is left stands for what was read. -/
theorem scalar_of_read {x : Except Error (Scalar k)}
    (h : readScalar reals k v.text = x.map fun a => (a, [])) : v.scalar reals k = x := by
  cases x with
  | error e => exact bind_of_error h _
  | ok a => exact bind_of_ok h _

end Stands

/-- A reader of at most 64 bits leaves nothing of a value. -/
theorem readInteger_value (reals : RealReader) {k : IntKind} (hshort : k.width ≠ .w128) (v : Value) {rest : Text}
    (hrest : EndsNumber rest) :
    readInteger reals k (v.text ++ rest) = (v.scalar reals (.int k)).map fun a => (a, rest) := by
  have hread : ∃ x : Except Error (Fixed k), ∀ rest, EndsNumber rest →
      readInteger reals k (v.text ++ rest) = x.map fun a => (a, rest) := by
    by_cases hnumber : ∃ n, v = .number n
    · obtain ⟨n, rfl⟩ := hnumber
      exact ⟨_, fun rest h => (if_neg hshort).trans (readShortInteger_number reals k n h)⟩
    · obtain ⟨e, he⟩ := readScalar_other reals hnumber (.int k)
      exact ⟨.error e, he⟩
  obtain ⟨x, hx⟩ := hread
  have halone := hx [] endsNumber_nil
  rw [List.append_nil] at halone
  rw [hx rest hrest, scalar_of_read (k := .int k) halone]

/-! ### Blanks and separators -/

theorem skipBlanks_blanks (b : Blanks) (cs : Text) : skipBlanks (b.text ++ cs) = skipBlanks cs :=
  List.dropWhile_append_of_pos b.blank

/-- Blanks in front of a scalar are skipped. -/
theorem readScalar_blanks (reals : RealReader) (k : ScalarKind) (b : Blanks) (cs : Text) :
    readScalar reals k (b.text ++ cs) = readScalar reals k cs := by
  have hnumeral : ∀ wanted, readNumeral reals wanted (b.text ++ cs) = readNumeral reals wanted cs := by
    intro wanted
    rw [readNumeral, skipBlanks_blanks]
    rfl
  have hlong : ∀ k, readLongInteger k (b.text ++ cs) = readLongInteger k cs := by
    intro k
    rw [readLongInteger, skipBlanks_blanks]
    rfl
  cases k with
  | float p => simp only [readScalar, readReal, hnumeral]
  | int k => simp only [readScalar, readInteger, readShortInteger, hnumeral, hlong]

theorem isBlank_cases {c : Char} (h : isBlank c = true) : c = ' ' ∨ c = '\t' ∨ c = '\n' ∨ c = '\r' := by
  simp only [isBlank, Bool.or_eq_true, beq_iff_eq] at h
  rcases h with ((h | h) | h) | h
  · exact .inl h
  · exact .inr (.inl h)
  · exact .inr (.inr (.inl h))
  · exact .inr (.inr (.inr h))

/-- Blanks end a number, if what follows them does. -/
theorem endsNumber_blanks (b : Blanks) {rest : Text} (h : EndsNumber rest) : EndsNumber (b.text ++ rest) := by
  cases hshape : b.text with
  | nil => exact h
  | cons c more =>
    refine endsNumber_cons _ ?_
    have hblank := b.blank c (hshape ▸ List.mem_cons_self)
    rcases isBlank_cases hblank with rfl | rfl | rfl | rfl <;> decide

/-- Texts with commas between them, and one in front of the first unless it begins the list. -/
def separated : Bool → List Text → Text
  | _, [] => []
  | first, t :: ts => (if first then t else ',' :: t) ++ separated false ts

theorem intercalate_eq_separated (ts : List Text) : [','].intercalate ts = separated true ts := by
  have htail : ∀ t ts, [','].intercalate (t :: ts) = t ++ separated false ts := by
    intro t ts
    induction ts generalizing t with
    | nil => rfl
    | cons u us ih =>
      have hcons : [','].intercalate (t :: u :: us) = t ++ ([','] ++ [','].intercalate (u :: us)) := rfl
      rw [hcons, ih u]
      rfl
  cases ts with
  | nil => rfl
  | cons t ts => exact htail t ts

theorem itemTexts_eq_map (items : List (Spaced Value)) : Value.itemTexts items = items.map Value.spacedText := by
  induction items with
  | nil => rfl
  | cons item items ih => rw [Value.itemTexts, ih, List.map_cons]

theorem memberTexts_eq_map (members : List (Spaced Spelling × Spaced Value)) :
    Value.memberTexts members = members.map Value.memberText := by
  induction members with
  | nil => rfl
  | cons m members ih => rw [Value.memberTexts, ih, List.map_cons]

end Dimensional.Json
