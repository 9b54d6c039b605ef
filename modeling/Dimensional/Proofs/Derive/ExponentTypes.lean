import Dimensional.Derive.Marker
import Dimensional.Integer.Fixed
import Dimensional.Proofs.Text.Decimal
import Mathlib.Data.List.TakeWhile

/-!
# Types that spell exponents

Every 32-bit exponent has a type under a path: `Z0` for zero, and else a letter for the sign with the
canonical decimal of the magnitude behind it.  The magnitude of the least exponent is no 32-bit exponent
itself, but an unsigned number of 32 bits.

* `Fixed.magnitude` — the magnitude of a signed value is an unsigned value of the same width;
* `words_extend`, `exponentWords_eq_words` — the type stands two segments behind the path;
* `treesOfText?_exponentName` — its name is one identifier;
* `namesExponent_iff` — an exponent has one name;
* `exponent_types_faithful` — the whole.
-/

namespace Dimensional

/-- The magnitude of a signed value. -/
def Fixed.magnitude {w : Width} (a : Fixed ⟨true, w⟩) : Fixed ⟨false, w⟩ where
  toInt := a.toInt.natAbs
  min_le := Int.natCast_nonneg _
  le_max := by
    obtain ⟨n, hmin, hmax⟩ := a
    cases w <;>
      simp only [IntKind.min, IntKind.max, Width.bits, Width.bytes, if_true, if_false, Bool.false_eq_true]
        at hmin hmax ⊢ <;>
      omega

namespace Derive

open Source

/-! ### The path of a type -/

/-- The path with these plain segments behind it. -/
def Path.extend (p : Path) (names : List Text) : Path :=
  { p with rest := p.rest ++ names.map fun name => ⟨.plain name, []⟩ }

theorem Path.words_extend (p : Path) (names : List Text) :
    (p.extend names).words = p.words ++ names.flatMap fun name => ["::".toList, name] := by
  have hsegment : ∀ name : Text, Segment.words ⟨.plain name, []⟩ = [name] := fun _ => rfl
  simp only [words, extend, List.flatMap_append, List.flatMap_map, hsegment, List.append_assoc]
  rfl

/-- The type that spells an exponent stands two segments behind the path. -/
theorem exponentWords_eq_words (p : Path) (n : Int) :
    exponentWords p n = (p.extend ["typenum".toList, exponentName n]).words := by
  rw [Path.words_extend]
  rfl

/-! ### The name of a type -/

/-- The name spells the exponent: `Z0` spells zero, and a letter for the sign with the canonical decimal of
the magnitude spells any other. -/
inductive NamesExponent : Text → Int → Prop where
  | zero : NamesExponent ['Z', '0'] 0
  | positive {digits : Text} {magnitude : Nat} (nonzero : 0 < magnitude)
      (canonical : Decimal.IsCanonical digits magnitude) : NamesExponent ('P' :: digits) magnitude
  | negative {digits : Text} {magnitude : Nat} (nonzero : 0 < magnitude)
      (canonical : Decimal.IsCanonical digits magnitude) : NamesExponent ('N' :: digits) (-magnitude)

theorem namesExponent_exponentName (n : Int) : NamesExponent (exponentName n) n := by
  have hcanonical := Decimal.isCanonical_ofNat n.natAbs
  by_cases hzero : n = 0
  · rw [hzero]
    exact .zero
  · have hnonzero : 0 < n.natAbs := Int.natAbs_pos.2 hzero
    by_cases hpositive : 0 < n
    · have hname := NamesExponent.positive hnonzero hcanonical
      rw [Int.natAbs_of_nonneg (Int.le_of_lt hpositive)] at hname
      rw [exponentName, if_neg hzero, if_pos hpositive]
      exact hname
    · have hname := NamesExponent.negative hnonzero hcanonical
      rw [Int.ofNat_natAbs_of_nonpos (Int.not_lt.1 hpositive), Int.neg_neg] at hname
      rw [exponentName, if_neg hzero, if_neg hpositive]
      exact hname

/-- **An exponent has one name**, and no two exponents share theirs. -/
theorem namesExponent_iff {t : Text} {n : Int} : NamesExponent t n ↔ t = exponentName n := by
  refine ⟨fun h => ?_, fun h => h ▸ namesExponent_exponentName n⟩
  cases h with
  | zero => rfl
  | @positive digits magnitude nonzero canonical =>
    have hpositive : (0 : Int) < magnitude := Int.natCast_pos.2 nonzero
    rw [exponentName, if_neg (Int.ne_of_gt hpositive), if_pos hpositive, Int.natAbs_natCast,
      Decimal.isCanonical_iff.1 canonical]
  | @negative digits magnitude nonzero canonical =>
    have hnegative : -(magnitude : Int) < 0 := by omega
    rw [exponentName, if_neg (Int.ne_of_lt hnegative), if_neg (Int.lt_asymm hnegative), Int.natAbs_neg,
      Int.natAbs_natCast, Decimal.isCanonical_iff.1 canonical]

/-- The digits of a name are those of an unsigned number of 32 bits. -/
theorem exponentName_eq_magnitude (n : Fixed .i32) :
    exponentName n.toInt =
      if n.toInt = 0 then ['Z', '0'] else (if 0 < n.toInt then 'P' else 'N') :: (Fixed.magnitude n).text := rfl

/-! ### The name as a token -/

/-- What a name begins with. -/
def IsInitial (c : Char) : Prop := c = 'Z' ∨ c = 'P' ∨ c = 'N'

theorem exponentName_eq_cons (n : Int) :
    ∃ c digits, exponentName n = c :: digits ∧ IsInitial c ∧ digits.all Char.isDigit = true := by
  have hdigits : (Decimal.ofNat n.natAbs).all Char.isDigit = true :=
    List.all_eq_true.2 fun _ h => Decimal.isDigit_of_mem_ofNat h
  rw [exponentName]
  split
  · exact ⟨_, _, rfl, .inl rfl, rfl⟩
  · split
    · exact ⟨_, _, rfl, .inr (.inl rfl), hdigits⟩
    · exact ⟨_, _, rfl, .inr (.inr rfl), hdigits⟩

theorem isContinue_of_isDigit {c : Char} (h : c.isDigit = true) : Identifier.isContinue c = true := by
  refine Identifier.isContinue_of_isAlphanum ?_ (by rw [Char.isAlphanum, h, Bool.or_true])
  rw [Char.isDigit, Bool.and_eq_true, decide_eq_true_iff, decide_eq_true_iff] at h
  have hnine : c.toNat ≤ 57 := h.2
  omega

/-- Digits go on with an identifier to the end. -/
theorem takeWhile_digits {digits : Text} (h : digits.all Char.isDigit = true) :
    digits.takeWhile Identifier.isContinue = digits :=
  List.takeWhile_eq_self_iff.2 fun d hd => isContinue_of_isDigit (List.all_eq_true.1 h d hd)

theorem dropWhile_digits {digits : Text} (h : digits.all Char.isDigit = true) :
    digits.dropWhile Identifier.isContinue = [] :=
  List.dropWhile_eq_nil_iff.2 fun d hd => isContinue_of_isDigit (List.all_eq_true.1 h d hd)

theorem takeLeaf_initial {c : Char} (h : IsInitial c) (rest : Text) :
    takeLeaf (c :: rest) =
      some (.ident (.plain (c :: rest.takeWhile Identifier.isContinue)), rest.dropWhile Identifier.isContinue) := by
  rcases h with rfl | rfl | rfl <;> rfl

/-- A name is read as one identifier. -/
theorem treesOfText?_exponentName (n : Int) :
    ∃ span, treesOfText? (exponentName n) = some [.ident (.plain (exponentName n)) span] := by
  obtain ⟨c, digits, hname, hinitial, hdigits⟩ := exponentName_eq_cons n
  have hleaf : takeLeaf (c :: digits) = some (.ident (.plain (c :: digits)), []) := by
    rw [takeLeaf_initial hinitial, takeWhile_digits hdigits, dropWhile_digits hdigits]
  have hmark : ¬ c.toNat = 0xfeff := by rcases hinitial with rfl | rfl | rfl <;> decide
  have hblank : skipBlank (c :: digits) = c :: digits := by rcases hinitial with rfl | rfl | rfl <;> rfl
  have hcomment : docComment? (c :: digits) = none := by rcases hinitial with rfl | rfl | rfl <;> rfl
  have hopening : takeOpening (c :: digits) = none := by rcases hinitial with rfl | rfl | rfl <;> rfl
  have hclosing : Delimiter.ofClosing? c = none := by rcases hinitial with rfl | rfl | rfl <;> rfl
  -- the first step takes the whole text as one leaf, and the second finds it used up
  rw [hname, treesOfText?, if_neg hmark, List.length_cons, treesFrom]
  simp only [hblank, hcomment, hopening, hclosing, hleaf]
  exact ⟨_, rfl⟩

/-- The language keeps no name for itself. -/
theorem isKeyword_exponentName (n : Int) : isKeyword (.plain (exponentName n)) = false := by
  obtain ⟨c, digits, hname, hinitial, -⟩ := exponentName_eq_cons n
  have hwords : keywords.all (fun word => word.toList.head? != some c) = true := by
    rcases hinitial with rfl | rfl | rfl <;> decide
  refine Bool.and_eq_false_iff.2 (.inr (List.any_eq_false.2 fun word hword hsame => ?_))
  refine bne_iff_ne.1 (List.all_eq_true.1 hwords word hword) ?_
  rw [eq_of_beq hsame]
  exact congrArg List.head? hname

/-! ### Different exponents -/

theorem intercalate_concat (separator : Text) {front : List Text} (h : front ≠ []) (last : Text) :
    separator.intercalate (front ++ [last]) = separator.intercalate front ++ (separator ++ last) := by
  induction front with
  | nil => exact absurd rfl h
  | cons t front ih =>
    cases front with
    | nil =>
      rw [List.singleton_append, List.intercalate_cons_cons, List.intercalate_singleton,
        List.intercalate_singleton, List.append_assoc]
    | cons u front =>
      rw [List.cons_append,
        List.intercalate_cons_of_ne_nil (List.append_ne_nil_of_right_ne_nil _ (List.cons_ne_nil _ _)),
        ih (List.cons_ne_nil u front), List.intercalate_cons_cons]
      simp only [List.append_assoc]

/-- What stands before the name is the same for all exponents. -/
theorem exponentWords_eq_concat (p : Path) (n : Int) :
    exponentWords p n = (p.words ++ ["::".toList, "typenum".toList, "::".toList]) ++ [exponentName n] := by
  rw [exponentWords, List.append_assoc]
  rfl

theorem exponentWords_inj {p : Path} {m n : Int} : exponentWords p m = exponentWords p n ↔ m = n := by
  refine ⟨fun h => ?_, fun h => h ▸ rfl⟩
  rw [exponentWords_eq_concat, exponentWords_eq_concat] at h
  exact exponentName_injective (List.cons.inj (List.append_cancel_left h)).1

theorem exponentText_inj {p : Path} {m n : Int} : exponentText p m = exponentText p n ↔ m = n := by
  refine ⟨fun h => ?_, fun h => h ▸ rfl⟩
  have hfront : p.words ++ ["::".toList, "typenum".toList, "::".toList] ≠ [] := fun hnil =>
    p.words_ne_nil (List.append_eq_nil_iff.1 hnil).1
  rw [exponentText, exponentText, exponentWords_eq_concat, exponentWords_eq_concat, intercalate_concat _ hfront,
    intercalate_concat _ hfront] at h
  exact exponentName_injective (List.append_cancel_left (List.append_cancel_left h))

/-- **The types spell the 32-bit exponents faithfully.**  Under every path an exponent has a type, two plain
segments behind the path, and different exponents have different types.  The last segment is the one name of
the exponent, which is read as one identifier and no keyword, and gives the exponent back; its digits are
those of the magnitude, an unsigned number of 32 bits even for the least exponent. -/
theorem exponent_types_faithful :
    (∀ (p : Path) (n : Fixed .i32),
      exponentWords p n.toInt = (p.extend ["typenum".toList, exponentName n.toInt]).words ∧
        exponentText p n.toInt = (p.extend ["typenum".toList, exponentName n.toInt]).text) ∧
    (∀ (n : Fixed .i32) (t : Text), NamesExponent t n.toInt ↔ t = exponentName n.toInt) ∧
    (∀ n : Fixed .i32, exponentName n.toInt =
      if n.toInt = 0 then ['Z', '0'] else (if 0 < n.toInt then 'P' else 'N') :: (Fixed.magnitude n).text) ∧
    (∀ n : Fixed .i32, (Fixed.magnitude n).toInt = n.toInt.natAbs) ∧
    (∀ n : Fixed .i32, isKeyword (.plain (exponentName n.toInt)) = false ∧
      ∃ span, treesOfText? (exponentName n.toInt) = some [.ident (.plain (exponentName n.toInt)) span]) ∧
    (∀ n : Fixed .i32, exponentOf? (exponentName n.toInt) = some n.toInt) ∧
    (∀ (p : Path) (m n : Fixed .i32),
      (exponentWords p m.toInt = exponentWords p n.toInt ↔ m = n) ∧
        (exponentText p m.toInt = exponentText p n.toInt ↔ m = n)) := by
  have hvalue : ∀ m n : Fixed .i32, m.toInt = n.toInt ↔ m = n := fun m n => ⟨Fixed.ext, fun h => h ▸ rfl⟩
  refine ⟨?_, fun n t => namesExponent_iff, exponentName_eq_magnitude, fun n => rfl, ?_,
    fun n => exponentOf?_exponentName n.toInt, ?_⟩
  · intro p n
    have hwords := exponentWords_eq_words p n.toInt
    exact ⟨hwords, congrArg (List.intercalate [' ']) hwords⟩
  · intro n
    exact ⟨isKeyword_exponentName n.toInt, treesOfText?_exponentName n.toInt⟩
  · intro p m n
    exact ⟨exponentWords_inj.trans (hvalue m n), exponentText_inj.trans (hvalue m n)⟩

/-- The least exponent of all. -/
example : exponentName (-2147483648) = "N2147483648".toList := by decide

end Derive

end Dimensional
