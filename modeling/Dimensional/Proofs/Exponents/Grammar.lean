import Dimensional.Dimension.Basic
import Mathlib.Data.List.Sort

/-!
# The grammar of printed vectors

A printed vector is `1`, or factors in basis order with a dot between any two: the symbol of an axis, and
behind a caret the exponent unless it is one.  Printing is one-to-one onto these texts:

* `Factor.ofText?_text`, `Powers.ofText?_text` — what is printed can be read;
* `Powers.factors_ofFactors`, `Powers.ofFactors_factors` — a vector is the list of its factors;
* `IsVectorText.text`, `IsVectorText.eq_text` — the printed vectors are the texts of the grammar.
-/

namespace Dimensional

/-! ### Factors -/

/-- A factor of a printed vector. -/
structure Factor where
  axis : Axis
  exponent : Int
  deriving DecidableEq

/-- The axis of a symbol. -/
def Axis.ofSymbol? (s : Text) : Option Axis := all.find? fun axis => axis.symbol.toList == s

theorem Axis.ofSymbol?_symbol (axis : Axis) : ofSymbol? axis.symbol.toList = some axis := by
  cases axis <;> decide

/-- A character of a symbol is a letter or a digit. -/
theorem Axis.isAlphanum_of_mem_symbol {axis : Axis} {c : Char} (h : c ∈ axis.symbol.toList) :
    c.isAlphanum = true := by
  have hall : axis.symbol.toList.all Char.isAlphanum = true := by cases axis <;> decide
  exact List.all_eq_true.1 hall c h

/-- A symbol begins with a letter. -/
theorem Axis.symbol_eq_cons (axis : Axis) : ∃ c more, axis.symbol.toList = c :: more ∧ c ≠ '1' := by
  cases axis <;> exact ⟨_, _, rfl, by decide⟩

namespace Factor

/-- The symbol alone for the exponent one, and else the symbol to a power. -/
def text (f : Factor) : Text :=
  if f.exponent = 1 then f.axis.symbol.toList
  else f.axis.symbol.toList ++ '^' :: Decimal.ofInt f.exponent

/-- The first factor has the earlier axis. -/
def Before (f g : Factor) : Prop := f.axis.index < g.axis.index

instance : Std.Irrefl Before := ⟨fun _ => Nat.lt_irrefl _⟩

instance : Std.Antisymm Before := ⟨fun _ _ h h' => absurd h (Nat.lt_asymm h')⟩

/-- The factor with this text. -/
def ofText? (t : Text) : Option Factor := do
  let axis ← Axis.ofSymbol? (t.takeWhile (· != '^'))
  match t.dropWhile (· != '^') with
  | [] => return ⟨axis, 1⟩
  | _ :: digits => return ⟨axis, ← Decimal.toInt? digits⟩

/-- What may stand in the text of a factor. -/
def IsPart (c : Char) : Prop := c.isAlphanum = true ∨ c = '^' ∨ c = '-'

theorem isPart_of_mem_ofInt {n : Int} {c : Char} (h : c ∈ Decimal.ofInt n) : IsPart c := by
  have hdigits : ∀ m, c ∈ Decimal.ofNat m → IsPart c := by
    intro m hmem
    have hdigit := Decimal.isDigit_of_mem_ofNat hmem
    exact .inl (by rw [Char.isAlphanum, hdigit, Bool.or_true])
  cases n with
  | ofNat m => exact hdigits m h
  | negSucc m =>
    rcases List.mem_cons.1 h with hdash | hmem
    · exact .inr (.inr hdash)
    · exact hdigits (m + 1) hmem

theorem isPart_of_mem_text {f : Factor} {c : Char} (h : c ∈ f.text) : IsPart c := by
  rw [text] at h
  split at h
  · exact .inl (Axis.isAlphanum_of_mem_symbol h)
  · rcases List.mem_append.1 h with hsymbol | hpower
    · exact .inl (Axis.isAlphanum_of_mem_symbol hsymbol)
    · rcases List.mem_cons.1 hpower with hcaret | hdigits
      · exact .inr (.inl hcaret)
      · exact isPart_of_mem_ofInt hdigits

theorem not_isPart {c : Char} (h : c.isAlphanum = false ∧ c ≠ '^' ∧ c ≠ '-') : ¬ IsPart c := by
  rintro (halphanum | hcaret | hdash)
  · rw [h.1] at halphanum
    cases halphanum
  · exact h.2.1 hcaret
  · exact h.2.2 hdash

/-- The caret, if there is one, ends the symbol. -/
theorem symbol_before_caret (axis : Axis) (rest : Text) :
    (axis.symbol.toList ++ '^' :: rest).takeWhile (· != '^') = axis.symbol.toList ∧
      (axis.symbol.toList ++ '^' :: rest).dropWhile (· != '^') = '^' :: rest := by
  cases axis <;> exact ⟨rfl, rfl⟩

theorem symbol_without_caret (axis : Axis) :
    axis.symbol.toList.takeWhile (· != '^') = axis.symbol.toList ∧
      axis.symbol.toList.dropWhile (· != '^') = [] := by
  cases axis <;> exact ⟨by decide, by decide⟩

/-- **A factor can be read from its text.** -/
theorem ofText?_text (f : Factor) : ofText? f.text = some f := by
  obtain ⟨axis, n⟩ := f
  rw [text]
  split
  · next hone =>
    have hn : n = 1 := hone
    obtain ⟨hsymbol, hrest⟩ := symbol_without_caret axis
    rw [ofText?, hsymbol, hrest, Axis.ofSymbol?_symbol, hn]
    rfl
  · obtain ⟨hsymbol, hrest⟩ := symbol_before_caret axis (Decimal.ofInt n)
    rw [ofText?, hsymbol, hrest, Axis.ofSymbol?_symbol]
    show (Decimal.toInt? (Decimal.ofInt n)).bind _ = _
    rw [Decimal.toInt?_ofInt]
    rfl

/-- Where a factor begins, `1` does not. -/
theorem text_ne_one (f : Factor) (rest : Text) : f.text ++ rest ≠ ['1'] := by
  obtain ⟨c, more, hsymbol, hletter⟩ := f.axis.symbol_eq_cons
  have hhead : ∃ tail, f.text ++ rest = c :: tail := by
    rw [text, hsymbol]
    split <;> exact ⟨_, rfl⟩
  obtain ⟨tail, htail⟩ := hhead
  rw [htail]
  exact fun h => hletter (List.cons.inj h).1

end Factor

/-! ### Vectors and their factors -/

namespace Powers

/-- The factors of a vector: the axes whose exponent is not zero. -/
def factors (v : Powers) : List Factor :=
  Axis.all.filterMap fun axis => if v.get axis = 0 then none else some ⟨axis, v.get axis⟩

/-- The vector with these factors. -/
def ofFactors (fs : List Factor) : Powers :=
  PerAxis.build fun axis => ((fs.find? fun f => f.axis = axis).map Factor.exponent).getD 0

theorem mem_factors {v : Powers} {f : Factor} :
    f ∈ v.factors ↔ v.get f.axis = f.exponent ∧ f.exponent ≠ 0 := by
  rw [factors, List.mem_filterMap]
  constructor
  · rintro ⟨axis, -, h⟩
    split at h
    · cases h
    · next hnonzero =>
      cases h
      exact ⟨rfl, hnonzero⟩
  · rintro ⟨hget, hnonzero⟩
    refine ⟨f.axis, f.axis.mem_all, ?_⟩
    rw [if_neg (by rw [hget]; exact hnonzero), hget]

theorem factors_ordered (v : Powers) : v.factors.Pairwise Factor.Before := by
  have hbasis : Axis.all.Pairwise fun a b => a.index < b.index := by decide
  refine List.pairwise_filterMap.2 (hbasis.imp fun hbefore f hf g hg => ?_)
  split at hf
  · cases hf
  · split at hg
    · cases hg
    · cases hf
      cases hg
      exact hbefore

/-- The factor on an axis, where the factors are in order. -/
theorem find?_of_mem {fs : List Factor} (hordered : fs.Pairwise Factor.Before) {f : Factor} (h : f ∈ fs) :
    (fs.find? fun g => g.axis = f.axis) = some f := by
  induction fs with
  | nil => cases h
  | cons g fs ih =>
    rw [List.pairwise_cons] at hordered
    rcases List.mem_cons.1 h with rfl | hmem
    · exact List.find?_cons_of_pos (decide_eq_true rfl)
    · have hbefore := hordered.1 f hmem
      have hother : ¬ decide (g.axis = f.axis) = true := by
        intro hsame
        rw [Factor.Before, of_decide_eq_true hsame] at hbefore
        exact Nat.lt_irrefl _ hbefore
      have hskip : ((g :: fs).find? fun g => g.axis = f.axis) = fs.find? fun g => g.axis = f.axis :=
        List.find?_cons_of_neg hother
      rw [hskip]
      exact ih hordered.2 hmem

theorem get_ofFactors {fs : List Factor} (hordered : fs.Pairwise Factor.Before) {f : Factor} (h : f ∈ fs) :
    (ofFactors fs).get f.axis = f.exponent := by
  rw [ofFactors, PerAxis.get_build, find?_of_mem hordered h]
  rfl

theorem get_ofFactors_of_not_mem {fs : List Factor} {axis : Axis} (h : ∀ f ∈ fs, f.axis ≠ axis) :
    (ofFactors fs).get axis = 0 := by
  have hnone : (fs.find? fun f => f.axis = axis) = none :=
    List.find?_eq_none.2 fun f hf hsame => h f hf (of_decide_eq_true hsame)
  rw [ofFactors, PerAxis.get_build, hnone]
  rfl

theorem ofFactors_factors (v : Powers) : ofFactors v.factors = v := by
  refine PerAxis.ext_get fun axis => ?_
  by_cases hzero : v.get axis = 0
  · rw [hzero]
    refine get_ofFactors_of_not_mem fun f hf hsame => ?_
    obtain ⟨hget, hnonzero⟩ := mem_factors.1 hf
    rw [hsame, hzero] at hget
    exact hnonzero hget.symm
  · have hmem : (⟨axis, v.get axis⟩ : Factor) ∈ v.factors := mem_factors.2 ⟨rfl, hzero⟩
    exact get_ofFactors v.factors_ordered hmem

/-- Factors in order, none of them trivial, are those of a vector. -/
theorem factors_ofFactors {fs : List Factor} (hordered : fs.Pairwise Factor.Before)
    (hnonzero : ∀ f ∈ fs, f.exponent ≠ 0) : (ofFactors fs).factors = fs := by
  refine List.Pairwise.eq_of_mem_iff (factors_ordered _) hordered fun f => ?_
  rw [mem_factors]
  constructor
  · rintro ⟨hget, hf⟩
    by_cases hmem : ∃ g ∈ fs, g.axis = f.axis
    · obtain ⟨g, hg, hsame⟩ := hmem
      rw [← hsame, get_ofFactors hordered hg] at hget
      have hfg : g = f := by
        obtain ⟨axis, n⟩ := f
        cases hsame
        cases hget
        rfl
      exact hfg ▸ hg
    · rw [get_ofFactors_of_not_mem fun g hg hsame => hmem ⟨g, hg, hsame⟩] at hget
      exact absurd hget.symm hf
  · intro hmem
    exact ⟨get_ofFactors hordered hmem, hnonzero f hmem⟩

/-! ### Texts -/

/-- The text of a list of factors. -/
def productText (fs : List Factor) : Text := List.intercalate ['·'] (fs.map Factor.text)

/-- The vector with this text. -/
def ofText? (t : Text) : Option Powers :=
  if t = ['1'] then some one else ofFactors <$> (t.splitOn '·').mapM Factor.ofText?

/-- A printed vector is `1` or the product of its factors. -/
theorem text_eq (v : Powers) :
    v.text = if v.factors = [] then ['1'] else productText v.factors := by
  have hfactors : (Axis.all.filterMap fun axis => factor? axis (v.get axis)) =
      v.factors.map Factor.text := by
    rw [factors, List.map_filterMap]
    refine List.filterMap_congr fun axis _ => ?_
    unfold factor?
    split
    · rfl
    · split
      · next hone => rw [Option.map_some, Factor.text, if_pos hone]
      · next hone => rw [Option.map_some, Factor.text, if_neg hone]
  rw [text, hfactors]
  cases hlist : v.factors with
  | nil => rfl
  | cons f fs => rfl

theorem text_of_factors_eq_nil {v : Powers} (h : v.factors = []) : v.text = ['1'] ∧ v = one := by
  refine ⟨by rw [text_eq, if_pos h], ?_⟩
  rw [← ofFactors_factors v, h]
  rfl

theorem text_of_factors_ne_nil {v : Powers} (h : v.factors ≠ []) : v.text = productText v.factors := by
  rw [text_eq, if_neg h]

theorem productText_cons_cons (f g : Factor) (fs : List Factor) :
    productText (f :: g :: fs) = f.text ++ '·' :: productText (g :: fs) := by
  rw [productText, List.map_cons, List.map_cons, List.intercalate_cons_cons, List.append_assoc]
  rfl

theorem productText_ne_one {fs : List Factor} (h : fs ≠ []) : productText fs ≠ ['1'] := by
  cases fs with
  | nil => exact absurd rfl h
  | cons f fs =>
    cases fs with
    | nil =>
      have hsingle : productText [f] = f.text ++ [] := by
        rw [productText, List.map_singleton, List.intercalate_singleton, List.append_nil]
      rw [hsingle]
      exact f.text_ne_one []
    | cons g fs =>
      rw [productText_cons_cons]
      exact f.text_ne_one _

theorem splitOn_productText {fs : List Factor} (h : fs ≠ []) :
    (productText fs).splitOn '·' = fs.map Factor.text := by
  refine List.splitOn_intercalate '·' (fun t ht hdot => ?_) (mt List.map_eq_nil_iff.1 h)
  obtain ⟨f, -, rfl⟩ := List.mem_map.1 ht
  exact Factor.not_isPart (by decide) (Factor.isPart_of_mem_text hdot)

/-- What may stand in the text of a vector. -/
theorem isPart_or_dot_of_mem_productText {fs : List Factor} {c : Char} (h : c ∈ productText fs) :
    Factor.IsPart c ∨ c = '·' := by
  induction fs with
  | nil => cases h
  | cons f fs ih =>
    cases fs with
    | nil =>
      rw [productText, List.map_singleton, List.intercalate_singleton] at h
      exact .inl (Factor.isPart_of_mem_text h)
    | cons g fs =>
      rw [productText_cons_cons] at h
      rcases List.mem_append.1 h with hfirst | hrest
      · exact .inl (Factor.isPart_of_mem_text hfirst)
      · rcases List.mem_cons.1 hrest with hdot | hmore
        · exact .inr hdot
        · exact ih hmore

theorem isPart_or_dot_of_mem_text {v : Powers} {c : Char} (h : c ∈ v.text) : Factor.IsPart c ∨ c = '·' := by
  rw [text_eq] at h
  split at h
  · rw [List.mem_singleton.1 h]
    exact .inl (.inl (by decide))
  · exact isPart_or_dot_of_mem_productText h

theorem mapM_ofText? (fs : List Factor) : (fs.map Factor.text).mapM Factor.ofText? = some fs := by
  induction fs with
  | nil => rfl
  | cons f fs ih =>
    rw [List.map_cons, List.mapM_cons, Factor.ofText?_text, ih]
    rfl

/-- **A vector can be read from its text.** -/
theorem ofText?_text (v : Powers) : ofText? v.text = some v := by
  by_cases hfactors : v.factors = []
  · obtain ⟨htext, hone⟩ := text_of_factors_eq_nil hfactors
    rw [htext, hone]
    rfl
  · rw [text_of_factors_ne_nil hfactors, ofText?, if_neg (productText_ne_one hfactors),
      splitOn_productText hfactors, mapM_ofText?]
    exact congrArg some (ofFactors_factors v)

theorem text_injective {v w : Powers} (h : v.text = w.text) : v = w :=
  Option.some.inj (by rw [← ofText?_text v, h, ofText?_text])

end Powers

/-! ### The grammar -/

/-- The texts of the grammar: `1`, or factors in basis order with 32-bit exponents, none of them zero. -/
inductive IsVectorText : Text → Prop where
  | one : IsVectorText ['1']
  | product {fs : List Factor} (nonempty : fs ≠ []) (ordered : fs.Pairwise Factor.Before)
      (written : ∀ f ∈ fs, f.exponent ≠ 0 ∧ IntKind.i32.Holds f.exponent) :
      IsVectorText (List.intercalate ['·'] (fs.map Factor.text))

namespace IsVectorText

/-- A printed vector is a text of the grammar. -/
theorem text (e : Exponents) : IsVectorText e.text := by
  show IsVectorText e.powers.text
  by_cases hfactors : e.powers.factors = []
  · rw [(Powers.text_of_factors_eq_nil hfactors).1]
    exact .one
  · rw [Powers.text_of_factors_ne_nil hfactors]
    refine .product hfactors (Powers.factors_ordered _) fun f hf => ?_
    obtain ⟨hget, hnonzero⟩ := Powers.mem_factors.1 hf
    rw [Exponents.get_powers] at hget
    exact ⟨hnonzero, hget ▸ Fixed.holds _⟩

/-- A text of the grammar is that of a vector. -/
theorem eq_text {t : Text} (h : IsVectorText t) : ∃ e : Exponents, e.text = t := by
  cases h with
  | one => exact ⟨Exponents.one, by decide⟩
  | @product fs nonempty ordered written =>
    have hfactors := Powers.factors_ofFactors ordered fun f hf => (written f hf).1
    have hholds : ∀ axis, IntKind.i32.Holds ((Powers.ofFactors fs).get axis) := by
      intro axis
      by_cases hmem : ∃ f ∈ fs, f.axis = axis
      · obtain ⟨f, hf, rfl⟩ := hmem
        rw [Powers.get_ofFactors ordered hf]
        exact (written f hf).2
      · rw [Powers.get_ofFactors_of_not_mem fun f hf hsame => hmem ⟨f, hf, hsame⟩]
        exact IntKind.holds_zero _
    refine ⟨Exponents.ofPowers _ hholds, ?_⟩
    rw [Exponents.text, Exponents.powers_ofPowers, Powers.text_of_factors_ne_nil (by rw [hfactors]; exact nonempty),
      hfactors]
    rfl

end IsVectorText

theorem Exponents.text_injective {e f : Exponents} (h : e.text = f.text) : e = f :=
  powers_injective (Powers.text_injective h)

end Dimensional
