import Dimensional.Proofs.Derive.Clauses
import Mathlib.Data.List.Induction

/-!
# The arrangement of an attribute does not matter

Clauses in order are read to what they say, in whatever order they come, wherever the commas are, and
however their numbers are spelled. Otherwise the first clause that is not in order behind those before it
decides what is reported: `Refused before c report` says why a clause is refused there, and where the report
points. An unknown key and a key that comes again are refused whatever their values are.

* `SaidBy` — what an attribute of some clauses says;
* `Refused.readEntry` — a clause that is refused; `fits_or_refused` — there is nothing in between;
* `ofTrees_of_inOrder`, `ofTrees_of_refused` — the outcome of an attribute;
* `attribute_of_clauses` — the whole.
-/

namespace Dimensional.Derive

open Source Draft

/-! ### Clauses that are in order -/

/-- The attribute says what the clauses say: no more exponents, and the usual path unless they give one. -/
structure SaidBy (cs : List Clause) (said : Attribute) : Prop where
  exponent : ∀ c ∈ cs, ∀ axis ∈ Axis.physical, ∀ n, c.key = .plain axis.name.toList → c.value = .integer n →
    (said.exponents.get axis).toInt = n
  noExponent : ∀ axis, (∀ c ∈ cs, c.key ≠ .plain axis.name.toList) → (said.exponents.get axis).toInt = 0
  path : ∀ c ∈ cs, ∀ p, c.key = .plain "crate".toList → c.value = .path p → said.path = p
  noPath : (∀ c ∈ cs, c.key ≠ .plain "crate".toList) → said.path = Attribute.usualPath

theorem Keeps.finish {cs : List Clause} {d : Draft} (h : Keeps cs d) : SaidBy cs d.finish where
  exponent c hc axis haxis n hkey hvalue := by
    have hget := h.exponent c hc axis n (ofIdent?_eq_axis.2 ⟨haxis, hkey⟩) hvalue
    obtain ⟨a, ha, hn⟩ := Option.map_eq_some_iff.1 hget
    rw [finish_exponent, ha]
    exact hn
  noExponent axis hnone := by
    have hhas : ¬ d.has (.axis axis) = true := by
      rw [h.has]
      intro hsome
      obtain ⟨c, hc, hkey⟩ := hsome
      exact hnone c hc (ofIdent?_eq_axis.1 hkey).2
    rw [finish_exponent, Option.not_isSome_iff_eq_none.1 hhas]
    rfl
  path c hc p hkey hvalue := by
    show d.path.getD Attribute.usualPath = p
    rw [h.path c hc p (ofIdent?_eq_path.2 hkey) hvalue]
    rfl
  noPath hnone := by
    have hhas : ¬ d.has .path = true := by
      rw [h.has]
      intro hsome
      obtain ⟨c, hc, hkey⟩ := hsome
      exact hnone c hc (ofIdent?_eq_path.1 hkey)
    show d.path.getD Attribute.usualPath = _
    rw [Option.not_isSome_iff_eq_none.1 hhas]
    rfl

/-- A run that comes to an entry that is refused ends there. -/
theorem ofTrees_of_entry_error {ts : List Tree} {close : Span} {s : Stage} {e : Failure}
    (h : Reaches (start ts close) s) (hnil : s.2.tokens ≠ []) (herror : s.1.readEntry.run s.2 = .error e) :
    Attribute.ofTrees ts close = .error e := by
  obtain ⟨fuel, hfuel, hrun⟩ := readEntries_of_reaches h (ts.length + 1) (Nat.lt_succ_self _)
  have hentries : (readEntries (ts.length + 1) empty).run (start ts close).2 = .error e := by
    refine hrun.trans ?_
    cases fuel with
    | zero => exact absurd hfuel (Nat.not_lt_zero _)
    | succ fuel =>
      rw [readEntries_of_cons fuel s.1 hnil]
      exact Reading.run_bind_of_error herror
  have hread : Attribute.read.run (start ts close).2 = .error e := by
    show (readEntries (ts.length + 1) empty >>= fun draft => pure draft.finish).run (start ts close).2 = _
    exact Reading.run_bind_of_error hentries
  exact bind_eq_error.2 (.inl hread)

/-- **Clauses in order are an attribute**, which says what they say. -/
theorem ofTrees_of_inOrder {cs : List Clause} (h : InOrder cs) (close : Span) :
    ∃ said, Attribute.ofTrees (clauseTrees cs) close = .ok said ∧ SaidBy cs said := by
  obtain ⟨d, written, hreach, hkeeps⟩ :=
    reaches_of_inOrder [] cs [] empty (start (clauseTrees cs) close).2 keeps_empty h (by simp [start])
  exact ⟨d.finish, ofTrees_of_reaches hreach, hkeeps.finish⟩

/-! ### Clauses that are refused -/

/-- The greatest number that is held against the bound at all. -/
def greatestNumber : Nat := 2 ^ 31 - 1

/-- Why a clause is refused behind others, and what is reported. -/
inductive Refused (before : List Clause) (c : Clause) : Report → Prop
  | unknown (hkey : ¬ Known c.key) : Refused before c ⟨c.span, false, .unknownKey c.key.text⟩
  | again (hkey : Known c.key) (hagain : ∃ b ∈ before, b.key = c.key) :
    Refused before c ⟨c.span, false, .duplicateKey c.key.text⟩
  /-- A path where a number belongs: the report points at its first token. -/
  | noNumber {axis : Axis} {p : Path} {t : Tree} (haxis : axis ∈ Axis.physical)
    (hkey : c.key = .plain axis.name.toList) (hnew : ∀ b ∈ before, b.key ≠ c.key)
    (hvalue : c.value = .path p) (hfirst : c.spelling.head? = some t) :
    Refused before c ⟨t.head, false, .integerExponent⟩
  /-- A number past the bound: the report points at it, and not at the sign in front. -/
  | tooLarge {axis : Axis} {n : Int} {t : Tree} (haxis : axis ∈ Axis.physical)
    (hkey : c.key = .plain axis.name.toList) (hnew : ∀ b ∈ before, b.key ≠ c.key)
    (hvalue : c.value = .integer n) (hlarge : greatestExponent < n.natAbs) (hlast : c.spelling.getLast? = some t) :
    Refused before c ⟨t.span, false, if greatestNumber < n.natAbs then .numberTooLarge else .exponentTooLarge⟩
  /-- A number where a path belongs: the report points at its first token. -/
  | noPath {n : Int} {t : Tree} (hkey : c.key = .plain "crate".toList) (hnew : ∀ b ∈ before, b.key ≠ c.key)
    (hvalue : c.value = .integer n) (hfirst : c.spelling.head? = some t) :
    Refused before c ⟨t.head, false, .expected ["identifier".toList]⟩

/-- What does not begin with a sign or a literal is no exponent. -/
theorem exponent_of_no_number {c : Cursor} (hsign : nextIsMark "-" c.tokens = false)
    (hliteral : integerLiteral? c.tokens = none) :
    exponent.run c = .error (.report c.here false .integerExponent) := by
  have hmark : (mark? "-").run c = .ok (false, c) :=
    mark?_of_not_next (by rw [hsign]; exact Bool.false_ne_true)
  have hinteger : integer.run c = .error ⟨c.here, false, .integerExponent⟩ := by
    simp only [integer, hliteral]
  rw [exponent, Reading.run_bind_of_ok (Reading.liftM_eq_ok.2 hmark)]
  exact Reading.run_bind_of_error (Reading.liftM_eq_error.2 ⟨_, hinteger, rfl⟩)

/-- A number past the bound is refused, whatever sign stands in front. -/
theorem limited_of_large {m : Nat} (hlarge : greatestExponent < m) (negative : Bool) (span : Span) (c : Cursor) :
    (limited negative m span).run c =
      .error (.report span false (if greatestNumber < m then .numberTooLarge else .exponentTooLarge)) := by
  have hnonneg : ¬ (m : Int) < 0 := by omega
  unfold limited
  by_cases hgreat : greatestNumber < m
  · have hout : ¬ IntKind.i32.Holds (m : Int) := by
      rw [IntKind.i32_holds]
      simp only [greatestNumber] at hgreat
      omega
    rw [Fixed.ofInt?, dif_neg hout, if_pos hgreat]
    simp only [if_neg hnonneg]
    rfl
  · have hin : IntKind.i32.Holds (m : Int) := by
      rw [IntKind.i32_holds]
      simp only [greatestNumber] at hgreat
      omega
    have hover : (greatestExponent : Int) < m := by omega
    rw [Fixed.ofInt?, dif_pos hin, if_neg hgreat]
    simp only [if_pos hover]
    rfl

/-- An exponent past the bound is refused where its number stands. -/
theorem exponent_of_large {n : Int} {ts rest : List Tree} {t : Tree} {c : Cursor} (h : SpellsExponent n ts)
    (hlarge : greatestExponent < n.natAbs) (hlast : ts.getLast? = some t) (htokens : c.tokens = ts ++ rest) :
    exponent.run c =
      .error (.report t.span false (if greatestNumber < n.natAbs then .numberTooLarge else .exponentTooLarge)) := by
  cases h with
  | @plain m text span hvalue =>
    cases hlast
    have hsign : Reads (mark? "-") [] ([.literal text span] ++ rest) false := reads_no_mark rfl
    obtain ⟨written, hmark⟩ := hsign c htokens
    obtain ⟨written', hinteger⟩ := reads_integer span hvalue rest
      { c with tokens := [.literal text span] ++ rest, written := written } rfl
    rw [exponent, Reading.run_bind_of_ok (Reading.liftM_eq_ok.2 hmark),
      Reading.run_bind_of_ok (Reading.liftM_eq_ok.2 hinteger)]
    exact limited_of_large hlarge false span _
  | @negative m text joint sign span hvalue =>
    cases hlast
    rw [Int.natAbs_neg] at hlarge ⊢
    have hsign : Reads (mark? "-") [.punct '-' joint sign] ([.literal text span] ++ rest) true :=
      reads_mark? rfl rfl
    obtain ⟨written, hmark⟩ := hsign c htokens
    obtain ⟨written', hinteger⟩ := reads_integer span hvalue rest
      { c with tokens := [.literal text span] ++ rest, written := written } rfl
    rw [exponent, Reading.run_bind_of_ok (Reading.liftM_eq_ok.2 hmark),
      Reading.run_bind_of_ok (Reading.liftM_eq_ok.2 hinteger)]
    exact limited_of_large hlarge true span _

variable {before after : List Clause} {c : Clause} {d : Draft} {cursor : Cursor} {report : Report}

theorem valueOf_clause (htokens : cursor.tokens = clauseTrees (c :: after)) :
    (valueOf cursor).tokens = c.spelling ++ (c.comma ++ clauseTrees after) := by
  show cursor.tokens.drop 2 = _
  rw [tokens_of_clause htokens]
  rfl

/-- A clause with a new key is read as its value. -/
theorem readEntry_of_new {key : Key} (htokens : cursor.tokens = clauseTrees (c :: after))
    (hkey : Key.ofIdent? c.key = some key) (hnew : ¬ d.has key = true) :
    d.readEntry.run cursor = (d.readValueAndComma key).run (valueOf cursor) := by
  rw [readEntry_head d (tokens_of_clause htokens), hkey]
  show (if d.has key = true then _ else _ : Reading Failure Draft).run _ = _
  rw [if_neg hnew]

/-- A number does not begin as a path does. -/
theorem no_path_of_spellsExponent {n : Int} {ts : List Tree} (h : SpellsExponent n ts) (rest : List Tree) :
    nextIsName (ts ++ rest) = false ∧ nextIsMark "::" (ts ++ rest) = false := by
  cases h <;> exact ⟨rfl, rfl⟩

theorem here_of_head? {ts rest : List Tree} {t : Tree} (hfirst : ts.head? = some t)
    (htokens : cursor.tokens = ts ++ rest) : cursor.here = t.head ∧ cursor.tokens.isEmpty = false := by
  obtain ⟨us, rfl⟩ := List.head?_eq_some_iff.1 hfirst
  rw [Cursor.here, htokens]
  exact ⟨rfl, rfl⟩

/-- **A clause that is refused** is reported as it is said. -/
theorem Refused.readEntry (h : Refused before c report) (hkeeps : Keeps before d)
    (htokens : cursor.tokens = clauseTrees (c :: after)) :
    d.readEntry.run cursor = .error report.failure := by
  have hbehind := valueOf_clause htokens
  have hspelling := c.isSpelling
  cases h with
  | unknown hkey =>
    rw [readEntry_head d (tokens_of_clause htokens), ofIdent?_eq_none.2 hkey]
    rfl
  | again hkey hagain =>
    obtain ⟨key, hsome⟩ := known_iff.1 hkey
    obtain ⟨b, hb, hsame⟩ := hagain
    have hhas : d.has key = true := (hkeeps.has key).2 ⟨b, hb, hsame ▸ hsome⟩
    rw [readEntry_head d (tokens_of_clause htokens), hsome]
    show (if d.has key = true then _ else _ : Reading Failure Draft).run _ = _
    rw [if_pos hhas]
    rfl
  | noNumber haxis hkey hnew hvalue hfirst =>
    have hsome := ofIdent?_eq_axis.2 ⟨haxis, hkey⟩
    rw [readEntry_of_new htokens hsome ((hkeeps.new hsome).2 hnew)]
    rw [hvalue] at hspelling
    obtain ⟨hpath⟩ | ⟨-⟩ := hspelling
    obtain ⟨hhere, -⟩ := here_of_head? hfirst hbehind
    rw [← hhere]
    refine axisValue_eq_error.2 (exponent_of_no_number ?_ ?_)
    all_goals
      rw [hbehind]
      obtain ⟨t, rest, hts, ⟨i, span, rfl⟩ | ⟨joint, span, rfl⟩⟩ := hpath.head
      · rw [hts]
        rfl
      · rw [hts]
        rfl
  | tooLarge haxis hkey hnew hvalue hlarge hlast =>
    have hsome := ofIdent?_eq_axis.2 ⟨haxis, hkey⟩
    rw [readEntry_of_new htokens hsome ((hkeeps.new hsome).2 hnew)]
    rw [hvalue] at hspelling
    obtain ⟨-⟩ | ⟨hspells⟩ := hspelling
    exact axisValue_eq_error.2 (exponent_of_large hspells hlarge hlast hbehind)
  | @noPath n t hkey hnew hvalue hfirst =>
    have hsome := ofIdent?_eq_path.2 hkey
    rw [readEntry_of_new htokens hsome ((hkeeps.new hsome).2 hnew)]
    rw [hvalue] at hspelling
    obtain ⟨-⟩ | ⟨hspells⟩ := hspelling
    obtain ⟨hhere, hmore⟩ := here_of_head? hfirst hbehind
    have hread : Path.read.run (valueOf cursor) = .error ⟨t.head, false, .expected ["identifier".toList]⟩ := by
      rw [← hhere, ← hmore]
      obtain ⟨hname, hmark⟩ := no_path_of_spellsExponent hspells (c.comma ++ clauseTrees after)
      exact read_of_no_name (by rw [hbehind, hname]) (by rw [hbehind, hmark])
    exact Reading.run_bind_of_error
      (Reading.run_bind_of_error (Reading.liftM_eq_error.2 ⟨_, hread, rfl⟩))

/-- **Behind clauses in order the first one that is refused decides.** -/
theorem ofTrees_of_refused (hbefore : InOrder before) (h : Refused before c report) (after : List Clause)
    (close : Span) : Attribute.ofTrees (clauseTrees (before ++ c :: after)) close = .error report.failure := by
  obtain ⟨d, written, hreach, hkeeps⟩ := reaches_of_inOrder (c :: after) before [] empty
    (start (clauseTrees (before ++ c :: after)) close).2 keeps_empty hbefore rfl
  exact ofTrees_of_entry_error hreach (List.cons_ne_nil _ _) (h.readEntry hkeeps rfl)

/-! ### Nothing in between -/

/-- There is a token at each end of a value. -/
theorem SpellsValue.ends {value : ClauseValue} {ts : List Tree} (h : SpellsValue value ts) :
    (∃ t, ts.head? = some t) ∧ ∃ t, ts.getLast? = some t := by
  have hcons : ∃ t rest, ts = t :: rest := by
    cases h with
    | path hpath =>
      obtain ⟨t, rest, hts, -⟩ := hpath.head
      exact ⟨t, rest, hts⟩
    | integer hspells => cases hspells <;> exact ⟨_, _, rfl⟩
  obtain ⟨t, rest, rfl⟩ := hcons
  exact ⟨⟨t, rfl⟩, ⟨_, List.getLast?_eq_some_getLast (List.cons_ne_nil t rest)⟩⟩

/-- Behind other clauses a clause fits and is new, or it is refused. -/
theorem fits_or_refused (before : List Clause) (c : Clause) :
    (c.Fits ∧ ∀ b ∈ before, b.key ≠ c.key) ∨ ∃ report, Refused before c report := by
  obtain ⟨⟨first, hfirst⟩, last, hlast⟩ := c.isSpelling.ends
  cases hsome : Key.ofIdent? c.key with
  | none => exact .inr ⟨_, .unknown (ofIdent?_eq_none.1 hsome)⟩
  | some key =>
    have hknown : Known c.key := known_iff.2 ⟨key, hsome⟩
    by_cases hagain : ∃ b ∈ before, b.key = c.key
    · exact .inr ⟨_, .again hknown hagain⟩
    · have hnew : ∀ b ∈ before, b.key ≠ c.key := fun b hb heq => hagain ⟨b, hb, heq⟩
      cases key with
      | axis axis =>
        obtain ⟨haxis, hkey⟩ := ofIdent?_eq_axis.1 hsome
        cases hvalue : c.value with
        | path p => exact .inr ⟨_, .noNumber haxis hkey hnew hvalue hfirst⟩
        | integer n =>
          by_cases hbounded : Bounded n
          · exact .inl ⟨.inl ⟨axis, haxis, n, hkey, hvalue, hbounded⟩, hnew⟩
          · have hlarge : greatestExponent < n.natAbs := by
              have hout : ¬ (-(greatestExponent : Int) ≤ n ∧ n ≤ greatestExponent) := hbounded
              omega
            exact .inr ⟨_, .tooLarge haxis hkey hnew hvalue hlarge hlast⟩
      | path =>
        have hkey := ofIdent?_eq_path.1 hsome
        cases hvalue : c.value with
        | path p => exact .inl ⟨.inr ⟨p, hkey, hvalue⟩, hnew⟩
        | integer n => exact .inr ⟨_, .noPath hkey hnew hvalue hfirst⟩

/-- Clauses are in order, or one is refused behind clauses in order. -/
theorem inOrder_or_refused (cs : List Clause) :
    InOrder cs ∨ ∃ before c after report, cs = before ++ c :: after ∧ InOrder before ∧ Refused before c report := by
  induction cs using List.reverseRecOn with
  | nil => exact .inl .nil
  | append_singleton cs c ih =>
    rcases ih with horder | ⟨before, b, after, report, rfl, horder, hrefused⟩
    · rcases fits_or_refused cs c with hfits | ⟨report, hrefused⟩
      · exact .inl (inOrder_snoc.2 ⟨horder, hfits⟩)
      · exact .inr ⟨cs, c, [], report, rfl, horder, hrefused⟩
    · exact .inr ⟨before, b, after ++ [c], report, by simp, horder, hrefused⟩

/-! ### What clauses mean -/

/-- Whether clauses are in order is decided by what they mean, in any order. -/
theorem inOrder_of_perm {cs cs' : List Clause} (hperm : (cs.map Clause.meaning).Perm (cs'.map Clause.meaning))
    (h : InOrder cs) : InOrder cs' := by
  constructor
  · intro c' hc'
    obtain ⟨c, hc, hsame⟩ := List.mem_map.1 (hperm.mem_iff.2 (List.mem_map_of_mem hc'))
    have hkey : c.key = c'.key := congrArg Prod.fst hsame
    have hvalue : c.value = c'.value := congrArg Prod.snd hsame
    rw [Clause.Fits, ← hkey, ← hvalue]
    exact h.fits c hc
  · have hkeys := hperm.map Prod.fst
    simp only [List.map_map] at hkeys
    exact hkeys.nodup_iff.1 h.once

theorem saidBy_of_perm {cs cs' : List Clause} (hperm : (cs.map Clause.meaning).Perm (cs'.map Clause.meaning))
    {said : Attribute} (h : SaidBy cs said) : SaidBy cs' said := by
  have hback : ∀ c' ∈ cs', ∃ c ∈ cs, c.key = c'.key ∧ c.value = c'.value := by
    intro c' hc'
    obtain ⟨c, hc, hsame⟩ := List.mem_map.1 (hperm.mem_iff.2 (List.mem_map_of_mem hc'))
    exact ⟨c, hc, congrArg Prod.fst hsame, congrArg Prod.snd hsame⟩
  have hnone : ∀ i, (∀ c' ∈ cs', c'.key ≠ i) → ∀ c ∈ cs, c.key ≠ i := by
    intro i hnone c hc heq
    obtain ⟨c', hc', hsame⟩ := List.mem_map.1 (hperm.mem_iff.1 (List.mem_map_of_mem hc))
    exact hnone c' hc' ((congrArg Prod.fst hsame).trans heq)
  refine ⟨?_, ?_, ?_, ?_⟩
  · intro c' hc' axis haxis n hkey hvalue
    obtain ⟨c, hc, hsame, hsame'⟩ := hback c' hc'
    exact h.exponent c hc axis haxis n (hsame.trans hkey) (hsame'.trans hvalue)
  · intro axis hother
    exact h.noExponent axis (hnone _ hother)
  · intro c' hc' p hkey hvalue
    obtain ⟨c, hc, hsame, hsame'⟩ := hback c' hc'
    exact h.path c hc p (hsame.trans hkey) (hsame'.trans hvalue)
  · intro hother
    exact h.noPath (hnone _ hother)

theorem axisName_injective : ∀ axis other : Axis, axis.name.toList = other.name.toList → axis = other := by
  intro axis other h
  cases axis <;> cases other <;> first | rfl | exact absurd h (by decide)

theorem axisName_ne_crate (axis : Axis) : axis.name.toList ≠ "crate".toList := by
  cases axis <;> decide

/-- Clauses in order say one thing. -/
theorem saidBy_unique {cs : List Clause} {said said' : Attribute} (horder : InOrder cs) (h : SaidBy cs said)
    (h' : SaidBy cs said') : said = said' := by
  have hexponents : said.exponents = said'.exponents := by
    refine PerAxis.ext_get fun axis => Fixed.ext ?_
    by_cases hgiven : ∃ c ∈ cs, c.key = .plain axis.name.toList
    · obtain ⟨c, hc, hkey⟩ := hgiven
      rcases horder.fits c hc with ⟨other, hother, n, hkeyOther, hvalue, -⟩ | ⟨p, hkeyPath, -⟩
      · obtain rfl : axis = other :=
          axisName_injective axis other (congrArg Ident.name (hkey.symm.trans hkeyOther))
        rw [h.exponent c hc axis hother n hkey hvalue, h'.exponent c hc axis hother n hkey hvalue]
      · exact absurd (congrArg Ident.name (hkey.symm.trans hkeyPath)) (axisName_ne_crate axis)
    · have hnone : ∀ c ∈ cs, c.key ≠ .plain axis.name.toList := fun c hc hkey => hgiven ⟨c, hc, hkey⟩
      rw [h.noExponent axis hnone, h'.noExponent axis hnone]
  have hpath : said.path = said'.path := by
    by_cases hgiven : ∃ c ∈ cs, c.key = .plain "crate".toList
    · obtain ⟨c, hc, hkey⟩ := hgiven
      rcases horder.fits c hc with ⟨axis, -, n, hkeyAxis, -⟩ | ⟨p, -, hvalue⟩
      · exact absurd (congrArg Ident.name (hkeyAxis.symm.trans hkey)) (axisName_ne_crate axis)
      · rw [h.path c hc p hkey hvalue, h'.path c hc p hkey hvalue]
    · have hnone : ∀ c ∈ cs, c.key ≠ .plain "crate".toList := fun c hc hkey => hgiven ⟨c, hc, hkey⟩
      rw [h.noPath hnone, h'.noPath hnone]
  obtain ⟨exponents, path⟩ := said
  obtain ⟨exponents', path'⟩ := said'
  cases hexponents
  cases hpath
  rfl

/-- An attribute is understood exactly if its clauses are in order. -/
theorem ofTrees_eq_ok_iff {cs : List Clause} {close : Span} :
    (∃ said, Attribute.ofTrees (clauseTrees cs) close = .ok said) ↔ InOrder cs := by
  constructor
  · intro h
    obtain ⟨said, hsaid⟩ := h
    rcases inOrder_or_refused cs with horder | ⟨before, c, after, report, rfl, hbefore, hrefused⟩
    · exact horder
    · rw [ofTrees_of_refused hbefore hrefused after close] at hsaid
      cases hsaid
  · intro h
    obtain ⟨said, hsaid, -⟩ := ofTrees_of_inOrder h close
    exact ⟨said, hsaid⟩

theorem ofTrees_eq_error {cs : List Clause} (h : ¬ InOrder cs) (close : Span) :
    ∃ e, Attribute.ofTrees (clauseTrees cs) close = .error e := by
  cases hsaid : Attribute.ofTrees (clauseTrees cs) close with
  | error e => exact ⟨e, rfl⟩
  | ok said => exact absurd (ofTrees_eq_ok_iff.1 ⟨said, hsaid⟩) h

/-- The arrangement of an attribute makes no difference to what is read. -/
theorem ofTrees_of_perm {cs cs' : List Clause} (hperm : (cs.map Clause.meaning).Perm (cs'.map Clause.meaning))
    (close close' : Span) : (Attribute.ofTrees (clauseTrees cs) close).toOption =
      (Attribute.ofTrees (clauseTrees cs') close').toOption := by
  by_cases horder : InOrder cs
  · have horder' := inOrder_of_perm hperm horder
    obtain ⟨said, hread, hsaid⟩ := ofTrees_of_inOrder horder close
    obtain ⟨said', hread', hsaid'⟩ := ofTrees_of_inOrder horder' close'
    rw [hread, hread', saidBy_unique horder' (saidBy_of_perm hperm hsaid) hsaid']
  · have horder' : ¬ InOrder cs' := fun h => horder (inOrder_of_perm hperm.symm h)
    obtain ⟨e, hread⟩ := ofTrees_eq_error horder close
    obtain ⟨e', hread'⟩ := ofTrees_eq_error horder' close'
    rw [hread, hread']
    rfl

/-- **What an attribute means does not depend on its arrangement.**  Of clauses `key = value` with a comma
behind each or not, all that matters is in order or not: an attribute is read exactly if every clause fits
and no key comes twice, and then it says what the clauses say.  Their order, the commas and the spelling of
numbers and paths make no difference.  Otherwise there is a first clause that is refused behind clauses in
order, and the report is the one about this clause. -/
theorem attribute_of_clauses :
    (∀ (cs : List Clause) (close : Span),
      (∃ said, Attribute.ofTrees (clauseTrees cs) close = .ok said) ↔ InOrder cs) ∧
    (∀ (cs : List Clause) (close : Span) (said : Attribute),
      Attribute.ofTrees (clauseTrees cs) close = .ok said → SaidBy cs said) ∧
    (∀ (cs cs' : List Clause) (close close' : Span),
      (cs.map Clause.meaning).Perm (cs'.map Clause.meaning) →
        (Attribute.ofTrees (clauseTrees cs) close).toOption =
          (Attribute.ofTrees (clauseTrees cs') close').toOption) ∧
    (∀ (before after : List Clause) (c : Clause) (report : Report) (close : Span),
      InOrder before → Refused before c report →
        Attribute.ofTrees (clauseTrees (before ++ c :: after)) close = .error report.failure) ∧
    (∀ cs : List Clause, ¬ InOrder cs → ∃ before c after report,
      cs = before ++ c :: after ∧ InOrder before ∧ Refused before c report) ∧
    (∀ w : Literal.Numeral, Literal.wholeValue? w.text = some w.value) ∧
    (∀ p : PlainPath, IsPath p.trees p.path) := by
  refine ⟨?_, ?_, ?_, ?_, ?_, ?_, isPath_plainPath⟩
  · intro cs close
    exact ofTrees_eq_ok_iff
  · intro cs close said hread
    obtain ⟨said', hread', hsaid⟩ := ofTrees_of_inOrder (ofTrees_eq_ok_iff.1 ⟨said, hread⟩) close
    cases hread'.symm.trans hread
    exact hsaid
  · intro cs cs' close close' hperm
    exact ofTrees_of_perm hperm close close'
  · intro before after c report close hbefore hrefused
    exact ofTrees_of_refused hbefore hrefused after close
  · intro cs hout
    rcases inOrder_or_refused cs with horder | hrefused
    · exact absurd horder hout
    · exact hrefused
  · intro w
    exact w.wholeValue?_text

/-- The numeral `0x2_u8`. -/
def hexadecimalTwo : Literal.Numeral where
  base := .hexadecimal
  digits := ['2', '_']
  suffix := ['u', '8']
  digitsOnly := by
    intro c hc
    rcases List.mem_cons.1 hc with rfl | hc
    · exact .inr ⟨2, by decide, by decide⟩
    · exact .inl (List.mem_singleton.1 hc)
  someDigit := ⟨'2', by simp, by decide⟩
  isSuffix := by
    refine ⟨by decide, ?_, nofun⟩
    intro c rest h
    cases h
    decide
  decimal := nofun

def unitsWord : PlainPath where
  leading? := none
  first := (.plain "units".toList, .whole)
  more := []
  firstStands := by decide
  moreStand := nofun

/-- An exponent for an axis, with a comma behind it or not. -/
def exponentClause (axis : Axis) {n : Int} {spelling comma : List Tree} (hspelling : SpellsExponent n spelling)
    (hcomma : IsComma comma) : Clause :=
  ⟨.plain axis.name.toList, .whole, false, .whole, .integer n, spelling, comma, .integer hspelling, hcomma⟩

/-- The path of the units, a comma behind it. -/
def unitsClause : Clause :=
  ⟨.plain "crate".toList, .whole, false, .whole, .path unitsWord.path, unitsWord.trees, [.punct ',' false .whole],
    .path (isPath_plainPath unitsWord), .present false .whole⟩

theorem spells_one : SpellsExponent 1 [.literal ['1'] .whole] := .plain .whole (by decide)

theorem spells_negTwo : SpellsExponent (-2) [.punct '-' false .whole, .literal ['2'] .whole] :=
  .negative false .whole .whole (by decide)

/-- The clauses of `length = 1 time = -2, crate = units,`. -/
def accelerationClauses : List Clause :=
  [exponentClause .length spells_one .absent, exponentClause .time spells_negTwo (.present false .whole), unitsClause]

/-- The clauses of `crate = units, time = -0x2_u8 length = 1`. -/
def accelerationRearranged : List Clause :=
  [unitsClause, exponentClause .time (.negative false .whole .whole hexadecimalTwo.wholeValue?_text) .absent,
    exponentClause .length spells_one .absent]

/-- The clause `time = 65`, too large by one. -/
def lateClause : Clause :=
  exponentClause .time (.plain .whole (by decide : Literal.wholeValue? ['6', '5'] = some 65)) .absent

theorem attribute_of_clauses_acceleration :
    InOrder accelerationClauses ∧
    (∃ said, Attribute.ofTrees (clauseTrees accelerationRearranged) .whole = .ok said ∧
      SaidBy accelerationClauses said ∧ (said.exponents.get .time).toInt = -2 ∧ said.path = unitsWord.path) ∧
    Attribute.ofTrees (clauseTrees ([unitsClause] ++ lateClause :: accelerationClauses)) .whole =
      .error (.report .whole false .exponentTooLarge) ∧
    ∃ before c after report, accelerationClauses ++ [lateClause] = before ++ c :: after ∧ InOrder before ∧
      Refused before c report := by
  obtain ⟨hread, hsaid, hperm, hrefused, hfirst, -⟩ := attribute_of_clauses
  have horder : InOrder accelerationClauses := by
    refine ⟨?_, by decide⟩
    intro c hc
    simp only [accelerationClauses, List.mem_cons, List.not_mem_nil, or_false] at hc
    rcases hc with rfl | rfl | rfl
    · exact .inl ⟨.length, by decide, 1, rfl, rfl, by decide⟩
    · exact .inl ⟨.time, by decide, -2, rfl, rfl, by decide⟩
    · exact .inr ⟨unitsWord.path, rfl, rfl⟩
  have hmeanings : (accelerationClauses.map Clause.meaning).Perm (accelerationRearranged.map Clause.meaning) := by
    decide
  obtain ⟨said, hok⟩ := (hread accelerationClauses .whole).2 horder
  have hfacts := hsaid _ _ _ hok
  refine ⟨horder, ⟨said, ?_, hfacts, ?_, ?_⟩, ?_, ?_⟩
  · have hsame := hperm _ _ .whole .whole hmeanings
    rw [hok] at hsame
    cases hre : Attribute.ofTrees (clauseTrees accelerationRearranged) .whole with
    | error e =>
      rw [hre] at hsame
      cases hsame
    | ok other =>
      rw [hre] at hsame
      cases hsame
      rfl
  · exact hfacts.exponent _ (.tail _ (.head _)) .time (by decide) (-2) rfl rfl
  · exact hfacts.path _ (.tail _ (.tail _ (.head _))) unitsWord.path rfl rfl
  · have hunits : InOrder [unitsClause] := by
      refine ⟨?_, by decide⟩
      intro c hc
      rw [List.mem_singleton.1 hc]
      exact .inr ⟨unitsWord.path, rfl, rfl⟩
    have htime : Axis.time ∈ Axis.physical := by decide
    have hnew : ∀ b ∈ [unitsClause], b.key ≠ lateClause.key := by decide
    have hlarge : greatestExponent < (65 : Int).natAbs := by decide
    have hlate : Refused [unitsClause] lateClause ⟨.whole, false, .exponentTooLarge⟩ :=
      .tooLarge htime rfl hnew rfl hlarge rfl
    exact hrefused [unitsClause] accelerationClauses lateClause _ .whole hunits hlate
  · refine hfirst _ ?_
    intro hout
    -- the time comes twice
    exact absurd hout.once (by decide)

end Dimensional.Derive
