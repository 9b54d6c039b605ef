import Dimensional.Proofs.Derive.Bounds
import Dimensional.Proofs.Derive.Numerals
import Dimensional.Proofs.Derive.Reads

/-!
# Attributes as they are written

The arguments of the attribute are a list of entries in any order, a comma behind each or not.
`Spelled es ts` says that these entries are spelled by these tokens; reading the tokens is then a run that
takes the entries one after the other.

* `SpellsExponent`, `reads_exponent` — an exponent, and how it is read;
* `entry_of_value`, `reaches_of_spelled` — one entry, and all of them;
* `ofTrees_of_spelled` — what the attribute comes to;
* `exists_spelled` — every list of entries can be written.
-/

namespace Dimensional.Derive

open Source Draft

/-! ### Exponents -/

/-- The tokens of an exponent: an integer literal, with a minus sign in front or not. -/
inductive SpellsExponent : Int → List Tree → Prop
  | plain {n : Nat} {text : Text} (span : Span) (hvalue : Literal.wholeValue? text = some n) :
    SpellsExponent n [.literal text span]
  | negative {n : Nat} {text : Text} (joint : Bool) (sign span : Span)
    (hvalue : Literal.wholeValue? text = some n) :
    SpellsExponent (-n) [.punct '-' joint sign, .literal text span]

theorem reads_integer {n : Nat} {text : Text} (span : Span) (hvalue : Literal.wholeValue? text = some n)
    (rest : List Tree) : Reads integer [.literal text span] rest ((n : Int), span) := by
  intro c hc
  refine ⟨c.written, integer_eq_ok.2 ⟨rest, ?_, rfl⟩⟩
  rw [hc]
  show (Literal.wholeValue? text).map _ = _
  rw [hvalue]
  rfl

theorem reads_limited {negative : Bool} {value : Int} {n : Fixed .i32} (span : Span)
    (hholds : IntKind.i32.Holds value) (hle : value ≤ greatestExponent)
    (hn : n.toInt = if negative = true then -value else value) (rest : List Tree) :
    Reads (limited negative value span) [] rest n := by
  intro c hc
  obtain rfl : c.tokens = rest := hc
  exact ⟨c.written, limited_eq_ok.2 ⟨hholds, hle, hn, rfl⟩⟩

/-- **An exponent within the bound is read as it is spelled.** -/
theorem reads_exponent {n : Int} {ts : List Tree} (h : SpellsExponent n ts) (hbounded : Bounded n) :
    ∃ a : Fixed .i32, a.toInt = n ∧ ∀ rest, Reads exponent ts rest a := by
  obtain ⟨hlow, hhigh⟩ := hbounded
  rw [show (greatestExponent : Int) = 64 from rfl] at hlow hhigh
  have hholds : ∀ m : Int, -64 ≤ m → m ≤ 64 → IntKind.i32.Holds m := fun m hm hm' =>
    IntKind.i32_holds.2 ⟨by omega, by omega⟩
  obtain ⟨hmin, hmax⟩ := hholds n hlow hhigh
  refine ⟨⟨n, hmin, hmax⟩, rfl, fun rest => ?_⟩
  cases h with
  | @plain m text span hvalue =>
    refine Reads.first (Reads.lift (reads_no_mark rfl)) ?_
    refine Reads.last (Reads.lift (reads_integer span hvalue rest)) ?_
    exact reads_limited span (hholds _ hlow hhigh) hhigh rfl rest
  | @negative m text joint sign span hvalue =>
    have hsign : Reads (mark? "-") [.punct '-' joint sign] ([.literal text span] ++ rest) true :=
      reads_mark? rfl rfl
    refine Reads.bind (Reads.lift hsign) ?_
    refine Reads.last (Reads.lift (reads_integer span hvalue rest)) ?_
    have hm : (m : Int) ≤ 64 := by omega
    exact reads_limited span (hholds _ (by omega) hm) hm rfl rest

/-! ### Entries -/

/-- What an entry gives. -/
inductive Given where
  | exponent (axis : Axis) (n : Int)
  | path (p : Path)

def Given.key : Given → Key
  | exponent axis _ => .axis axis
  | path _ => .path

/-- A comma, or none. -/
inductive IsComma : List Tree → Prop
  | absent : IsComma []
  | present (joint : Bool) (span : Span) : IsComma [.punct ',' joint span]

/-- The tokens spell these entries. The tokens of a path are those that are read as it where they stand. -/
inductive Spelled : List Given → List Tree → Prop
  | nil : Spelled [] []
  | exponent {axis : Axis} {n : Int} {value comma rest : List Tree} {es : List Given} (span : Span)
    (joint : Bool) (sign : Span) (haxis : axis ∈ Axis.physical) (hvalue : SpellsExponent n value)
    (hcomma : IsComma comma) (hrest : Spelled es rest) :
    Spelled (.exponent axis n :: es)
      (.ident (.plain axis.name.toList) span :: .punct '=' joint sign :: (value ++ (comma ++ rest)))
  | path {p : Path} {value comma rest : List Tree} {es : List Given} (span : Span)
    (joint : Bool) (sign : Span) (hvalue : Reads Path.read value (comma ++ rest) p)
    (hcomma : IsComma comma) (hrest : Spelled es rest) :
    Spelled (.path p :: es)
      (.ident (.plain "crate".toList) span :: .punct '=' joint sign :: (value ++ (comma ++ rest)))

theorem ofIdent?_axis {axis : Axis} (h : axis ∈ Axis.physical) :
    Key.ofIdent? (.plain axis.name.toList) = some (.axis axis) := by
  simp only [Axis.physical, List.mem_cons, List.not_mem_nil, or_false] at h
  rcases h with rfl | rfl | rfl | rfl <;> rfl

/-- No entry begins with a comma. -/
theorem no_comma_of_spelled {es : List Given} {ts : List Tree} (h : Spelled es ts) : nextIsMark "," ts = false := by
  cases h <;> rfl

theorem reads_comma {comma rest : List Tree} (hcomma : IsComma comma) (hrest : nextIsMark "," rest = false) :
    ∃ found, Reads (mark? ",") comma rest found := by
  cases hcomma with
  | absent => exact ⟨false, reads_no_mark hrest⟩
  | present joint span => exact ⟨true, reads_mark? rfl rfl⟩

/-- The value of an entry, with its comma. -/
theorem reads_valueAndComma {d d' : Draft} {key : Key} {value comma rest : List Tree}
    (hvalue : Reads (d.readValue key) value (comma ++ rest) d') (hcomma : IsComma comma)
    (hrest : nextIsMark "," rest = false) : Reads (d.readValueAndComma key) (value ++ comma) rest d' := by
  obtain ⟨found, hfound⟩ := reads_comma hcomma hrest
  refine Reads.bind hvalue ?_
  refine Reads.last (Reads.lift hfound) ?_
  exact Reads.pure _ rest

/-- An entry with a new key is read as its value. -/
theorem entry_of_value {d d' : Draft} {c : Cursor} {i : Ident} {key : Key} {span sign : Span} {joint : Bool}
    {value comma rest : List Tree}
    (htokens : c.tokens = .ident i span :: .punct '=' joint sign :: (value ++ (comma ++ rest)))
    (hkey : Key.ofIdent? i = some key) (hnew : ¬ d.has key = true)
    (hvalue : Reads (d.readValue key) value (comma ++ rest) d') (hcomma : IsComma comma)
    (hrest : nextIsMark "," rest = false) :
    ∃ written, Draft.Entry (d, c) (d', { c with tokens := rest, written := written }) := by
  have hbehind : (valueOf c).tokens = value ++ comma ++ rest := by
    show c.tokens.drop 2 = _
    rw [htokens, List.append_assoc]
    rfl
  obtain ⟨written, hrun⟩ := reads_valueAndComma hvalue hcomma hrest (valueOf c) hbehind
  refine ⟨written, ?_⟩
  rw [Draft.Entry, readEntry_head d htokens, hkey]
  show (if d.has key = true then _ else _ : Reading Failure Draft).run _ = _
  rw [if_neg hnew]
  exact hrun

/-- A draft to which these entries have been added. -/
structure Gains (d : Draft) (es : List Given) (d' : Draft) : Prop where
  exponent : ∀ axis n, .exponent axis n ∈ es → ∃ a, d'.exponents.get axis = some a ∧ a.toInt = n
  otherExponent : ∀ axis, (∀ n, .exponent axis n ∉ es) → d'.exponents.get axis = d.exponents.get axis
  path : ∀ p, .path p ∈ es → d'.path = some p
  otherPath : (∀ p, .path p ∉ es) → d'.path = d.path

theorem gains_nil (d : Draft) : Gains d [] d where
  exponent _ _ h := nomatch h
  otherExponent _ _ := rfl
  path _ h := nomatch h
  otherPath _ := rfl

theorem gains_exponent {d d' : Draft} {es : List Given} {axis : Axis} {n : Int} {a : Fixed .i32}
    (ha : a.toInt = n) (hnew : .axis axis ∉ es.map Given.key)
    (h : Gains { d with exponents := d.exponents.set axis (some a) } es d') :
    Gains d (.exponent axis n :: es) d' := by
  have hother : ∀ m, .exponent axis m ∉ es := fun m hm => hnew (List.mem_map_of_mem hm)
  refine ⟨?_, ?_, ?_, ?_⟩
  · intro other m hmem
    rcases List.mem_cons.1 hmem with heq | htail
    · cases heq
      exact ⟨a, (h.otherExponent axis hother).trans (PerAxis.get_set_self _ _ _), ha⟩
    · exact h.exponent other m htail
  · intro other hnone
    have hne : other ≠ axis := fun heq => hnone n (heq ▸ List.mem_cons_self)
    have htail := h.otherExponent other fun m hm => hnone m (List.mem_cons_of_mem _ hm)
    exact htail.trans (PerAxis.get_set_other _ _ hne)
  · intro p hmem
    rcases List.mem_cons.1 hmem with heq | htail
    · cases heq
    · exact h.path p htail
  · intro hnone
    exact h.otherPath fun p hp => hnone p (List.mem_cons_of_mem _ hp)

theorem gains_path {d d' : Draft} {es : List Given} {p : Path} (hnew : .path ∉ es.map Given.key)
    (h : Gains { d with path := some p } es d') : Gains d (.path p :: es) d' := by
  have hother : ∀ q, .path q ∉ es := fun q hq => hnew (List.mem_map_of_mem hq)
  refine ⟨?_, ?_, ?_, ?_⟩
  · intro axis n hmem
    rcases List.mem_cons.1 hmem with heq | htail
    · cases heq
    · exact h.exponent axis n htail
  · intro axis hnone
    exact h.otherExponent axis fun n hn => hnone n (List.mem_cons_of_mem _ hn)
  · intro q hmem
    rcases List.mem_cons.1 hmem with heq | htail
    · cases heq
      exact h.otherPath hother
    · exact h.path q htail
  · intro hnone
    exact absurd List.mem_cons_self (hnone p)

/-! ### The whole attribute -/

/-- An exponent occupies no key but that of its axis. -/
theorem has_set {d : Draft} {axis : Axis} {a : Fixed .i32} {key : Key} (h : key ≠ .axis axis) :
    Draft.has { d with exponents := d.exponents.set axis (some a) } key = d.has key := by
  cases key with
  | axis other =>
    have hother : other ≠ axis := fun heq => h (congrArg Key.axis heq)
    exact congrArg Option.isSome (PerAxis.get_set_other d.exponents (some a) hother)
  | path => rfl

theorem has_path {d : Draft} {p : Path} {key : Key} (h : key ≠ .path) :
    Draft.has { d with path := some p } key = d.has key := by
  cases key with
  | axis other => rfl
  | path => exact absurd rfl h

/-- An entry leaves the keys of those behind it free. -/
theorem free_of_nodup {d d' : Draft} {g : Given} {es : List Given} (hkey : g.key ∉ es.map Given.key)
    (hsame : ∀ key, key ≠ g.key → d'.has key = d.has key) (hfree : ∀ g' ∈ g :: es, ¬ d.has g'.key = true) :
    ∀ g' ∈ es, ¬ d'.has g'.key = true := by
  intro g' hg'
  have hne : g'.key ≠ g.key := fun heq => hkey (List.mem_map.2 ⟨g', hg', heq⟩)
  rw [hsame _ hne]
  exact hfree g' (List.mem_cons_of_mem _ hg')

/-- **The run over spelled entries** takes one after the other, if no key comes twice. -/
theorem reaches_of_spelled {es : List Given} {ts : List Tree} (h : Spelled es ts)
    (hkeys : (es.map Given.key).Nodup) (hbounded : ∀ axis n, .exponent axis n ∈ es → Bounded n) :
    ∀ (d : Draft) (c : Cursor), c.tokens = ts → (∀ g ∈ es, ¬ d.has g.key = true) →
      ∃ d' written, Reaches (d, c) (d', { c with tokens := [], written := written }) ∧ Gains d es d' := by
  induction h with
  | nil =>
    rintro d ⟨tokens, close, leftover, written⟩ rfl _
    exact ⟨d, written, .refl, gains_nil d⟩
  | @exponent axis n value comma rest es span joint sign haxis hvalue hcomma hrest ih =>
    intro d c htokens hnew
    obtain ⟨hhead, htail⟩ := List.nodup_cons.1 hkeys
    obtain ⟨a, ha, hreads⟩ := reads_exponent hvalue (hbounded axis n List.mem_cons_self)
    have hread : Reads (d.readValue (.axis axis)) value (comma ++ rest)
        { d with exponents := d.exponents.set axis (some a) } :=
      Reads.last (hreads _) (Reads.pure _ _)
    obtain ⟨written, hentry⟩ := entry_of_value htokens (ofIdent?_axis haxis) (hnew _ List.mem_cons_self) hread
      hcomma (no_comma_of_spelled hrest)
    obtain ⟨d', written', hreach, hgains⟩ :=
      ih htail (fun other m hm => hbounded other m (List.mem_cons_of_mem _ hm)) _
        { c with tokens := rest, written := written } rfl
        (free_of_nodup hhead (fun _ => has_set) hnew)
    exact ⟨d', written', .head hentry hreach, gains_exponent ha hhead hgains⟩
  | @path p value comma rest es span joint sign hvalue hcomma hrest ih =>
    intro d c htokens hnew
    obtain ⟨hhead, htail⟩ := List.nodup_cons.1 hkeys
    have hread : Reads (d.readValue .path) value (comma ++ rest) { d with path := some p } :=
      Reads.last (Reads.lift hvalue) (Reads.pure _ _)
    obtain ⟨written, hentry⟩ := entry_of_value htokens rfl (hnew _ List.mem_cons_self) hread hcomma
      (no_comma_of_spelled hrest)
    obtain ⟨d', written', hreach, hgains⟩ :=
      ih htail (fun other m hm => hbounded other m (List.mem_cons_of_mem _ hm)) _
        { c with tokens := rest, written := written } rfl
        (free_of_nodup hhead (fun _ => has_path) hnew)
    exact ⟨d', written', .head hentry hreach, gains_path hhead hgains⟩

/-- A run that comes to the end of the tokens is what the attribute says. -/
theorem ofTrees_of_reaches {ts : List Tree} {close : Span} {d : Draft} {written : List Tree}
    (h : Reaches (start ts close) (d, { (start ts close).2 with tokens := [], written := written })) :
    Attribute.ofTrees ts close = .ok d.finish := by
  obtain ⟨fuel, -, hrun⟩ := readEntries_of_reaches h (ts.length + 1) (Nat.lt_succ_self _)
  have hentries : (readEntries (ts.length + 1) empty).run (start ts close).2 =
      .ok (d, { (start ts close).2 with tokens := [], written := written }) :=
    hrun.trans (readEntries_of_nil fuel d rfl)
  have hread : Attribute.read.run (start ts close).2 =
      .ok (d.finish, { (start ts close).2 with tokens := [], written := written }) := by
    show (readEntries (ts.length + 1) empty >>= fun draft => pure draft.finish).run (start ts close).2 = _
    rw [Reading.run_bind_of_ok hentries]
    rfl
  exact bind_of_ok hread _

/-- **An attribute is what its entries give.** -/
theorem ofTrees_of_spelled {es : List Given} {ts : List Tree} (close : Span) (h : Spelled es ts)
    (hkeys : (es.map Given.key).Nodup) (hbounded : ∀ axis n, .exponent axis n ∈ es → Bounded n) :
    ∃ d, Attribute.ofTrees ts close = .ok d.finish ∧ Gains empty es d := by
  have hnew : ∀ g ∈ es, ¬ empty.has g.key = true := by
    intro g _
    cases g with
    | exponent axis n =>
      show ¬ ((PerAxis.const none : PerAxis (Option (Fixed .i32))).get axis).isSome = true
      rw [PerAxis.get_const]
      exact Bool.false_ne_true
    | path p => exact Bool.false_ne_true
  obtain ⟨d, written, hreach, hgains⟩ := reaches_of_spelled h hkeys hbounded empty (start ts close).2 rfl hnew
  exact ⟨d, ofTrees_of_reaches hreach, hgains⟩

/-! ### Every list of entries can be written -/

theorem digit?_of_isDigit {c : Char} (h : c.isDigit = true) :
    Literal.digit? 10 c = some (c.toNat - '0'.toNat) ∧ c.toNat - '0'.toNat < 10 := by
  have hrange := h
  simp only [Char.isDigit, Bool.and_eq_true, decide_eq_true_eq] at hrange
  obtain ⟨hlow, hhigh⟩ := hrange
  have hnat : c.toNat ≤ 57 := hhigh
  constructor
  · rw [Literal.digit?, h, Bool.true_or, if_pos rfl]
    exact if_pos ⟨hlow, hhigh⟩
  · show c.toNat - 48 < 10
    omega

theorem ne_underline_of_isDigit {c : Char} (h : c.isDigit = true) : c ≠ '_' := by
  rintro rfl
  cases h

theorem valueFrom_of_isDigit {digits : Text} (h : ∀ c ∈ digits, c.isDigit = true) :
    ∀ value : Nat, Literal.valueFrom 10 value digits = Nat.ofDigitChars 10 digits value := by
  induction digits with
  | nil =>
    intro value
    rfl
  | cons c digits ih =>
    intro value
    have hdigit := h c List.mem_cons_self
    rw [Literal.valueFrom_digit (ne_underline_of_isDigit hdigit) (digit?_of_isDigit hdigit).1]
    exact ih (fun d hd => h d (List.mem_cons_of_mem _ hd)) _

/-- The decimal of a number, without underlines and without a suffix. -/
def plainNumeral (n : Nat) : Literal.Numeral where
  base := .decimal
  digits := Decimal.ofNat n
  suffix := []
  digitsOnly c hc := .inr ⟨_, digit?_of_isDigit (Decimal.isDigit_of_mem_ofNat hc)⟩
  someDigit := by
    obtain ⟨c, more, hshape, hdigit⟩ := Decimal.ofNat_eq_cons n
    exact ⟨c, by rw [hshape]; exact List.mem_cons_self, ne_underline_of_isDigit hdigit⟩
  isSuffix := ⟨rfl, nofun, nofun⟩
  decimal _ := by
    have hdigits : ∀ c ∈ Decimal.ofNat n, c.isDigit = true := fun c hc => Decimal.isDigit_of_mem_ofNat hc
    refine ⟨Decimal.ofNat_eq_cons n, ?_⟩
    rw [List.append_nil]
    unfold Literal.baseOf
    split
    · next heq => cases hdigits 'x' (heq ▸ List.mem_cons_of_mem _ List.mem_cons_self)
    · next heq => cases hdigits 'o' (heq ▸ List.mem_cons_of_mem _ List.mem_cons_self)
    · next heq => cases hdigits 'b' (heq ▸ List.mem_cons_of_mem _ List.mem_cons_self)
    · rfl

/-- The decimal of a number is a literal of that value. -/
theorem wholeValue?_ofNat (n : Nat) : Literal.wholeValue? (Decimal.ofNat n) = some n := by
  have htext : (plainNumeral n).text = Decimal.ofNat n := List.append_nil _
  have hvalue : (plainNumeral n).value = n := by
    show Literal.valueFrom 10 0 (Decimal.ofNat n) = n
    rw [valueFrom_of_isDigit fun c hc => Decimal.isDigit_of_mem_ofNat hc]
    exact Nat.ofDigitChars_ten_toDigits
  rw [← htext, Literal.Numeral.wholeValue?_text, hvalue]

theorem exists_spellsExponent (n : Int) : ∃ ts, SpellsExponent n ts := by
  cases n with
  | ofNat m => exact ⟨_, .plain .whole (wholeValue?_ofNat m)⟩
  | negSucc m => exact ⟨_, .negative false .whole .whole (wholeValue?_ofNat (m + 1))⟩

/-- Nothing that may follow a path in the attribute continues it. -/
theorem endsPath_of_spelled {comma rest : List Tree} {es : List Given} (hcomma : IsComma comma)
    (hrest : Spelled es rest) : EndsPath (comma ++ rest) := by
  cases hcomma with
  | present joint span => exact ⟨rfl, rfl⟩
  | absent => cases hrest <;> exact ⟨rfl, rfl⟩

/-- A path without arguments can be given anywhere in the attribute. -/
theorem spelled_plainPath (written : PlainPath) (span : Span) (joint : Bool) (sign : Span)
    {comma rest : List Tree} {es : List Given} (hcomma : IsComma comma) (hrest : Spelled es rest) :
    Spelled (.path written.path :: es)
      (.ident (.plain "crate".toList) span :: .punct '=' joint sign :: (written.trees ++ (comma ++ rest))) :=
  .path span joint sign (reads_plainPath written (endsPath_of_spelled hcomma hrest)) hcomma hrest

/-- The entry can be written: a physical axis, and any exponent; or a path without arguments. -/
def Given.Writable : Given → Prop
  | exponent axis _ => axis ∈ Axis.physical
  | path p => ∃ written : PlainPath, written.path = p

theorem exists_spelled (es : List Given) (h : ∀ g ∈ es, g.Writable) : ∃ ts, Spelled es ts := by
  induction es with
  | nil => exact ⟨[], .nil⟩
  | cons g es ih =>
    obtain ⟨rest, hrest⟩ := ih fun g' hg' => h g' (List.mem_cons_of_mem _ hg')
    have hwritable := h g List.mem_cons_self
    have hcomma : IsComma [.punct ',' false .whole] := .present false .whole
    cases g with
    | exponent axis n =>
      obtain ⟨value, hvalue⟩ := exists_spellsExponent n
      exact ⟨_, .exponent .whole false .whole hwritable hvalue hcomma hrest⟩
    | path p =>
      obtain ⟨written, rfl⟩ := hwritable
      exact ⟨_, spelled_plainPath written .whole false .whole hcomma hrest⟩

end Dimensional.Derive
