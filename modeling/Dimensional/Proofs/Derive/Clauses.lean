import Dimensional.Proofs.Derive.Spelling

/-!
# The clauses of an attribute

A clause is `key = value` with a comma behind it or none; the key is any name, and the value a path or an
integer. A draft keeps to some clauses (`Keeps`) if it has what they give and nothing else. Reading a clause
that fits takes the draft from the clauses before it to those with it, so that reading a list of clauses in
order leads to a draft that keeps to all of them.

* `ofIdent?_eq_axis`, `ofIdent?_eq_path`, `known_iff` — which names are keys;
* `isPath_plainPath` — a path without arguments is a path wherever it stands;
* `Keeps.entry` — one clause; `reaches_of_inOrder` — a list of them.
-/

namespace Dimensional.Derive

open Source Draft

/-! ### Keys -/

/-- The name is the key of something. -/
def Known (i : Ident) : Prop :=
  i ∈ ["time", "mass", "length", "angle", "crate"].map fun s => Ident.plain s.toList

instance (i : Ident) : Decidable (Known i) := inferInstanceAs (Decidable (_ ∈ _))

theorem ofIdent?_eq_path {i : Ident} : Key.ofIdent? i = some .path ↔ i = .plain "crate".toList := by
  constructor
  · intro h
    unfold Key.ofIdent? at h
    split at h
    · cases h
    · next hraw =>
      split at h
      · next hname =>
        obtain ⟨raw, name⟩ := i
        cases raw
        · exact congrArg _ hname
        · exact absurd rfl hraw
      · obtain ⟨axis, -, hkey⟩ := Option.map_eq_some_iff.1 h
        cases hkey
  · intro h
    rw [h]
    rfl

theorem ofIdent?_eq_axis {i : Ident} {axis : Axis} :
    Key.ofIdent? i = some (.axis axis) ↔ axis ∈ Axis.physical ∧ i = .plain axis.name.toList := by
  constructor
  · intro h
    unfold Key.ofIdent? at h
    split at h
    · cases h
    · next hraw =>
      split at h
      · cases h
      · obtain ⟨found, hfind, hkey⟩ := Option.map_eq_some_iff.1 h
        cases hkey
        have hname : axis.name.toList = i.name := by simpa using List.find?_some hfind
        obtain ⟨raw, name⟩ := i
        cases raw
        · exact ⟨List.mem_of_find?_eq_some hfind, congrArg _ hname.symm⟩
        · exact absurd rfl hraw
  · intro h
    rw [h.2]
    exact ofIdent?_axis h.1

theorem known_iff {i : Ident} : Known i ↔ ∃ key, Key.ofIdent? i = some key := by
  constructor
  · intro h
    simp only [Known, List.map_cons, List.map_nil, List.mem_cons, List.not_mem_nil, or_false] at h
    rcases h with rfl | rfl | rfl | rfl | rfl
    · exact ⟨.axis .time, rfl⟩
    · exact ⟨.axis .mass, rfl⟩
    · exact ⟨.axis .length, rfl⟩
    · exact ⟨.axis .angle, rfl⟩
    · exact ⟨.path, rfl⟩
  · intro h
    obtain ⟨key, hkey⟩ := h
    cases key with
    | path =>
      rw [ofIdent?_eq_path.1 hkey]
      decide
    | axis axis =>
      have hall : ∀ axis ∈ Axis.physical, Known (.plain axis.name.toList) := by decide
      obtain ⟨haxis, hi⟩ := ofIdent?_eq_axis.1 hkey
      rw [hi]
      exact hall axis haxis

theorem ofIdent?_eq_none {i : Ident} : Key.ofIdent? i = none ↔ ¬ Known i := by
  rw [known_iff]
  cases Key.ofIdent? i with
  | none => simp
  | some key => simp

/-- Different names are different keys. -/
theorem ofIdent?_injective {i j : Ident} {key : Key} (hi : Key.ofIdent? i = some key)
    (hj : Key.ofIdent? j = some key) : i = j := by
  cases key with
  | axis axis => exact (ofIdent?_eq_axis.1 hi).2.trans (ofIdent?_eq_axis.1 hj).2.symm
  | path => exact (ofIdent?_eq_path.1 hi).trans (ofIdent?_eq_path.1 hj).symm

/-! ### Values -/

/-- What can stand behind a value: the end, a comma, or the key of another clause. -/
inductive BehindValue : List Tree → Prop
  | nil : BehindValue []
  | comma (joint : Bool) (span : Span) (rest : List Tree) : BehindValue (.punct ',' joint span :: rest)
  | key (i : Ident) (span : Span) (rest : List Tree) : BehindValue (.ident i span :: rest)

/-- The tokens are this path wherever they stand as a value. -/
def IsPath (ts : List Tree) (p : Path) : Prop := ∀ rest, BehindValue rest → Reads Path.read ts rest p

theorem BehindValue.endsPath {rest : List Tree} (h : BehindValue rest) : EndsPath rest := by
  cases h <;> exact ⟨rfl, rfl⟩

theorem isPath_plainPath (p : PlainPath) : IsPath p.trees p.path := fun _ hrest =>
  reads_plainPath p hrest.endsPath

/-- Without a name and without a separator there is no path. -/
theorem read_of_no_name {c : Cursor} (hname : nextIsName c.tokens = false)
    (hmark : nextIsMark "::" c.tokens = false) :
    Path.read.run c = .error (c.report (.expected ["identifier".toList])) := by
  have hnone : (mark? "::").run c = .ok (false, c) :=
    mark?_of_not_next (by rw [hmark]; exact Bool.false_ne_true)
  have hsegment : ∀ g, (Grammar.segment g false).run c =
      .error (c.report (.expected ["identifier".toList])) := by
    intro g
    obtain ⟨tokens, close, leftover, written⟩ := c
    cases tokens with
    | nil => rfl
    | cons t rest =>
      cases t with
      | ident i span => cases hname
      | punct d joint span => rfl
      | literal text span => rfl
      | group d inner span opening closing => rfl
  have htokens : tokens.run c = .ok (c.tokens, c) := rfl
  rw [Path.read, Reading.run_bind_of_ok htokens, Grammar.path, Reading.run_bind_of_ok htokens,
    Reading.run_bind_of_ok hnone]
  exact Reading.run_bind_of_error (hsegment _)

/-- A path begins with a name or a separator. -/
theorem IsPath.head {ts : List Tree} {p : Path} (h : IsPath ts p) :
    ∃ t rest, ts = t :: rest ∧ ((∃ i span, t = .ident i span) ∨ ∃ joint span, t = .punct ':' joint span) := by
  obtain ⟨written, hrun⟩ := h [] .nil ⟨ts, .whole, none, []⟩ (List.append_nil ts).symm
  cases ts with
  | nil =>
    rw [read_of_no_name rfl rfl] at hrun
    cases hrun
  | cons t rest =>
    refine ⟨t, rest, rfl, ?_⟩
    cases t with
    | ident i span => exact .inl ⟨i, span, rfl⟩
    | punct d joint span =>
      by_cases hcolon : d = ':'
      · rw [hcolon]
        exact .inr ⟨joint, span, rfl⟩
      · have hmark : nextIsMark "::" (.punct d joint span :: rest) = false := by
          have hne : ¬ (':' = d ∧ joint = true) := fun heq => hcolon heq.1.symm
          show (takeMark [':', ':'] (.punct d joint span :: rest)).isSome = false
          simp only [takeMark, if_neg hne]
          rfl
        rw [read_of_no_name rfl hmark] at hrun
        cases hrun
    | literal text span =>
      rw [read_of_no_name rfl rfl] at hrun
      cases hrun
    | group d inner span opening closing =>
      rw [read_of_no_name rfl rfl] at hrun
      cases hrun

/-! ### Clauses -/

/-- What a clause gives. -/
inductive ClauseValue where
  | path (p : Path)
  | integer (n : Int)
  deriving DecidableEq

/-- The tokens spell this value. -/
inductive SpellsValue : ClauseValue → List Tree → Prop
  | path {p : Path} {ts : List Tree} (h : IsPath ts p) : SpellsValue (.path p) ts
  | integer {n : Int} {ts : List Tree} (h : SpellsExponent n ts) : SpellsValue (.integer n) ts

/-- A clause as it is written. -/
structure Clause where
  key : Ident
  span : Span
  /-- The equals sign, and whether a mark stands right behind it. -/
  joint : Bool
  sign : Span
  value : ClauseValue
  spelling : List Tree
  comma : List Tree
  isSpelling : SpellsValue value spelling
  isComma : IsComma comma

namespace Clause

def trees (c : Clause) : List Tree :=
  .ident c.key c.span :: .punct '=' c.joint c.sign :: (c.spelling ++ c.comma)

/-- What the clause says, however it is written. -/
def meaning (c : Clause) : Ident × ClauseValue := (c.key, c.value)

/-- The clause gives an axis an exponent within the bound, or the crate a path. -/
def Fits (c : Clause) : Prop :=
  (∃ axis ∈ Axis.physical, ∃ n, c.key = .plain axis.name.toList ∧ c.value = .integer n ∧ Bounded n) ∨
    ∃ p, c.key = .plain "crate".toList ∧ c.value = .path p

end Clause

/-- Clauses one after the other. -/
def clauseTrees (cs : List Clause) : List Tree := cs.flatMap Clause.trees

/-- Every clause fits, and no key comes twice. -/
structure InOrder (cs : List Clause) : Prop where
  fits : ∀ c ∈ cs, c.Fits
  once : (cs.map Clause.key).Nodup

@[simp] theorem clauseTrees_nil : clauseTrees [] = [] := rfl

@[simp] theorem clauseTrees_cons (c : Clause) (cs : List Clause) :
    clauseTrees (c :: cs) = c.trees ++ clauseTrees cs := List.flatMap_cons

@[simp] theorem clauseTrees_append (cs cs' : List Clause) :
    clauseTrees (cs ++ cs') = clauseTrees cs ++ clauseTrees cs' := List.flatMap_append

theorem no_comma_clauseTrees (cs : List Clause) : nextIsMark "," (clauseTrees cs) = false := by
  cases cs <;> rfl

theorem behindValue_clauseTrees {comma : List Tree} (h : IsComma comma) (cs : List Clause) :
    BehindValue (comma ++ clauseTrees cs) := by
  cases h with
  | present joint span => exact .comma joint span _
  | absent =>
    cases cs with
    | nil => exact .nil
    | cons c cs => exact .key _ _ _

theorem InOrder.nil : InOrder [] := ⟨nofun, List.nodup_nil⟩

/-- A clause behind others is in order if it fits and its key is new. -/
theorem inOrder_snoc {cs : List Clause} {c : Clause} :
    InOrder (cs ++ [c]) ↔ InOrder cs ∧ c.Fits ∧ ∀ b ∈ cs, b.key ≠ c.key := by
  constructor
  · intro h
    have honce := h.once
    rw [List.map_append, List.nodup_append] at honce
    obtain ⟨hcs, -, hother⟩ := honce
    refine ⟨⟨fun b hb => h.fits b (List.mem_append_left _ hb), hcs⟩, h.fits c (by simp), ?_⟩
    intro b hb
    exact hother _ (List.mem_map_of_mem hb) _ (by simp)
  · intro h
    obtain ⟨hcs, hfits, hnew⟩ := h
    constructor
    · intro b hb
      rcases List.mem_append.1 hb with hb | hb
      · exact hcs.fits b hb
      · rw [List.mem_singleton.1 hb]
        exact hfits
    · rw [List.map_append, List.nodup_append]
      refine ⟨hcs.once, by simp, ?_⟩
      intro i hi j hj
      obtain ⟨b, hb, hkey⟩ := List.mem_map.1 hi
      have hj' : j = c.key := by simpa using hj
      rw [← hkey, hj']
      exact hnew b hb

theorem InOrder.of_append {cs cs' : List Clause} (h : InOrder (cs ++ cs')) : InOrder cs where
  fits c hc := h.fits c (List.mem_append_left _ hc)
  once := by
    have honce := h.once
    rw [List.map_append] at honce
    exact (List.nodup_append.1 honce).1

/-! ### The draft of some clauses -/

/-- The draft has what the clauses give, and no more. -/
structure Keeps (cs : List Clause) (d : Draft) : Prop where
  has : ∀ key, d.has key = true ↔ ∃ c ∈ cs, Key.ofIdent? c.key = some key
  exponent : ∀ c ∈ cs, ∀ axis n, Key.ofIdent? c.key = some (.axis axis) → c.value = .integer n →
    (d.exponents.get axis).map Fixed.toInt = some n
  path : ∀ c ∈ cs, ∀ p, Key.ofIdent? c.key = some .path → c.value = .path p → d.path = some p

theorem keeps_empty : Keeps [] empty where
  has key := by
    cases key with
    | path => simp [Draft.has, empty]
    | axis axis => simp [Draft.has, empty, PerAxis.get_const]
  exponent c hc := nomatch hc
  path c hc := nomatch hc

variable {cs : List Clause} {c : Clause} {d : Draft}

/-- The key of a clause is new to the draft if it is new to the clauses. -/
theorem Keeps.new {key : Key} (h : Keeps cs d) (hkey : Key.ofIdent? c.key = some key) :
    ¬ d.has key = true ↔ ∀ b ∈ cs, b.key ≠ c.key := by
  rw [h.has]
  constructor
  · intro hnone b hb heq
    exact hnone ⟨b, hb, heq ▸ hkey⟩
  · intro hnew hsome
    obtain ⟨b, hb, hbkey⟩ := hsome
    exact hnew b hb (ofIdent?_injective hbkey hkey)

/-- A draft with the exponent of one more clause. -/
theorem Keeps.set {axis : Axis} {a : Fixed .i32} (h : Keeps cs d)
    (hkey : Key.ofIdent? c.key = some (.axis axis)) (hnew : ∀ b ∈ cs, b.key ≠ c.key)
    (hvalue : c.value = .integer a.toInt) :
    Keeps (cs ++ [c]) { d with exponents := d.exponents.set axis (some a) } where
  has key := by
    by_cases hsame : key = .axis axis
    · rw [hsame]
      simp [Draft.has, PerAxis.get_set_self, hkey]
    · rw [has_set hsame, h.has]
      have hother : Key.ofIdent? c.key ≠ some key := fun heq =>
        hsame (Option.some.inj (heq.symm.trans hkey))
      simp [hother, or_and_right, exists_or]
  exponent b hb other n hbkey hbvalue := by
    rcases List.mem_append.1 hb with hb | hb
    · have hne : other ≠ axis := by
        intro heq
        rw [heq] at hbkey
        exact hnew b hb (ofIdent?_injective hbkey hkey)
      show ((d.exponents.set axis (some a)).get other).map Fixed.toInt = some n
      rw [PerAxis.get_set_other _ _ hne]
      exact h.exponent b hb other n hbkey hbvalue
    · rw [List.mem_singleton.1 hb] at hbkey hbvalue
      cases hkey.symm.trans hbkey
      cases hvalue.symm.trans hbvalue
      show ((d.exponents.set axis (some a)).get axis).map Fixed.toInt = some a.toInt
      rw [PerAxis.get_set_self]
      rfl
  path b hb p hbkey hbvalue := by
    rcases List.mem_append.1 hb with hb | hb
    · exact h.path b hb p hbkey hbvalue
    · rw [List.mem_singleton.1 hb, hkey] at hbkey
      cases hbkey

/-- A draft with the path of one more clause. -/
theorem Keeps.setPath {p : Path} (h : Keeps cs d) (hkey : Key.ofIdent? c.key = some .path)
    (hnew : ∀ b ∈ cs, b.key ≠ c.key) (hvalue : c.value = .path p) :
    Keeps (cs ++ [c]) { d with path := some p } where
  has key := by
    by_cases hsame : key = .path
    · rw [hsame]
      simp [Draft.has, hkey]
    · rw [has_path hsame, h.has]
      have hother : Key.ofIdent? c.key ≠ some key := fun heq =>
        hsame (Option.some.inj (heq.symm.trans hkey))
      simp [hother, or_and_right, exists_or]
  exponent b hb axis n hbkey hbvalue := by
    rcases List.mem_append.1 hb with hb | hb
    · exact h.exponent b hb axis n hbkey hbvalue
    · rw [List.mem_singleton.1 hb, hkey] at hbkey
      cases hbkey
  path b hb q hbkey hbvalue := by
    rcases List.mem_append.1 hb with hb | hb
    · exact absurd (ofIdent?_injective hbkey hkey) (hnew b hb)
    · rw [List.mem_singleton.1 hb] at hbvalue
      cases hvalue.symm.trans hbvalue
      rfl

/-! ### Reading clauses -/

theorem tokens_of_clause {s : List Tree} {after : List Clause} (h : s = clauseTrees (c :: after)) :
    s = .ident c.key c.span :: .punct '=' c.joint c.sign :: (c.spelling ++ (c.comma ++ clauseTrees after)) := by
  rw [h, clauseTrees_cons, Clause.trees]
  simp

/-- **A clause that fits is read**, and the draft keeps to one clause more. -/
theorem Keeps.entry {cursor : Cursor} {after : List Clause} (h : Keeps cs d) (hfits : c.Fits)
    (hnew : ∀ b ∈ cs, b.key ≠ c.key) (htokens : cursor.tokens = clauseTrees (c :: after)) :
    ∃ d' written, Draft.Entry (d, cursor) (d', { cursor with tokens := clauseTrees after, written := written }) ∧
      Keeps (cs ++ [c]) d' := by
  have htokens' := tokens_of_clause htokens
  have hcomma := no_comma_clauseTrees after
  have hspelling := c.isSpelling
  rcases hfits with ⟨axis, haxis, n, hkey, hvalue, hbounded⟩ | ⟨p, hkey, hvalue⟩
  · rw [hvalue] at hspelling
    obtain ⟨-⟩ | ⟨hspells⟩ := hspelling
    obtain ⟨a, ha, hreads⟩ := reads_exponent hspells hbounded
    have hkey' : Key.ofIdent? c.key = some (.axis axis) := ofIdent?_eq_axis.2 ⟨haxis, hkey⟩
    have hread : Reads (d.readValue (.axis axis)) c.spelling (c.comma ++ clauseTrees after)
        { d with exponents := d.exponents.set axis (some a) } :=
      Reads.last (hreads _) (Reads.pure _ _)
    obtain ⟨written, hentry⟩ := entry_of_value htokens' hkey' ((h.new hkey').2 hnew) hread c.isComma hcomma
    refine ⟨_, written, hentry, h.set hkey' hnew ?_⟩
    rw [hvalue, ha]
  · rw [hvalue] at hspelling
    obtain ⟨hpath⟩ | ⟨-⟩ := hspelling
    have hkey' : Key.ofIdent? c.key = some .path := ofIdent?_eq_path.2 hkey
    have hread : Reads (d.readValue .path) c.spelling (c.comma ++ clauseTrees after) { d with path := some p } :=
      Reads.last (Reads.lift (hpath _ (behindValue_clauseTrees c.isComma after))) (Reads.pure _ _)
    obtain ⟨written, hentry⟩ := entry_of_value htokens' hkey' ((h.new hkey').2 hnew) hread c.isComma hcomma
    exact ⟨_, written, hentry, h.setPath hkey' hnew hvalue⟩

/-- **Clauses in order are read one after the other**, whatever clauses follow them. -/
theorem reaches_of_inOrder (after : List Clause) (cs : List Clause) :
    ∀ (before : List Clause) (d : Draft) (cursor : Cursor), Keeps before d → InOrder (before ++ cs) →
      cursor.tokens = clauseTrees (cs ++ after) →
        ∃ d' written, Reaches (d, cursor) (d', { cursor with tokens := clauseTrees after, written := written }) ∧
          Keeps (before ++ cs) d' := by
  induction cs with
  | nil =>
    intro before d cursor hkeeps _ htokens
    obtain ⟨tokens, close, leftover, written⟩ := cursor
    obtain rfl : tokens = clauseTrees after := htokens
    exact ⟨d, written, .refl, by simpa using hkeeps⟩
  | cons c cs ih =>
    intro before d cursor hkeeps horder htokens
    have hsnoc : before ++ c :: cs = before ++ [c] ++ cs := by simp
    rw [hsnoc] at horder ⊢
    obtain ⟨-, hfits, hnew⟩ := inOrder_snoc.1 horder.of_append
    obtain ⟨d', written, hentry, hkeeps'⟩ := hkeeps.entry hfits hnew htokens
    obtain ⟨d'', written', hreach, hkeeps''⟩ :=
      ih (before ++ [c]) d' { cursor with tokens := clauseTrees (cs ++ after), written := written } hkeeps' horder rfl
    exact ⟨d'', written', .head hentry hreach, hkeeps''⟩

end Dimensional.Derive
