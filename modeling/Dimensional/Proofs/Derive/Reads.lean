import Dimensional.Derive.Attribute

/-!
# Readings of what is written

`Reads r ts rest a` says that a reading takes the tokens `ts` in front of `rest`, whatever has been read
before, and answers `a`.  The relation goes along sequences, so that what is written piece by piece is read
piece by piece.

* `Reads.bind` — one reading after another;
* `reads_mark`, `reads_name` — single tokens;
* `reads_plainPath` — a path without arguments is read wherever nothing continues it.
-/

namespace Dimensional.Derive

open Source

variable {ε α β : Type} {ts us rest : List Tree}

/-- The reading takes these tokens in front of those, and answers this. -/
def Reads (r : Reading ε α) (ts rest : List Tree) (a : α) : Prop :=
  ∀ c : Cursor, c.tokens = ts ++ rest →
    ∃ written, r.run c = .ok (a, { c with tokens := rest, written := written })

/-! ### Sequences -/

theorem Reads.pure (a : α) (rest : List Tree) : Reads (ε := ε) (Pure.pure a) [] rest a := by
  rintro ⟨tokens, close, leftover, written⟩ rfl
  exact ⟨written, rfl⟩

theorem Reads.bind {r : Reading ε α} {f : α → Reading ε β} {a : α} {b : β}
    (hr : Reads r ts (us ++ rest) a) (hf : Reads (f a) us rest b) : Reads (r >>= f) (ts ++ us) rest b := by
  intro c hc
  obtain ⟨written, hrun⟩ := hr c (hc.trans (List.append_assoc ts us rest))
  obtain ⟨written', hrun'⟩ := hf { c with tokens := us ++ rest, written := written } rfl
  exact ⟨written', (Reading.run_bind_of_ok hrun).trans hrun'⟩

/-- A reading that takes nothing, in front of another. -/
theorem Reads.first {r : Reading ε α} {f : α → Reading ε β} {a : α} {b : β}
    (hr : Reads r [] (ts ++ rest) a) (hf : Reads (f a) ts rest b) : Reads (r >>= f) ts rest b :=
  Reads.bind hr hf

/-- A reading behind which nothing more is taken. -/
theorem Reads.last {r : Reading ε α} {f : α → Reading ε β} {a : α} {b : β}
    (hr : Reads r ts rest a) (hf : Reads (f a) [] rest b) : Reads (r >>= f) ts rest b := by
  have hbind : Reads (r >>= f) (ts ++ []) rest b := Reads.bind hr hf
  rw [List.append_nil] at hbind
  exact hbind

/-- A reading that looks at what is next. -/
theorem Reads.tokens {f : List Tree → Reader β} {b : β} (h : Reads (f (ts ++ rest)) ts rest b) :
    Reads (Derive.tokens >>= f) ts rest b := by
  intro c hc
  obtain ⟨written, hrun⟩ := h c hc
  refine ⟨written, ?_⟩
  rw [← hrun, ← hc]
  rfl

/-- A reading that asks about what is next. -/
theorem Reads.next {question : List Tree → Bool} {f : Bool → Reader β} {b : β} {answer : Bool}
    (hanswer : question (ts ++ rest) = answer) (h : Reads (f answer) ts rest b) :
    Reads (Derive.next question >>= f) ts rest b := by
  intro c hc
  obtain ⟨written, hrun⟩ := h c hc
  refine ⟨written, ?_⟩
  rw [← hrun, ← hanswer, ← hc]
  rfl

theorem Reads.lift {r : Reader α} {a : α} (h : Reads r ts rest a) :
    Reads (liftM r : Reading Failure α) ts rest a := by
  intro c hc
  obtain ⟨written, hrun⟩ := h c hc
  exact ⟨written, Reading.liftM_eq_ok.2 hrun⟩

/-! ### Tokens -/

theorem reads_name (i : Ident) (span : Span) (rest : List Tree) : Reads name [.ident i span] rest (i, span) := by
  rintro ⟨tokens, close, leftover, written⟩ rfl
  exact ⟨_, rfl⟩

theorem reads_ident {i : Ident} (h : isKeyword i = false) (span : Span) (rest : List Tree) :
    Reads ident [.ident i span] rest (i, span) := by
  rintro ⟨tokens, close, leftover, written⟩ rfl
  refine ⟨written ++ [.ident i span], ?_⟩
  show (if isKeyword i then _ else _ : Reader (Ident × Span)).run _ = _
  rw [h]
  rfl

theorem reads_mark {s : String} (hlength : ts.length = s.toList.length) (hnext : nextIsMark s (ts ++ rest) = true) :
    Reads (mark s) ts rest () := by
  intro c hc
  refine ⟨c.written ++ markTrees s.toList, ?_⟩
  rw [mark_of_next (hc ▸ hnext), Cursor.behindMark, hc, ← hlength, List.drop_left]

theorem reads_mark? {s : String} (hlength : ts.length = s.toList.length)
    (hnext : nextIsMark s (ts ++ rest) = true) : Reads (mark? s) ts rest true := by
  intro c hc
  refine ⟨c.written ++ markTrees s.toList, ?_⟩
  rw [mark?_of_next (hc ▸ hnext), Cursor.behindMark, hc, ← hlength, List.drop_left]

theorem reads_no_mark {s : String} (hnext : nextIsMark s rest = false) : Reads (mark? s) [] rest false := by
  intro c hc
  obtain rfl : c.tokens = rest := hc
  refine ⟨c.written, mark?_of_not_next ?_⟩
  rw [hnext]
  exact Bool.false_ne_true

/-! ### Paths without arguments -/

/-- The identifier may be a segment of a path. -/
def MayStand (i : Ident) : Prop :=
  isKeyword i = false ∨ i ∈ (["super", "self", "crate", "try", "Self"].map fun s => Ident.plain s.toList)

instance (i : Ident) : Decidable (MayStand i) := inferInstanceAs (Decidable (_ ∨ _))

/-- No arguments follow a segment. -/
structure NoArguments (rest : List Tree) : Prop where
  noAngle : Grammar.nextIsAngle rest = false
  noTurbofish : Grammar.nextIsTurbofish rest = false

/-- Behind a segment without arguments, its identifier is all there is. -/
theorem reads_afterSegment (g : Grammar.Rules) (i : Ident) (h : NoArguments rest) :
    Reads (do
      let ts ← tokens
      if (!false && Grammar.nextIsAngle ts) || Grammar.nextIsTurbofish ts then
        let (_, read) ← capture do
          let _ ← mark? "::"
          g.arguments
        write read
        return ⟨i, Tree.render read⟩
      else return ⟨i, []⟩ : Reader Segment) [] rest ⟨i, []⟩ := by
  refine Reads.tokens ?_
  rw [List.nil_append, h.noAngle, h.noTurbofish]
  exact Reads.pure _ _

theorem reads_segment (g : Grammar.Rules) {i : Ident} (hi : MayStand i) (span : Span) (h : NoArguments rest) :
    Reads (Grammar.segment g false) [.ident i span] rest ⟨i, []⟩ := by
  have hafter := reads_afterSegment g i h
  by_cases hword : nextIsWordIn ["super", "self", "crate", "try"] (.ident i span :: rest) = true
  · refine Reads.next hword ?_
    refine Reads.last (reads_name i span rest) ?_
    exact Reads.pure _ rest
  · refine Reads.next (Bool.eq_false_iff.2 hword) ?_
    by_cases hself : nextIsWord "Self" (.ident i span :: rest) = true
    · refine Reads.next hself ?_
      refine Reads.last (reads_name i span rest) ?_
      exact hafter
    · have hident : isKeyword i = false := by
        rcases hi with hident | hmem
        · exact hident
        · simp only [List.map_cons, List.map_nil, List.mem_cons, List.not_mem_nil, or_false] at hmem
          rcases hmem with rfl | rfl | rfl | rfl | rfl
          · exact absurd rfl hword
          · exact absurd rfl hword
          · exact absurd rfl hword
          · exact absurd rfl hword
          · exact absurd rfl hself
      refine Reads.next (Bool.eq_false_iff.2 hself) ?_
      refine Reads.last (reads_ident hident span rest) ?_
      exact hafter

/-- The separator of a path. -/
structure Separator where
  first : Span
  joint : Bool
  second : Span

def Separator.trees (s : Separator) : List Tree := [.punct ':' true s.first, .punct ':' s.joint s.second]

/-- A path without arguments as it is written. -/
structure PlainPath where
  leading? : Option Separator
  first : Ident × Span
  more : List (Separator × Ident × Span)
  firstStands : MayStand first.1
  moreStand : ∀ s ∈ more, MayStand s.2.1

namespace PlainPath

def segmentTrees (s : Separator × Ident × Span) : List Tree := s.1.trees ++ [.ident s.2.1 s.2.2]

def trees (p : PlainPath) : List Tree :=
  (p.leading?.map Separator.trees).getD [] ++ (.ident p.first.1 p.first.2 :: p.more.flatMap segmentTrees)

/-- The path that is written. -/
def path (p : PlainPath) : Path := .ofIdents p.leading?.isSome p.first.1 (p.more.map fun s => s.2.1)

end PlainPath

/-- Nothing here continues a path. -/
structure EndsPath (rest : List Tree) : Prop where
  noSeparator : nextIsMark "::" rest = false
  noAngle : nextIsMark "<" rest = false

theorem EndsPath.noArguments (h : EndsPath rest) : NoArguments rest where
  noAngle := by rw [Grammar.nextIsAngle, h.noAngle]; rfl
  noTurbofish := by rw [Grammar.nextIsTurbofish, h.noSeparator]; rfl

theorem noArguments_segments (more : List (Separator × Ident × Span)) (h : EndsPath rest) :
    NoArguments (more.flatMap PlainPath.segmentTrees ++ rest) := by
  cases more with
  | nil => exact h.noArguments
  | cons s more => exact ⟨rfl, rfl⟩

theorem reads_segmentsFor (g : Grammar.Rules) (h : EndsPath rest) (more : List (Separator × Ident × Span))
    (hmore : ∀ s ∈ more, MayStand s.2.1) :
    ∀ fuel, more.length ≤ fuel →
      Reads (Grammar.segmentsFor g false (fun ts => !nextIsGroup .parenthesis (ts.drop 2)) fuel)
        (more.flatMap PlainPath.segmentTrees) rest (more.map fun s => ⟨s.2.1, []⟩) := by
  induction more with
  | nil =>
    intro fuel _
    cases fuel with
    | zero => exact Reads.pure _ _
    | succ fuel =>
      have hnone : (nextIsMark "::" rest && !nextIsGroup .parenthesis (rest.drop 2)) = false := by
        rw [h.noSeparator]
        rfl
      refine Reads.next hnone ?_
      exact Reads.pure _ _
  | cons s more ih =>
    intro fuel hfuel
    cases fuel with
    | zero => cases hfuel
    | succ fuel =>
      obtain ⟨separator, i, span⟩ := s
      have htail := ih (fun t ht => hmore t (List.mem_cons_of_mem _ ht)) fuel (Nat.le_of_succ_le_succ hfuel)
      have hsegment := reads_segment g (hmore _ List.mem_cons_self) span (noArguments_segments more h)
      have hmark : Reads (mark "::") separator.trees
          ([.ident i span] ++ more.flatMap PlainPath.segmentTrees ++ rest) () := reads_mark rfl rfl
      have hmore : (fun ts => nextIsMark "::" ts && !nextIsGroup .parenthesis (ts.drop 2))
          (separator.trees ++ ([.ident i span] ++ more.flatMap PlainPath.segmentTrees) ++ rest) = true := rfl
      show Reads _ (separator.trees ++ ([.ident i span] ++ more.flatMap PlainPath.segmentTrees)) rest _
      refine Reads.next hmore ?_
      refine Reads.bind hmark ?_
      refine Reads.bind hsegment ?_
      refine Reads.last htail ?_
      exact Reads.pure _ rest

theorem length_le_segments (more : List (Separator × Ident × Span)) :
    more.length ≤ (more.flatMap PlainPath.segmentTrees).length := by
  induction more with
  | nil => exact Nat.le_refl 0
  | cons s more ih =>
    have hcons : ((s :: more).flatMap PlainPath.segmentTrees).length =
        3 + (more.flatMap PlainPath.segmentTrees).length := by
      rw [List.flatMap_cons, List.length_append]
      rfl
    rw [hcons, List.length_cons]
    omega

/-- The segments of a path, behind its separator if it has one. -/
theorem reads_segments (p : PlainPath) (h : EndsPath rest) (g : Grammar.Rules) {fuel : Nat}
    (hfuel : p.more.length ≤ fuel) (leading : Bool) :
    Reads (do
      let first ← Grammar.segment g false
      return ⟨leading, first,
        ← Grammar.segmentsFor g false (fun ts => !nextIsGroup .parenthesis (ts.drop 2)) fuel⟩ : Reader Path)
      ([.ident p.first.1 p.first.2] ++ p.more.flatMap PlainPath.segmentTrees) rest
      (.ofIdents leading p.first.1 (p.more.map fun s => s.2.1)) := by
  have hfirst := reads_segment g p.firstStands p.first.2 (noArguments_segments p.more h)
  have hmore := reads_segmentsFor g h p.more p.moreStand fuel hfuel
  refine Reads.bind hfirst ?_
  refine Reads.last hmore ?_
  rw [Path.ofIdents, List.map_map]
  exact Reads.pure _ rest

/-- **A path without arguments is read wherever nothing continues it.** -/
theorem reads_plainPath (p : PlainPath) (h : EndsPath rest) : Reads Path.read p.trees rest p.path := by
  have hlength := length_le_segments p.more
  refine Reads.tokens ?_
  refine Reads.tokens ?_
  have hfuel : p.more.length ≤ (p.trees ++ rest).length := by
    rw [List.length_append, PlainPath.trees, List.length_append, List.length_cons]
    omega
  have hsegments := reads_segments p h (Grammar.Rules.enough (p.trees ++ rest)) hfuel
  rw [PlainPath.path]
  cases hleading : p.leading? with
  | none =>
    have htrees : p.trees = [.ident p.first.1 p.first.2] ++ p.more.flatMap PlainPath.segmentTrees := by
      rw [PlainPath.trees, hleading]
      rfl
    rw [htrees] at hsegments ⊢
    exact Reads.first (reads_no_mark rfl) (hsegments false)
  | some separator =>
    have htrees : p.trees =
        separator.trees ++ ([.ident p.first.1 p.first.2] ++ p.more.flatMap PlainPath.segmentTrees) := by
      rw [PlainPath.trees, hleading]
      rfl
    rw [htrees] at hsegments ⊢
    exact Reads.bind (reads_mark? rfl rfl) (hsegments true)

end Dimensional.Derive
