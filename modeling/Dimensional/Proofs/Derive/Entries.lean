import Dimensional.Derive.Derivation
import Mathlib.Logic.Relation

/-!
# The run of the entries

The attribute is read entry by entry.  A `Stage` is what has been read so far together with what is left;
`Entry s t` says that one entry leads from stage `s` to stage `t`, and `Reaches` is its closure.  An entry
takes a token at least, so the number of tokens bounds the run, and reading is nothing but that run:

* `readEntries_outcome` — reading goes on until no token is left, or until an entry is refused;
* `readEntries_of_reaches` — every stage of the run is a stage of the reading;
* `read_eq_fault_iff`, `reaches_of_read` — the outcome of an attribute in terms of its run.

An entry does one of two things (`entry_cases`): it gives an exponent to an axis that had none, or it gives
the path.  What an axis has been given it keeps (`given_of_reaches`).
-/

namespace Dimensional.Derive.Draft

open Source

/-- What has been read, and what is left. -/
abbrev Stage := Draft × Cursor

/-- One entry leads from a stage to another. -/
def Entry (s t : Stage) : Prop := s.1.readEntry.run s.2 = .ok t

/-- Some entries lead from a stage to another. -/
abbrev Reaches : Stage → Stage → Prop := Relation.ReflTransGen Entry

/-- The stage before the first of some tokens. -/
def start (ts : List Tree) (close : Span) : Stage := (empty, { tokens := ts, close })

theorem entry_unique : Relator.RightUnique Entry := by
  intro s t u hst hsu
  rw [Entry, hsu] at hst
  exact (Except.ok.inj hst).symm

/-! ### What an entry does -/

/-- The next entry gives these tokens as the exponent of an axis that has none yet. -/
def Gives (s : Stage) (axis : Axis) (ts : List Tree) : Prop :=
  ∃ i span joint sign, s.2.tokens = .ident i span :: .punct '=' joint sign :: ts ∧
    Key.ofIdent? i = some (.axis axis) ∧ s.1.exponents.get axis = none

/-- Behind the key and the equals sign of the next entry. -/
def valueOf (c : Cursor) : Cursor :=
  { c with tokens := c.tokens.drop 2, written := c.written ++ c.tokens.take 1 ++ markTrees ['='] }

theorem valueOf_tokens {s : Stage} {axis : Axis} {ts : List Tree} (h : Gives s axis ts) :
    (valueOf s.2).tokens = ts := by
  obtain ⟨i, span, joint, sign, htokens, -, -⟩ := h
  show s.2.tokens.drop 2 = ts
  rw [htokens]
  rfl

/-- The key and the equals sign of an entry, and what is done about the key. -/
theorem readEntry_head (d : Draft) {c : Cursor} {i : Ident} {span sign : Span} {joint : Bool}
    {ts : List Tree} (h : c.tokens = .ident i span :: .punct '=' joint sign :: ts) :
    d.readEntry.run c =
      (match Key.ofIdent? i with
        | none => failAt span (.unknownKey i.text)
        | some key =>
          if d.has key then failAt span (.duplicateKey i.text)
          else d.readValueAndComma key : Reading Failure Draft).run (valueOf c) := by
  obtain ⟨tokens, close, leftover, written⟩ := c
  subst h
  have hname : name.run ⟨.ident i span :: .punct '=' joint sign :: ts, close, leftover, written⟩ =
      .ok ((i, span), ⟨.punct '=' joint sign :: ts, close, leftover, written ++ [.ident i span]⟩) := rfl
  have hmark : (mark "=").run
      ⟨.punct '=' joint sign :: ts, close, leftover, written ++ [.ident i span]⟩ =
      .ok ((), valueOf ⟨.ident i span :: .punct '=' joint sign :: ts, close, leftover, written⟩) :=
    mark_of_next ((nextIsMark_single rfl).2 ⟨joint, sign, ts, rfl⟩)
  rw [readEntry, Reading.run_bind_of_ok (Reading.liftM_eq_ok.2 hname)]
  exact Reading.run_bind_of_ok (Reading.liftM_eq_ok.2 hmark)

/-- An axis that has no exponent is given the one that is written. -/
theorem readEntry_of_gives {s : Stage} {axis : Axis} {ts : List Tree} (h : Gives s axis ts) :
    s.1.readEntry.run s.2 = (s.1.readValueAndComma (.axis axis)).run (valueOf s.2) := by
  obtain ⟨i, span, joint, sign, htokens, hkey, hnone⟩ := h
  have hhas : ¬ s.1.has (.axis axis) = true := Option.not_isSome_iff_eq_none.2 hnone
  rw [readEntry_head s.1 htokens, hkey]
  show (if s.1.has (.axis axis) = true then _ else _ : Reading Failure Draft).run _ = _
  rw [if_neg hhas]

/-- Without a key and an equals sign there is no entry. -/
theorem readEntry_of_no_head (d : Draft) {c : Cursor}
    (h : ∀ i span joint sign ts, c.tokens ≠ .ident i span :: .punct '=' joint sign :: ts) :
    ∃ report : Report, d.readEntry.run c = .error report.failure := by
  cases hname : name.run c with
  | error report =>
    exact ⟨report, Reading.run_bind_of_error (Reading.liftM_eq_error.2 ⟨report, hname, rfl⟩)⟩
  | ok result =>
    obtain ⟨⟨i, span⟩, middle⟩ := result
    obtain ⟨rest, htokens, hmiddle⟩ := name_eq_ok.1 hname
    have hnext : ¬ nextIsMark "=" middle.tokens = true := by
      intro hnext
      obtain ⟨joint, sign, ts, hrest⟩ := (nextIsMark_single rfl).1 hnext
      rw [hmiddle] at hrest
      exact h i span joint sign ts (by rw [htokens]; exact congrArg _ hrest)
    rw [readEntry, Reading.run_bind_of_ok (Reading.liftM_eq_ok.2 hname)]
    exact ⟨_, Reading.run_bind_of_error (Reading.liftM_eq_error.2 ⟨_, mark_of_not_next hnext, rfl⟩)⟩

/-- **What an entry can be**: refused by a report, the exponent of an axis, or the path. -/
theorem readEntry_cases (s : Stage) :
    (∃ report : Report, s.1.readEntry.run s.2 = .error report.failure) ∨
      (∃ axis ts, Gives s axis ts ∧
        s.1.readEntry.run s.2 = (s.1.readValueAndComma (.axis axis)).run (valueOf s.2)) ∨
      (s.2.tokens.length ≠ 0 ∧ s.1.path = none ∧
        s.1.readEntry.run s.2 = (s.1.readValueAndComma .path).run (valueOf s.2)) := by
  obtain ⟨d, c⟩ := s
  by_cases head : ∃ i span joint sign ts, c.tokens = .ident i span :: .punct '=' joint sign :: ts
  · obtain ⟨i, span, joint, sign, ts, htokens⟩ := head
    have hrun := readEntry_head d htokens
    cases hkey : Key.ofIdent? i with
    | none =>
      refine .inl ⟨⟨span, false, .unknownKey i.text⟩, ?_⟩
      rw [hrun, hkey]
      rfl
    | some key =>
      rw [hkey] at hrun
      by_cases hhas : d.has key = true
      · refine .inl ⟨⟨span, false, .duplicateKey i.text⟩, ?_⟩
        rw [hrun]
        show (if d.has key = true then _ else _ : Reading Failure Draft).run _ = _
        rw [if_pos hhas]
        rfl
      · have hvalue : d.readEntry.run c = (d.readValueAndComma key).run (valueOf c) := by
          rw [hrun]
          show (if d.has key = true then _ else _ : Reading Failure Draft).run _ = _
          rw [if_neg hhas]
        cases key with
        | axis axis =>
          refine .inr (.inl ⟨axis, ts, ⟨i, span, joint, sign, htokens, hkey, ?_⟩, hvalue⟩)
          exact Option.not_isSome_iff_eq_none.1 hhas
        | path =>
          refine .inr (.inr ⟨?_, Option.not_isSome_iff_eq_none.1 hhas, hvalue⟩)
          rw [show (d, c).2.tokens = _ from htokens]
          exact Nat.succ_ne_zero _
  · refine .inl (readEntry_of_no_head d ?_)
    intro i span joint sign ts htokens
    exact head ⟨i, span, joint, sign, ts, htokens⟩

theorem axisValue_eq_ok {d d' : Draft} {axis : Axis} {c after : Cursor}
    (h : (d.readValueAndComma (.axis axis)).run c = .ok (d', after)) :
    ∃ n middle, exponent.run c = .ok (n, middle) ∧
      d' = { d with exponents := d.exponents.set axis (some n) } := by
  obtain ⟨draft, _, hvalue, hcomma⟩ := Reading.run_bind_eq_ok.1 h
  obtain ⟨n, middle, hexponent, hdraft⟩ := Reading.run_bind_eq_ok.1 hvalue
  obtain ⟨_, _, _, hreturn⟩ := Reading.run_bind_eq_ok.1 hcomma
  cases hdraft
  cases hreturn
  exact ⟨n, _, hexponent, rfl⟩

theorem axisValue_eq_error {d : Draft} {axis : Axis} {c : Cursor} {e : Failure} :
    (d.readValueAndComma (.axis axis)).run c = .error e ↔ exponent.run c = .error e := by
  constructor
  · intro h
    rcases Reading.run_bind_eq_error.1 h with hvalue | ⟨draft, middle, _, hcomma⟩
    · rcases Reading.run_bind_eq_error.1 hvalue with hexponent | ⟨n, _, _, hreturn⟩
      · exact hexponent
      · cases hreturn
    · obtain ⟨found, after, hmark⟩ := mark?_ok "," middle
      rw [Reading.run_bind_of_ok (Reading.liftM_eq_ok.2 hmark)] at hcomma
      cases hcomma
  · intro h
    exact Reading.run_bind_of_error (Reading.run_bind_of_error h)

theorem pathValue_eq_ok {d d' : Draft} {c after : Cursor}
    (h : (d.readValueAndComma .path).run c = .ok (d', after)) : ∃ p, d' = { d with path := some p } := by
  obtain ⟨draft, _, hvalue, hcomma⟩ := Reading.run_bind_eq_ok.1 h
  obtain ⟨p, _, _, hdraft⟩ := Reading.run_bind_eq_ok.1 hvalue
  obtain ⟨_, _, _, hreturn⟩ := Reading.run_bind_eq_ok.1 hcomma
  cases hdraft
  cases hreturn
  exact ⟨p, rfl⟩

/-- A path is read by the grammar, which does no arithmetic. -/
theorem pathValue_ne_fault (d : Draft) (c : Cursor) (fault : Fault) :
    (d.readValueAndComma .path).run c ≠ .error (.fault fault) := by
  intro h
  rcases Reading.run_bind_eq_error.1 h with hvalue | ⟨draft, middle, _, hcomma⟩
  · rcases Reading.run_bind_eq_error.1 hvalue with hpath | ⟨p, _, _, hreturn⟩
    · exact Reading.liftM_ne_fault Path.read c fault hpath
    · cases hreturn
  · rcases Reading.run_bind_eq_error.1 hcomma with hmark | ⟨_, _, _, hreturn⟩
    · exact Reading.liftM_ne_fault (mark? ",") middle fault hmark
    · cases hreturn

theorem entry_cases {s t : Stage} (h : Entry s t) :
    (∃ axis ts n after, Gives s axis ts ∧ exponent.run (valueOf s.2) = .ok (n, after) ∧
        t.1 = { s.1 with exponents := s.1.exponents.set axis (some n) }) ∨
      ∃ p, s.1.path = none ∧ t.1 = { s.1 with path := some p } := by
  rcases readEntry_cases s with ⟨report, hrun⟩ | ⟨axis, ts, hgives, hrun⟩ | ⟨-, hpath, hrun⟩
  · rw [Entry, hrun] at h
    cases h
  · rw [Entry, hrun] at h
    obtain ⟨n, after, hexponent, hdraft⟩ := axisValue_eq_ok h
    exact .inl ⟨axis, ts, n, after, hgives, hexponent, hdraft⟩
  · rw [Entry, hrun] at h
    obtain ⟨p, hdraft⟩ := pathValue_eq_ok h
    exact .inr ⟨p, hpath, hdraft⟩

/-- The entry that gives an exponent stops with a fault where the exponent does, and no other entry
does. -/
theorem readEntry_eq_fault {s : Stage} {fault : Fault} :
    s.1.readEntry.run s.2 = .error (.fault fault) ↔
      ∃ axis ts, Gives s axis ts ∧ exponent.run (valueOf s.2) = .error (.fault fault) := by
  constructor
  · intro h
    rcases readEntry_cases s with ⟨report, hrun⟩ | ⟨axis, ts, hgives, hrun⟩ | ⟨-, -, hrun⟩
    · rw [hrun] at h
      cases h
    · rw [hrun] at h
      exact ⟨axis, ts, hgives, axisValue_eq_error.1 h⟩
    · rw [hrun] at h
      exact absurd h (pathValue_ne_fault _ _ _)
  · rintro ⟨axis, ts, hgives, hexponent⟩
    rw [readEntry_of_gives hgives]
    exact axisValue_eq_error.2 hexponent

/-- An entry takes a token at least. -/
theorem entry_shorter {s t : Stage} (h : Entry s t) : t.2.tokens.length < s.2.tokens.length := by
  have hdrop : (valueOf s.2).tokens.length = s.2.tokens.length - 2 := List.length_drop
  rcases readEntry_cases s with ⟨report, hrun⟩ | ⟨axis, ts, hgives, hrun⟩ | ⟨hlength, -, hrun⟩
  · rw [Entry, hrun] at h
    cases h
  · rw [Entry, hrun] at h
    have hle := Reading.length_le h
    obtain ⟨i, span, joint, sign, htokens, -⟩ := hgives
    have hlength : s.2.tokens.length = ts.length + 2 := by rw [htokens]; rfl
    omega
  · rw [Entry, hrun] at h
    have hle := Reading.length_le h
    omega

/-! ### The run -/

theorem tokens_suffix_of_reaches {s t : Stage} (h : Reaches s t) : t.2.tokens <:+ s.2.tokens := by
  induction h with
  | refl => exact List.suffix_rfl
  | tail _ hentry ih => exact ((readEntry _).forward hentry).trans ih

/-- An axis keeps the exponent that it has been given. -/
theorem given_of_reaches {s t : Stage} {axis : Axis} {n : Fixed .i32} (h : Reaches s t)
    (hgiven : s.1.exponents.get axis = some n) : t.1.exponents.get axis = some n := by
  induction h with
  | refl => exact hgiven
  | @tail u v _ hentry ih =>
    rcases entry_cases hentry with ⟨other, ts, m, after, hgives, -, hdraft⟩ | ⟨p, -, hdraft⟩
    · have hother : axis ≠ other := by
        intro hsame
        obtain ⟨i, span, joint, sign, -, -, hnone⟩ := hgives
        rw [← hsame, ih] at hnone
        cases hnone
      rw [hdraft]
      exact (PerAxis.get_set_other _ _ hother).trans ih
    · rw [hdraft]
      exact ih

/-- What an axis has been given was given at some stage of the run. -/
theorem gave_of_reaches {ts : List Tree} {close : Span} {t : Stage} {axis : Axis} {n : Fixed .i32}
    (h : Reaches (start ts close) t) (hgiven : t.1.exponents.get axis = some n) :
    ∃ s rest after, Reaches (start ts close) s ∧ Gives s axis rest ∧
      exponent.run (valueOf s.2) = .ok (n, after) := by
  induction h with
  | refl =>
    rw [show (start ts close).1.exponents.get axis = none from PerAxis.get_const none axis] at hgiven
    cases hgiven
  | @tail u v hreach hentry ih =>
    rcases entry_cases hentry with ⟨other, rest, m, after, hgives, hexponent, hdraft⟩ | ⟨p, -, hdraft⟩
    · rw [hdraft] at hgiven
      by_cases hsame : axis = other
      · subst hsame
        rw [PerAxis.get_set_self] at hgiven
        cases hgiven
        exact ⟨u, rest, after, hreach, hgives, hexponent⟩
      · rw [PerAxis.get_set_other _ _ hsame] at hgiven
        exact ih hgiven
    · rw [hdraft] at hgiven
      exact ih hgiven

/-! ### Reading is the run -/

theorem readEntries_of_nil (fuel : Nat) (d : Draft) {c : Cursor} (h : c.tokens = []) :
    (readEntries fuel d).run c = .ok (d, c) := by
  cases fuel with
  | zero => rfl
  | succ fuel =>
    show (if c.tokens.isEmpty = true then _ else _ : Reading Failure Draft).run c = _
    rw [if_pos (by rw [h]; rfl)]
    rfl

theorem readEntries_of_cons (fuel : Nat) (d : Draft) {c : Cursor} (h : c.tokens ≠ []) :
    (readEntries (fuel + 1) d).run c = (d.readEntry >>= readEntries fuel).run c := by
  show (if c.tokens.isEmpty = true then _ else _ : Reading Failure Draft).run c = _
  rw [if_neg (by rw [List.isEmpty_iff]; exact h)]

theorem tokens_ne_nil_of_entry {s t : Stage} (h : Entry s t) : s.2.tokens ≠ [] := by
  intro hnil
  have hlt := entry_shorter h
  rw [hnil] at hlt
  exact Nat.not_lt_zero _ hlt

/-- **Reading goes on to the end of the tokens or to an entry that is refused.** -/
theorem readEntries_outcome (fuel : Nat) (s : Stage) (h : s.2.tokens.length < fuel) :
    (∃ t, Reaches s t ∧ t.2.tokens = [] ∧ (readEntries fuel s.1).run s.2 = .ok t) ∨
      ∃ t e, Reaches s t ∧ t.1.readEntry.run t.2 = .error e ∧
        (readEntries fuel s.1).run s.2 = .error e := by
  induction fuel generalizing s with
  | zero => exact absurd h (Nat.not_lt_zero _)
  | succ fuel ih =>
    by_cases hnil : s.2.tokens = []
    · exact .inl ⟨s, .refl, hnil, readEntries_of_nil _ _ hnil⟩
    · rw [readEntries_of_cons fuel s.1 hnil]
      cases hentry : s.1.readEntry.run s.2 with
      | error e => exact .inr ⟨s, e, .refl, hentry, Reading.run_bind_of_error hentry⟩
      | ok t =>
        have hshorter := entry_shorter hentry
        rw [Reading.run_bind_of_ok hentry]
        rcases ih t (by omega) with ⟨u, hreach, hend, hrun⟩ | ⟨u, e, hreach, herror, hrun⟩
        · exact .inl ⟨u, .head hentry hreach, hend, hrun⟩
        · exact .inr ⟨u, e, .head hentry hreach, herror, hrun⟩

/-- **Every stage of the run is a stage of the reading.** -/
theorem readEntries_of_reaches {s t : Stage} (h : Reaches s t) :
    ∀ fuel, s.2.tokens.length < fuel → ∃ fuel', t.2.tokens.length < fuel' ∧
      (readEntries fuel s.1).run s.2 = (readEntries fuel' t.1).run t.2 := by
  induction h using Relation.ReflTransGen.head_induction_on with
  | refl => exact fun fuel hfuel => ⟨fuel, hfuel, rfl⟩
  | @head s u hentry _ ih =>
    intro fuel hfuel
    cases fuel with
    | zero => exact absurd hfuel (Nat.not_lt_zero _)
    | succ fuel =>
      have hshorter := entry_shorter hentry
      obtain ⟨fuel', hfuel', hrun⟩ := ih fuel (by omega)
      refine ⟨fuel', hfuel', ?_⟩
      rw [readEntries_of_cons fuel s.1 (tokens_ne_nil_of_entry hentry), Reading.run_bind_of_ok hentry,
        hrun]

/-- The reading of an attribute stops with a fault where an entry of its run does. -/
theorem read_eq_fault_iff {ts : List Tree} {close : Span} {fault : Fault} :
    Attribute.read.run (start ts close).2 = .error (.fault fault) ↔
      ∃ s, Reaches (start ts close) s ∧ s.1.readEntry.run s.2 = .error (.fault fault) := by
  have hread : Attribute.read.run (start ts close).2 =
      (readEntries (ts.length + 1) empty >>= fun draft => pure draft.finish).run (start ts close).2 := rfl
  rw [hread, Reading.run_bind_eq_error]
  constructor
  · rintro (hentries | ⟨_, _, _, hreturn⟩)
    · rcases readEntries_outcome (ts.length + 1) (start ts close) (Nat.lt_succ_self _) with
        ⟨t, -, -, hrun⟩ | ⟨t, e, hreach, herror, hrun⟩
      · cases hentries.symm.trans hrun
      · cases hentries.symm.trans hrun
        exact ⟨t, hreach, herror⟩
    · cases hreturn
  · rintro ⟨s, hreach, herror⟩
    obtain ⟨fuel, hfuel, hrun⟩ := readEntries_of_reaches hreach (ts.length + 1) (Nat.lt_succ_self _)
    refine .inl (hrun.trans ?_)
    have hnil : s.2.tokens ≠ [] := by
      obtain ⟨axis, rest, ⟨i, span, joint, sign, htokens, -⟩, -⟩ := readEntry_eq_fault.1 herror
      rw [htokens]
      exact List.cons_ne_nil _ _
    cases fuel with
    | zero => exact absurd hfuel (Nat.not_lt_zero _)
    | succ fuel =>
      rw [readEntries_of_cons fuel s.1 hnil]
      exact Reading.run_bind_of_error herror

/-- An attribute that can be read is what its run leads to. -/
theorem reaches_of_read {ts : List Tree} {close : Span} {said : Attribute} {last : Cursor}
    (h : Attribute.read.run (start ts close).2 = .ok (said, last)) :
    ∃ draft, Reaches (start ts close) (draft, last) ∧ last.tokens = [] ∧ said = draft.finish := by
  obtain ⟨draft, middle, hentries, hreturn⟩ := Reading.run_bind_eq_ok.1
    (show (readEntries (ts.length + 1) empty >>= fun draft => pure draft.finish).run
      (start ts close).2 = .ok (said, last) from h)
  cases hreturn
  rcases readEntries_outcome (ts.length + 1) (start ts close) (Nat.lt_succ_self _) with
    ⟨t, hreach, hend, hrun⟩ | ⟨t, e, -, -, hrun⟩
  · cases hentries.symm.trans hrun
    exact ⟨draft, hreach, hend, rfl⟩
  · cases hentries.symm.trans hrun

end Dimensional.Derive.Draft
