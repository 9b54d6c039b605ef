import Dimensional.Derive.Failure

/-!
# Readings

A reading takes tokens from the front of a list and may stop before it is done. Inside a group it works
on the tokens of the group alone; what it leaves there is remembered, and is reported when everything
else is in order. What has been read is written down again beside the tokens.

Two things hold of every reading by the way it is built. What it leaves is an end of what it was given, so
that a loop over tokens comes to its end. And a reader of the grammar stops with a report or not at all;
only a computation on what has been read can stop otherwise.

* `Reading.run_bind_eq_ok`, `Reading.run_bind_eq_error` — a sequence of readings, one part after the other;
* `Reading.liftM_eq_ok`, `Reading.liftM_eq_error` — a reader of the grammar as a part of a larger reading;
* `Reading.length_le` — nothing is put back.
-/

namespace Dimensional.Derive

open Source

/-- What is left to read. -/
structure Cursor where
  tokens : List Tree
  /-- Where a report points when no token is left. -/
  close : Span
  /-- The first token that was left in a group, and the group's delimiter. -/
  leftover : Option (Span × Delimiter) := none
  /-- What has been read. -/
  written : List Tree := []

namespace Cursor

/-- Where a report about what is next points. -/
def here (c : Cursor) : Span :=
  match c.tokens with
  | t :: _ => t.head
  | [] => c.close

/-- The report that something is wrong with what is next. -/
def report (c : Cursor) (cause : Cause) : Report := ⟨c.here, c.tokens.isEmpty, cause⟩

/-- The tokens that were read since then. -/
def since (before after : Cursor) : List Tree :=
  before.tokens.take (before.tokens.length - after.tokens.length)

/-- Everything has been read. Tokens that are left are reported, those within groups first. -/
def finish (c : Cursor) : Except Report Unit :=
  match c.leftover, c.tokens with
  | some (span, d), _ => .error ⟨span, false, .unexpected (some d)⟩
  | none, t :: _ => .error ⟨t.span, false, .unexpected none⟩
  | none, [] => .ok ()

end Cursor

/-- A computation that reads tokens and may stop with an `ε`. -/
structure Reading (ε α : Type) where
  run : Cursor → Except ε (α × Cursor)
  /-- What is left is an end of what was there. -/
  forward : ∀ {c : Cursor} {a : α} {after : Cursor},
    run c = .ok (a, after) → after.tokens <:+ c.tokens

/-- A reading that stops with a report or not at all. -/
abbrev Reader (α : Type) := Reading Report α

namespace Reading

variable {ε α β : Type}

instance : Monad (Reading ε) where
  pure a :=
    { run := fun c => .ok (a, c)
      forward := fun h => by
        cases h
        exact List.suffix_rfl }
  bind r f :=
    { run := fun c => r.run c >>= fun (a, after) => (f a).run after
      forward := fun h => by
        obtain ⟨⟨a, middle⟩, first, second⟩ := bind_eq_ok.1 h
        exact ((f a).forward second).trans (r.forward first) }

/-- Reading as a part of a computation that can stop otherwise. -/
def lift (r : Reader α) : Reading Failure α where
  run c := (r.run c).mapError Report.failure
  forward h := by
    revert h
    cases eq : r.run _ with
    | error report => exact nofun
    | ok result =>
      intro h
      cases h
      exact r.forward eq

instance : MonadLift Reader (Reading Failure) := ⟨lift⟩

/-- Arithmetic as a part of a reading. -/
def ofArithmetic (x : Except Fault α) : Reading Failure α where
  run c := (x.mapError Failure.fault).map fun a => (a, c)
  forward h := by
    cases x with
    | error fault => exact nomatch h
    | ok a =>
      cases h
      exact List.suffix_rfl

/-! ### Laws -/

@[simp] theorem run_pure (a : α) (c : Cursor) : (pure a : Reading ε α).run c = .ok (a, c) := rfl

theorem run_bind (r : Reading ε α) (f : α → Reading ε β) (c : Cursor) :
    (r >>= f).run c = r.run c >>= fun (a, after) => (f a).run after := rfl

theorem run_bind_of_ok {r : Reading ε α} {f : α → Reading ε β} {c middle : Cursor} {a : α}
    (h : r.run c = .ok (a, middle)) : (r >>= f).run c = (f a).run middle := by
  rw [run_bind, h]
  rfl

theorem run_bind_of_error {r : Reading ε α} {f : α → Reading ε β} {c : Cursor} {e : ε}
    (h : r.run c = .error e) : (r >>= f).run c = .error e := by
  rw [run_bind, h]
  rfl

theorem run_bind_eq_ok {r : Reading ε α} {f : α → Reading ε β} {c last : Cursor} {b : β} :
    (r >>= f).run c = .ok (b, last) ↔
      ∃ a middle, r.run c = .ok (a, middle) ∧ (f a).run middle = .ok (b, last) := by
  rw [run_bind, bind_eq_ok]
  exact ⟨fun ⟨(a, middle), h⟩ => ⟨a, middle, h⟩, fun ⟨a, middle, h⟩ => ⟨(a, middle), h⟩⟩

theorem run_bind_eq_error {r : Reading ε α} {f : α → Reading ε β} {c : Cursor} {e : ε} :
    (r >>= f).run c = .error e ↔
      r.run c = .error e ∨ ∃ a middle, r.run c = .ok (a, middle) ∧ (f a).run middle = .error e := by
  rw [run_bind, bind_eq_error]
  exact or_congr_right
    ⟨fun ⟨(a, middle), h⟩ => ⟨a, middle, h⟩, fun ⟨a, middle, h⟩ => ⟨(a, middle), h⟩⟩

theorem liftM_eq_ok {r : Reader α} {c last : Cursor} {a : α} :
    (liftM r : Reading Failure α).run c = .ok (a, last) ↔ r.run c = .ok (a, last) := by
  show (r.run c).mapError Report.failure = _ ↔ _
  cases r.run c with
  | error report => exact ⟨nofun, nofun⟩
  | ok result => exact ⟨fun h => by cases h; rfl, fun h => by cases h; rfl⟩

theorem liftM_eq_error {r : Reader α} {c : Cursor} {e : Failure} :
    (liftM r : Reading Failure α).run c = .error e ↔ ∃ report, r.run c = .error report ∧ e = report.failure := by
  show (r.run c).mapError Report.failure = _ ↔ _
  cases r.run c with
  | error report =>
    exact ⟨fun h => ⟨report, rfl, (Except.error.inj h).symm⟩, fun ⟨_, h, e⟩ => by cases h; rw [e]; rfl⟩
  | ok result => exact ⟨nofun, fun ⟨_, h, _⟩ => nomatch h⟩

/-- Where a reader of the grammar stops, no arithmetic stops. -/
theorem liftM_ne_fault (r : Reader α) (c : Cursor) (fault : Fault) :
    (liftM r : Reading Failure α).run c ≠ .error (.fault fault) := by
  intro h
  obtain ⟨report, _, e⟩ := liftM_eq_error.1 h
  cases e

theorem ofArithmetic_eq_ok {x : Except Fault α} {c last : Cursor} {a : α} :
    (ofArithmetic x).run c = .ok (a, last) ↔ x = .ok a ∧ last = c := by
  cases x with
  | error fault => exact ⟨nofun, fun h => nomatch h.1⟩
  | ok b => exact ⟨fun h => by cases h; exact ⟨rfl, rfl⟩, fun ⟨h, e⟩ => by cases h; rw [e]; rfl⟩

theorem ofArithmetic_eq_error {x : Except Fault α} {c : Cursor} {e : Failure} :
    (ofArithmetic x).run c = .error e ↔ ∃ fault, x = .error fault ∧ e = .fault fault := by
  cases x with
  | error fault =>
    exact ⟨fun h => ⟨fault, rfl, (Except.error.inj h).symm⟩, fun ⟨_, h, e⟩ => by cases h; rw [e]; rfl⟩
  | ok a => exact ⟨nofun, fun ⟨_, h, _⟩ => nomatch h⟩

theorem length_le {r : Reading ε α} {c after : Cursor} {a : α} (h : r.run c = .ok (a, after)) :
    after.tokens.length ≤ c.tokens.length :=
  (r.forward h).length_le

end Reading

/-! ### Steps of a reading -/

section Steps

variable {α : Type}

/-- Everything that is known about what is left. -/
def cursor : Reader Cursor where
  run c := .ok (c, c)
  forward h := by
    cases h
    exact List.suffix_rfl

/-- What has not been read. -/
def tokens : Reader (List Tree) := return (← cursor).tokens

/-- Stop with the report that the state of reading calls for. -/
def stop (report : Cursor → Report) : Reader α where
  run c := .error (report c)
  forward := nofun

/-- Something is wrong at a stretch of the source. -/
def failAt (span : Span) (cause : Cause) : Reader α := stop fun _ => ⟨span, false, cause⟩

/-- Something is wrong with what is next. -/
def fail (cause : Cause) : Reader α := stop fun c => c.report cause

/-- Something is wanted that is not next. -/
def failExpected (wanted : String) : Reader α := fail (.expected [wanted.toList])

/-- Go on behind so many tokens. -/
def pass (count : Nat) : Reader Unit where
  run c := .ok ((), { c with tokens := c.tokens.drop count })
  forward h := by
    cases h
    exact List.drop_suffix _ _

/-- Change what is known beside the tokens. -/
def note (change : Cursor → Cursor) (same : ∀ c, (change c).tokens = c.tokens := by intro; rfl) :
    Reader Unit where
  run c := .ok ((), change c)
  forward {c _ _} h := by
    cases h
    exact ⟨[], same c⟩

/-- Write tokens down. -/
def write (ts : List Tree) : Reader Unit := note fun c => { c with written := c.written ++ ts }

/-- What was read since then is written as it stood. -/
def copySince (before : Cursor) : Reader Unit :=
  note fun after => { after with written := before.written ++ before.since after }

/-- Read, and write as it stands. -/
def copied (reader : Reader α) : Reader α := do
  let before ← cursor
  let a ← reader
  copySince before
  return a

/-- Read, and keep apart what is written. -/
def capture (reader : Reader α) : Reader (α × List Tree) where
  run c := do
    let (a, after) ← reader.run { c with written := [] }
    return ((a, after.written), { after with written := c.written })
  forward h := by
    obtain ⟨_, read, h⟩ := bind_eq_ok.1 h
    have rest := reader.forward read
    cases h
    exact rest

/-- From the first of some tokens to the last. -/
def spanOf : List Tree → Span
  | [] => .whole
  | t :: ts => t.span.join ((ts.getLast?.map Tree.span).getD t.span)

/-- Read, and where it was. -/
def spanned (reader : Reader α) : Reader (α × Span) := do
  let before ← cursor
  let a ← reader
  return (a, spanOf (before.since (← cursor)))

/-- Read, or leave everything as it is. -/
def attempt (reader : Reader α) : Reader (Option α) where
  run c :=
    match reader.run c with
    | .ok (a, after) => .ok (some a, after)
    | .error _ => .ok (none, c)
  forward h := by
    split at h
    · next read =>
      cases h
      exact reader.forward read
    · cases h
      exact List.suffix_rfl

/-- What could be read, with nothing being read. -/
def ahead (reader : Reader α) : Reader (Option α) where
  run c := .ok ((reader.run c).toOption.map Prod.fst, c)
  forward h := by
    cases h
    exact List.suffix_rfl

/-- What `inner` reads of the group that is next, in these delimiters. The first token that is left in the
group is answered with it. -/
def within (d : Delimiter) (inner : Reader α) : Reader (α × Option (Span × Delimiter)) where
  run c :=
    match c.tokens with
    | .group e ts span opening closing :: rest =>
      if d = e then do
        let (a, last) ← inner.run { c with tokens := ts, close := closing, written := [] }
        let group := Tree.group e last.written span opening closing
        let left := last.tokens.head?.map fun t => (t.span, d)
        return ((a, left),
          { c with tokens := rest, leftover := last.leftover, written := c.written ++ [group] })
      else .error (c.report (.expected [d.plural.toList]))
    | _ => .error (c.report (.expected [d.plural.toList]))
  forward h := by
    split at h
    · next group =>
      split at h
      · obtain ⟨_, _, h⟩ := bind_eq_ok.1 h
        cases h
        rw [group]
        exact List.suffix_cons _ _
      · cases h
    · cases h

/-- A group in these delimiters, its tokens read by `inner`, and what follows it by `after`. Tokens that
are left in the group are found last. -/
def groupThen {β : Type} (d : Delimiter) (inner : Reader α) (after : α → Reader β) : Reader β := do
  let (a, left) ← within d inner
  let b ← after a
  note fun c => { c with leftover := c.leftover <|> left }
  return b

/-- A group in these delimiters, its tokens read by `inner`. -/
def group (d : Delimiter) (inner : Reader α) : Reader α := groupThen d inner pure

/-- Read all of a list of tokens. -/
def readAll (reading : Reading Failure α) (ts : List Tree) (close : Span) : Except Failure α := do
  let (a, c) ← reading.run { tokens := ts, close }
  c.finish.mapError Report.failure
  return a

end Steps

end Dimensional.Derive
