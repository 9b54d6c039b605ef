import Dimensional.Proofs.Derive.Positions.Bare

/-!
# Readings that positions do not matter to

A reading is `Unplaced` if on tokens without positions it does what it does on the tokens, but for the
positions in what it answers, leaves and reports. The class follows the way in which a reading is put
together: to see it of a reading, the readings that it is made of are run on the bare cursor one after the
other, and `chain` keeps the bare rest of the run behind each of them.

* `Unplaced.bind` — one reading after another, where nothing is handed on that has a position;
* `chain` — the rest of a run behind a reading;
* the instances — every reader of tokens, and what makes larger readings out of smaller ones.
-/

namespace Dimensional.Derive

open Source

section Results

variable {ε α β : Type}

@[simp] theorem ok_bind (a : α) (f : α → Except ε β) : (Except.ok a >>= f) = f a := rfl
@[simp] theorem error_bind (e : ε) (f : α → Except ε β) : (Except.error e >>= f) = .error e := rfl

variable [Placed ε]

/-- The result of a run without positions. -/
def bareResult [Placed α] (x : Except ε α) : Except ε α := (x.mapError bare).map bare

/-- Go on behind a result, and take the positions from an error. -/
def chain (x : Except ε α) (f : α → Except ε β) : Except ε β :=
  match x with
  | .ok a => f a
  | .error e => .error (bare e)

@[simp] theorem chain_ok (a : α) (f : α → Except ε β) : chain (.ok a) f = f a := rfl
@[simp] theorem chain_error (e : ε) (f : α → Except ε β) : chain (.error e) f = .error (bare e) := rfl

@[simp] theorem bareResult_ok [Placed α] (a : α) : bareResult (.ok a : Except ε α) = .ok (bare a) := rfl
@[simp] theorem bareResult_error [Placed α] (e : ε) : bareResult (.error e : Except ε α) = .error (bare e) := rfl

@[simp] theorem bareResult_bind [Placed β] (x : Except ε α) (f : α → Except ε β) :
    bareResult (x >>= f) = chain x fun a => bareResult (f a) := by
  cases x <;> rfl

@[simp] theorem bind_bareResult [Placed α] (x : Except ε α) (f : α → Except ε β) :
    (bareResult x >>= f) = chain x fun a => f (bare a) := by
  cases x <;> rfl

@[simp] theorem bareResult_ite [Placed α] {p : Prop} [Decidable p] (x y : Except ε α) :
    bareResult (if p then x else y) = if p then bareResult x else bareResult y := by split <;> rfl

end Results

section Runs

variable {ε α β : Type}

/-- The reading does the same without positions. -/
class Unplaced [Placed ε] [Placed α] (r : Reading ε α) : Prop where
  run_bare : ∀ c, r.run (bare c) = bareResult (r.run c)

@[simp low] theorem run_bare [Placed ε] [Placed α] (r : Reading ε α) [Unplaced r] (c : Cursor) :
    r.run (bare c) = bareResult (r.run c) := Unplaced.run_bare c

@[simp] theorem run_sequence (r : Reading ε α) (f : α → Reading ε β) (c : Cursor) :
    (r >>= f).run c = r.run c >>= fun p => (f p.1).run p.2 := rfl

@[simp] theorem run_ite {p : Prop} [Decidable p] (r r' : Reading ε α) (c : Cursor) :
    (if p then r else r').run c = if p then r.run c else r'.run c := by split <;> rfl

@[simp] theorem run_cursor (c : Cursor) : cursor.run c = .ok (c, c) := rfl
@[simp] theorem run_tokens (c : Cursor) : tokens.run c = .ok (c.tokens, c) := rfl
@[simp] theorem run_next (q : List Tree → Bool) (c : Cursor) : (next q).run c = .ok (q c.tokens, c) := rfl
@[simp] theorem run_failAt (span : Span) (cause : Cause) (c : Cursor) :
    (failAt span cause : Reader α).run c = .error ⟨span, false, cause⟩ := rfl

attribute [simp] Reading.run_pure

/-! ### Sequences of which nothing with a position is handed on -/

variable [Placed ε] [Placed α] [Placed β]

instance Unplaced.pure [Rigid α] (a : α) : Unplaced (Pure.pure a : Reading ε α) where
  run_bare c := by simp

instance Unplaced.bind [Rigid α] (r : Reading ε α) [Unplaced r] (f : α → Reading ε β) [∀ a, Unplaced (f a)] :
    Unplaced (r >>= f) where
  run_bare c := by simp

instance Unplaced.andThen (r : Reading ε α) [Unplaced r] (r' : Reading ε β) [Unplaced r'] :
    Unplaced (r >>= fun _ => r') where
  run_bare c := by simp

instance Unplaced.ite {p : Prop} [Decidable p] (r r' : Reading ε α) [Unplaced r] [Unplaced r'] :
    Unplaced (if p then r else r') where
  run_bare c := by simp

instance (q : List Tree → Bool) [Blind q] : Unplaced (next q) where
  run_bare c := by simp [Blind.bare_eq]

instance : Unplaced tokens where
  run_bare _ := rfl

/-- An answer by what is next. -/
instance [Rigid α] (q : List Tree → α) [Blind q] : Unplaced (tokens >>= fun ts => Pure.pure (q ts)) where
  run_bare c := by simp [Blind.bare_eq]

/-- A choice by what is next. -/
instance (q : List Tree → Bool) [Blind q] (r : Reader α) [Unplaced r] (r' : List Tree → Reader α)
    [Unplaced (tokens >>= r')] : Unplaced (tokens >>= fun ts => if q ts then r else r' ts) where
  run_bare c := by
    have hrest := run_bare (tokens >>= r') c
    simp only [run_sequence, run_tokens, ok_bind, bare_tokens] at hrest
    simp [Blind.bare_eq, hrest]

instance (cause : Cause) : Unplaced (fail cause : Reader α) where
  run_bare c := by
    show Except.error ((bare c).report cause) = .error (bare (c.report cause))
    rw [cursorReport_bare]

instance (s : String) : Unplaced (failExpected s : Reader α) := inferInstanceAs (Unplaced (fail _))

end Runs

/-! ### What is written -/

@[simp] theorem markTrees_bare (mark : Text) : bare (markTrees mark) = markTrees mark := by
  induction mark with
  | nil => rfl
  | cons c mark ih => cases mark <;> simp_all [markTrees]

theorem note_unplaced {change change' : Cursor → Cursor} {same : ∀ c, (change c).tokens = c.tokens}
    {same' : ∀ c, (change' c).tokens = c.tokens} {c : Cursor} (h : change' (bare c) = bare (change c)) :
    (note change' same').run (bare c) = bareResult ((note change same).run c) := by
  show (Except.ok ((), change' (bare c)) : Except Report (Unit × Cursor)) = .ok (bare ((), change c))
  rw [h]
  rfl

@[simp] theorem write_bare (ts : List Tree) (c : Cursor) :
    (write (bare ts)).run (bare c) = bareResult ((write ts).run c) :=
  note_unplaced (by rw [bare_written, append_bare]; rfl)

@[simp] theorem writeOne_bare (t : Tree) (c : Cursor) :
    (write [bare t]).run (bare c) = bareResult ((write [t]).run c) := write_bare [t] c

@[simp] theorem writeLiteral_bare (text : Text) (span : Span) (c : Cursor) :
    (write [.literal text (bare span)]).run (bare c) = bareResult ((write [.literal text span]).run c) := by
  rw [← write_bare]
  simp

theorem write_unplaced {ts : List Tree} (h : bare ts = ts) : Unplaced (write ts) where
  run_bare c := by rw [← write_bare, h]

instance (mark : Text) : Unplaced (write (markTrees mark)) := write_unplaced (markTrees_bare mark)

@[simp] theorem copySince_bare (before c : Cursor) :
    (copySince (bare before)).run (bare c) = bareResult ((copySince before).run c) :=
  note_unplaced (by rw [bare_written, since_bare, append_bare]; rfl)

/-- What was written last is taken back. -/
instance (count : Nat) :
    Unplaced (note fun c => { c with written := c.written.take (c.written.length - count) }) where
  run_bare c := note_unplaced (by rw [bare_written, length_bare, take_bare]; rfl)

instance (count : Nat) : Unplaced (pass count) where
  run_bare c := by
    show (Except.ok ((), { bare c with tokens := (bare c.tokens).drop count }) : Except Report (Unit × Cursor)) = _
    rw [drop_bare]
    rfl

/-! ### Single tokens -/

instance (s : String) : Unplaced (mark s) where
  run_bare c := by simp [mark]

instance (s : String) : Unplaced (mark? s) where
  run_bare c := by simp [mark?]

instance : Unplaced skip where
  run_bare c := by cases h : c.tokens <;> simp [skip, h]

instance (s : String) : Unplaced (word s) where
  run_bare c := by simp [word]

instance (s : String) : Unplaced (word? s) where
  run_bare c := by simp [word?]

instance : Unplaced ident where
  run_bare c := by
    rcases h : c.tokens with _ | ⟨t, ts⟩
    · simp [ident, h]
    · cases t <;> simp [ident, h]

instance : Unplaced name where
  run_bare c := by
    rcases h : c.tokens with _ | ⟨t, ts⟩
    · simp [name, h]
    · cases t <;> simp [name, h]

instance : Unplaced lifetime where
  run_bare c := by simp [lifetime]

instance : Unplaced lifetime? where
  run_bare c := by simp [lifetime?]

instance : Unplaced literal where
  run_bare c := by
    have hnext := nextIsLiteral_bare c.tokens
    rcases h : c.tokens with _ | ⟨t, _ | ⟨t', ts⟩⟩
    · simp [literal, h]
    · rw [h] at hnext
      cases t <;> simp_all [literal]
    · rw [h] at hnext
      cases t with
      | punct d joint sign =>
        by_cases hminus : d = '-'
        · subst hminus
          cases t' <;> simp_all [literal]
        · simp_all [literal]
      | ident i span => simp_all [literal]
      | literal text span => simp_all [literal]
      | group d inner span opening closing => simp_all [literal]

instance : Unplaced anyGroup where
  run_bare c := by
    rcases h : c.tokens with _ | ⟨t, ts⟩
    · simp [anyGroup, h]
    · cases t <;> simp [anyGroup, h]

instance : Unplaced skipRest where
  run_bare c := by simp [skipRest]

instance : Unplaced atEnd := inferInstanceAs (Unplaced (next List.isEmpty))

/-! ### Repetition -/

section Repetition

variable (item : Reader Unit) [Unplaced item]

instance (step : Reader Bool) [Unplaced step] (fuel : Nat) : Unplaced (repeatFor fuel step) where
  run_bare c := by
    induction fuel generalizing c with
    | zero => simp [repeatFor]
    | succ fuel ih => simp [repeatFor, ih]

instance (step : Reader Bool) [Unplaced step] : Unplaced (iterate step) where
  run_bare c := by simp [iterate]

theorem iterate_unplaced {step : Reader Bool} (h : ∀ c, step.run (bare c) = bareResult (step.run c)) :
    Unplaced (iterate step) :=
  have : Unplaced step := ⟨h⟩
  inferInstance

variable (done : List Tree → Bool) [Blind done] (separator : String)

instance : Unplaced (listUntil done separator item) := by
  unfold listUntil
  infer_instance

instance : Unplaced (commaList item) := inferInstanceAs (Unplaced (listUntil List.isEmpty "," item))

instance : Unplaced (chainUntil done separator item) := by
  unfold chainUntil
  infer_instance

instance : Unplaced (untilEnd item) := by
  unfold untilEnd
  infer_instance

end Repetition

/-! ### Parts of a reading -/

section Parts

variable {α β : Type} [Placed α] [Placed β]

instance (r : Reader α) [Unplaced r] : Unplaced (capture r) where
  run_bare c := by
    have hrun := run_bare r { c with written := [] }
    show (r.run (bare { c with written := [] }) >>= fun p =>
        pure ((p.1, p.2.written), { p.2 with written := bare c.written })) =
      bareResult (r.run { c with written := [] } >>= fun p =>
        pure ((p.1, p.2.written), { p.2 with written := c.written }))
    rw [hrun]
    cases r.run { c with written := [] } <;> rfl

instance (r : Reader α) [Unplaced r] : Unplaced (copied r) where
  run_bare c := by simp [copied]

instance (r : Reader α) [Unplaced r] : Unplaced (spanned r) where
  run_bare c := by simp [spanned]

instance (r : Reader α) [Unplaced r] : Unplaced (attempt r) where
  run_bare c := by
    show (match r.run (bare c) with | .ok (a, after) => Except.ok (some a, after) | .error _ => .ok (none, bare c)) =
      bareResult (match r.run c with | .ok (a, after) => Except.ok (some a, after) | .error _ => .ok (none, c))
    rw [run_bare]
    cases r.run c <;> rfl

instance (r : Reader α) [Unplaced r] : Unplaced (ahead r) where
  run_bare c := by
    show Except.ok ((r.run (bare c)).toOption.map Prod.fst, bare c) =
      bareResult (Except.ok ((r.run c).toOption.map Prod.fst, c))
    rw [run_bare]
    cases r.run c <;> rfl

instance (content : Reader Unit) [Unplaced content] : Unplaced (afterColon content) where
  run_bare c := by simp [afterColon]

instance (d : Delimiter) (inner : Reader α) [Unplaced inner] : Unplaced (within d inner) where
  run_bare c := by
    rcases h : c.tokens with _ | ⟨t, ts⟩
    · simp [within, h]
    · cases t with
      | group e us span opening closing =>
        have hrun : inner.run { tokens := bare us, close := bare closing, leftover := bare c.leftover } =
            bareResult (inner.run { tokens := us, close := closing, leftover := c.leftover }) :=
          run_bare inner { tokens := us, close := closing, leftover := c.leftover }
        by_cases hd : d = e
        · simp only [within, bare_tokens, h, bare_cons, bare_group, if_pos hd]
          rw [bare_leftover, hrun]
          cases inner.run { tokens := us, close := closing, leftover := c.leftover } with
          | error e => rfl
          | ok p =>
            have hleft : ((bare p.2.tokens).head?.map fun t => (t.span, d)) =
                bare (p.2.tokens.head?.map fun t => (t.span, d)) := by
              cases p.2.tokens <;> simp
            have hwritten : bare c.written ++
                [.group e (bare p.2.written) (bare span) (bare opening) (bare closing)] =
                  bare (c.written ++ [.group e p.2.written span opening closing]) := by
              rw [← append_bare]
              simp
            show Except.ok ((bare p.1, (bare p.2.tokens).head?.map fun t => (t.span, d)),
              Cursor.mk (bare ts) _ _ (bare c.written ++
                [.group e (bare p.2.written) (bare span) (bare opening) (bare closing)])) = _
            rw [hleft, hwritten]
            rfl
        · simp [within, h, hd]
      | ident i span => simp [within, h]
      | punct e joint span => simp [within, h]
      | literal text span => simp [within, h]

@[simp] theorem leave_bare (left : Option (Span × Delimiter)) (c : Cursor) :
    (note fun c => { c with leftover := c.leftover.or (bare left) }).run (bare c) =
      bareResult ((note fun c => { c with leftover := c.leftover.or left }).run c) := by
  refine note_unplaced ?_
  rw [bare_leftover, or_bare]
  rfl

/-- A group, and what is read behind it of what it holds. -/
theorem groupThen_unplaced (d : Delimiter) (inner : Reader α) [Unplaced inner] {after : α → Reader β}
    (hafter : ∀ a c, (after (bare a)).run (bare c) = bareResult ((after a).run c)) :
    Unplaced (groupThen d inner after) where
  run_bare c := by
    simp [groupThen, hafter]

instance [Rigid α] (d : Delimiter) (inner : Reader α) [Unplaced inner] (after : α → Reader β)
    [∀ a, Unplaced (after a)] : Unplaced (groupThen d inner after) :=
  groupThen_unplaced d inner fun a c => by simp

instance (d : Delimiter) (inner : Reader α) [Unplaced inner] : Unplaced (group d inner) :=
  groupThen_unplaced d inner fun a c => by simp

end Parts

/-! ### Wishes -/

/-- Whether one of the wishes is there does not depend on positions. -/
class BlindWishes (wishes : List Wish) : Prop where
  isNext_bare : ∀ wish ∈ wishes, ∀ ts, wish.isNext (bare ts) = wish.isNext ts

section Wishes

variable (wish : Wish) (wishes wishes' : List Wish) [BlindWishes wishes] [BlindWishes wishes']

instance : BlindWishes [] := ⟨nofun⟩
instance [Blind wish.isNext] : BlindWishes (wish :: wishes) := ⟨by
  intro other hother ts
  rcases List.mem_cons.1 hother with rfl | hother
  · exact Blind.bare_eq ts
  · exact BlindWishes.isNext_bare other hother ts⟩
instance : BlindWishes (wishes ++ wishes') := ⟨by
  intro other hother ts
  rcases List.mem_append.1 hother with hother | hother
  · exact BlindWishes.isNext_bare other hother ts
  · exact BlindWishes.isNext_bare other hother ts⟩
instance {p : Prop} [Decidable p] : BlindWishes (if p then wishes else wishes') := by split <;> assumption

instance (s : String) : Blind (Wish.mark s).isNext := inferInstanceAs (Blind (nextIsMark s))
instance (s : String) : Blind (Wish.word s).isNext := inferInstanceAs (Blind (nextIsWord s))
instance (d : Delimiter) : Blind (Wish.group d).isNext := inferInstanceAs (Blind (nextIsGroup d))
instance (words : List String) : BlindWishes (words.map Wish.word) := ⟨by
  intro other hother ts
  obtain ⟨s, -, rfl⟩ := List.mem_map.1 hother
  exact nextIsWord_bare ts s⟩

instance : Blind Wish.ident.isNext := inferInstanceAs (Blind nextIsIdent)
instance : Blind Wish.lifetime.isNext := inferInstanceAs (Blind nextIsLifetime)
instance : Blind Wish.literal.isNext := inferInstanceAs (Blind nextIsLiteral)

@[simp] theorem noWish_bare (ts : List Tree) :
    (∀ wish ∈ wishes, wish.isNext (bare ts) = false) ↔ ∀ wish ∈ wishes, wish.isNext ts = false :=
  forall₂_congr fun wish h => by rw [BlindWishes.isNext_bare wish h]

@[simp] theorem someWish_bare (ts : List Tree) :
    (∃ wish ∈ wishes, wish.isNext (bare ts) = true) ↔ ∃ wish ∈ wishes, wish.isNext ts = true :=
  exists_congr fun wish => and_congr_right fun h => by rw [BlindWishes.isNext_bare wish h]

instance {α : Type} [Placed α] : Unplaced (failAmong wishes : Reader α) where
  run_bare c := by
    have hsame : (wishes.filter fun wish => !wish.isNext (bare c.tokens)) =
        wishes.filter fun wish => !wish.isNext c.tokens :=
      List.filter_congr fun wish hwish => by rw [BlindWishes.isNext_bare wish hwish]
    have hrun : ∀ c, (failAmong wishes : Reader α).run c =
        (match wishes.filter fun wish => !wish.isNext c.tokens with
          | [] =>
            match c.tokens with
            | t :: _ => failAt t.span (.unexpected none)
            | [] => failAt c.close .endOfInput
          | absent => fail (.expected (absent.map Wish.text)) : Reader α).run c := fun _ => rfl
    rw [hrun, hrun, bare_tokens, hsame]
    cases wishes.filter fun wish => !wish.isNext c.tokens with
    | nil => cases c.tokens <;> simp
    | cons absent others => simp

end Wishes

/-! ### Readings that may stop otherwise -/

section Lifted

variable {α : Type} [Placed α]

instance (r : Reader α) [Unplaced r] : Unplaced (liftM r : Reading Failure α) where
  run_bare c := by
    show (r.run (bare c)).mapError Report.failure = bareResult ((r.run c).mapError Report.failure)
    rw [run_bare]
    cases r.run c <;> rfl

omit [Placed α] in
@[simp] theorem run_liftM_failAt (span : Span) (cause : Cause) (c : Cursor) :
    (liftM (failAt span cause : Reader α) : Reading Failure α).run c = .error (.report span false cause) := rfl

@[simp] theorem bare_reported (span : Span) (atEnd : Bool) (cause : Cause) :
    bare (Failure.report span atEnd cause) = .report (bare span) atEnd cause := rfl

instance [Rigid α] (x : Except Fault α) : Unplaced (Reading.ofArithmetic x) where
  run_bare c := by
    cases x with
    | error fault => rfl
    | ok a =>
      show Except.ok (a, bare c) = Except.ok (bare a, bare c)
      rw [bare_rigid a]

theorem finish_bare (c : Cursor) : (bare c).finish = bareResult c.finish := by
  obtain ⟨tokens, close, leftover, written⟩ := c
  cases leftover with
  | some left => rfl
  | none =>
    cases tokens with
    | nil => rfl
    | cons t ts =>
      show (Except.error (Report.mk (bare t).span false (.unexpected none)) : Except Report Unit) =
        .error (Report.mk (bare t.span) false (.unexpected none))
      rw [span_bare]

/-- **Reading all of some tokens does the same without positions.** -/
theorem readAll_bare (r : Reading Failure α) [Unplaced r] (ts : List Tree) (close : Span) :
    readAll r (bare ts) (bare close) = bareResult (readAll r ts close) := by
  have hrun := run_bare r { tokens := ts, close := close }
  show (r.run (bare { tokens := ts, close := close }) >>= fun p =>
    (p.2.finish.mapError Report.failure >>= fun _ => pure p.1)) = _
  rw [hrun]
  show _ = bareResult (r.run { tokens := ts, close := close } >>= fun p =>
    (p.2.finish.mapError Report.failure >>= fun _ => pure p.1))
  cases r.run { tokens := ts, close := close } with
  | error e => rfl
  | ok p =>
    show ((bare p.2).finish.mapError Report.failure >>= fun _ => pure (bare p.1)) =
      bareResult (p.2.finish.mapError Report.failure >>= fun _ => pure p.1)
    rw [finish_bare]
    cases p.2.finish <;> rfl

end Lifted

end Dimensional.Derive
