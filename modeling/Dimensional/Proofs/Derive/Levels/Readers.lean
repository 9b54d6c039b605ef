import Dimensional.Derive.Cursor

/-!
# Readings that are alike while there is little to read

Two readings with different rules do the same wherever what is left is little enough for both.  Of what is left every
token counts four times, so that a reading that takes a token may go down four levels for it; what it takes no token
for is counted apart.  Both classes follow the way in which a reading is put together.

* `Takes`, `TakesIf` — readings that do not succeed without a token, or do not answer yes without one;
* `Alike` — readings that do the same on little;
* `Alike.bind`, `Alike.bindTakes`, `Alike.bindIf` — one reading after another: behind a token there is less;
* `Alike.within` — and there is less in a group.
-/

namespace Dimensional

namespace Source.Tree

theorem sizes_append (ts us : List Tree) : sizes (ts ++ us) = sizes ts + sizes us := by
  induction ts with
  | nil => exact (Nat.zero_add _).symm
  | cons t ts ih => rw [List.cons_append, Tree.sizes, Tree.sizes, ih, Nat.add_assoc]

theorem sizes_le_of_suffix {ts us : List Tree} (h : ts <:+ us) : Tree.sizes ts ≤ Tree.sizes us := by
  obtain ⟨front, rfl⟩ := h
  rw [sizes_append]
  exact Nat.le_add_left _ _

/-- What is shorter counts less. -/
theorem sizes_lt_of_suffix {ts us : List Tree} (h : ts <:+ us) (shorter : ts.length < us.length) :
    Tree.sizes ts < Tree.sizes us := by
  obtain ⟨front, rfl⟩ := h
  cases front with
  | nil => exact absurd shorter (Nat.lt_irrefl _)
  | cons t front =>
    have first := size_pos t
    rw [List.cons_append, Tree.sizes, sizes_append]
    omega

end Source.Tree

namespace Derive

open Source

variable {ε α β : Type}

/-! ### Readings that take a token -/

/-- The reading does not succeed without taking a token. -/
class Takes (r : Reading ε α) : Prop where
  shorter : ∀ {c after : Cursor} {a : α}, r.run c = .ok (a, after) → after.tokens.length < c.tokens.length

/-- The reading does not answer yes without taking a token. -/
class TakesIf (r : Reading ε Bool) : Prop where
  shorter : ∀ {c after : Cursor}, r.run c = .ok (true, after) → after.tokens.length < c.tokens.length

instance Takes.bindLeft (r : Reading ε α) [Takes r] (f : α → Reading ε β) : Takes (r >>= f) where
  shorter h := by
    obtain ⟨a, middle, first, second⟩ := Reading.run_bind_eq_ok.1 h
    exact Nat.lt_of_le_of_lt (Reading.length_le second) (Takes.shorter first)

instance Takes.bindRight (r : Reading ε α) (f : α → Reading ε β) [∀ a, Takes (f a)] : Takes (r >>= f) where
  shorter h := by
    obtain ⟨a, middle, first, second⟩ := Reading.run_bind_eq_ok.1 h
    exact Nat.lt_of_lt_of_le (Takes.shorter second) (Reading.length_le first)

instance Takes.ite {p : Prop} [Decidable p] (r r' : Reading ε α) [Takes r] [Takes r'] :
    Takes (if p then r else r') where
  shorter h := by
    split at h
    · exact Takes.shorter h
    · exact Takes.shorter h

/-- Nothing is taken where nothing succeeds. -/
instance (report : Cursor → Report) : Takes (stop report : Reader α) := ⟨nofun⟩
instance (span : Span) (cause : Cause) : Takes (failAt span cause : Reader α) := inferInstanceAs (Takes (stop _))
instance (cause : Cause) : Takes (fail cause : Reader α) := inferInstanceAs (Takes (stop _))
instance (wanted : String) : Takes (failExpected wanted : Reader α) := inferInstanceAs (Takes (fail _))
instance (wishes : List Wish) : Takes (failAmong wishes : Reader α) := by
  unfold failAmong
  refine @Takes.bindRight _ _ _ _ _ fun c => ?_
  repeat' split
  all_goals infer_instance

instance (s : String) : Takes (mark s) where
  shorter {c after _} h := by
    obtain ⟨next, rfl⟩ := mark_eq_ok.1 h
    obtain ⟨rest, taken⟩ := Option.isSome_iff_exists.1 next
    show (c.tokens.drop s.toList.length).length < c.tokens.length
    rw [List.length_drop]
    generalize s.toList = mark at taken ⊢
    generalize c.tokens = ts at taken ⊢
    rcases mark with _ | ⟨d, mark⟩
    · cases taken
    · rcases ts with _ | ⟨t, ts⟩
      · cases mark <;> cases taken
      · rw [List.length_cons, List.length_cons]
        omega

instance : Takes skip where
  shorter {c _ _} h := by
    obtain ⟨ts, close, leftover, written⟩ := c
    cases ts with
    | nil => cases h
    | cons t ts =>
      cases h
      exact Nat.lt_succ_self _

/-- A reading that is chosen by what is next. -/
theorem Takes.ofTokens {r : List Tree → Reader α} (h : ∀ ts, Takes (r ts)) : Takes (tokens >>= r) :=
  have : ∀ ts, Takes (r ts) := h
  inferInstance

instance (s : String) : Takes (word s) := by
  unfold word
  infer_instance

instance : Takes ident := Takes.ofTokens fun ts => by split <;> infer_instance

instance : Takes name := Takes.ofTokens fun ts => by split <;> infer_instance

instance : Takes lifetime := by
  unfold lifetime
  infer_instance

instance (r : Reader α) [h : Takes r] : Takes (capture r) where
  shorter taken := by
    obtain ⟨⟨a, after⟩, read, taken⟩ := bind_eq_ok.1 taken
    cases taken
    have less := h.shorter read
    exact less

instance (r : Reader α) [Takes r] : Takes (copied r) := by
  unfold copied
  infer_instance

instance (r : Reader α) [Takes r] : Takes (spanned r) := by
  unfold spanned
  infer_instance

instance (d : Delimiter) (inner : Reader α) : Takes (within d inner) where
  shorter {c _ _} h := by
    obtain ⟨ts, close, leftover, written⟩ := c
    change (match ts with
      | .group e ts span opening closing :: rest => _
      | _ => _) = _ at h
    split at h
    · split at h
      · obtain ⟨_, _, h⟩ := bind_eq_ok.1 h
        cases h
        exact Nat.lt_succ_self _
      · cases h
    · cases h

instance (d : Delimiter) (inner : Reader α) (after : α → Reader β) : Takes (groupThen d inner after) := by
  unfold groupThen
  infer_instance

instance (d : Delimiter) (inner : Reader α) : Takes (group d inner) := by
  unfold group
  infer_instance

/-! ### Optional tokens -/

theorem TakesIf.ofNext (q : List Tree → Bool) (r : Reader Unit) [Takes r] :
    TakesIf (next q >>= fun b => if b = true then r >>= fun _ => pure true else pure false) where
  shorter {c after} h := by
    obtain ⟨b, middle, asked, h⟩ := Reading.run_bind_eq_ok.1 h
    cases asked
    split at h
    · obtain ⟨_, last, read, h⟩ := Reading.run_bind_eq_ok.1 h
      cases h
      exact Takes.shorter read
    · cases h

instance (s : String) : TakesIf (mark? s) := TakesIf.ofNext _ _
instance (s : String) : TakesIf (word? s) := TakesIf.ofNext _ _
instance : TakesIf lifetime? := TakesIf.ofNext _ _

/-! ### Readings that are alike -/

/-- The readings do the same where what is left counts no more than `n`, four for a token, if they may go down `k`
levels before they take one. -/
class Alike (n k : Nat) (r r' : Reading ε α) : Prop where
  run_eq : ∀ c : Cursor, 4 * Tree.sizes c.tokens + k ≤ n → r.run c = r'.run c

namespace Alike

variable {n k : Nat}

instance refl (r : Reading ε α) : Alike n k r r := ⟨fun _ _ => rfl⟩

section

variable {r r' : Reading ε α} {f f' : α → Reading ε β}

/-- One reading after another. -/
theorem run_bind {c : Cursor} (same : r.run c = r'.run c)
    (next : ∀ a after, r.run c = .ok (a, after) → (f a).run after = (f' a).run after) :
    (r >>= f).run c = (r' >>= f').run c := by
  rw [Reading.run_bind, Reading.run_bind, ← same]
  cases read : r.run c with
  | error e => rfl
  | ok result => exact next result.1 result.2 read

instance (priority := low) bind [h : Alike n k r r'] [h' : ∀ a, Alike n k (f a) (f' a)] :
    Alike n k (r >>= f) (r' >>= f') where
  run_eq c room := by
    refine run_bind (h.run_eq c room) fun a after read => (h' a).run_eq after ?_
    have less := Tree.sizes_le_of_suffix (r.forward read)
    omega

/-- Behind a token there is room for four levels. -/
instance bindTakes [h : Alike n k r r'] [Takes r] [h' : ∀ a, Alike n 4 (f a) (f' a)] :
    Alike n k (r >>= f) (r' >>= f') where
  run_eq c room := by
    refine run_bind (h.run_eq c room) fun a after read => (h' a).run_eq after ?_
    have less := Tree.sizes_lt_of_suffix (r.forward read) (Takes.shorter read)
    omega

end

/-- So there is behind an answer that is only given with a token. -/
instance bindIf {r r' : Reading ε Bool} {yes yes' no no' : Reading ε β} [h : Alike n k r r'] [TakesIf r]
    [hyes : Alike n 4 yes yes'] [hno : Alike n k no no'] :
    Alike n k (r >>= fun b => if b = true then yes else no) (r' >>= fun b => if b = true then yes' else no') where
  run_eq c room := by
    refine run_bind (h.run_eq c room) fun b after read => ?_
    cases b with
    | false =>
      have less := Tree.sizes_le_of_suffix (r.forward read)
      exact hno.run_eq after (by omega)
    | true =>
      have less := Tree.sizes_lt_of_suffix (r.forward read) (TakesIf.shorter read)
      exact hyes.run_eq after (by omega)

/-- A reading that is chosen by what has been read. -/
theorem after {r r' : Reading ε α} {f f' : α → Reading ε β} (h : Alike n k r r')
    (h' : ∀ a, Alike n k (f a) (f' a)) : Alike n k (r >>= f) (r' >>= f') := inferInstance

/-- A reading that is chosen by what is next. -/
theorem ofTokens {f f' : List Tree → Reader β} (h : ∀ ts, Alike n k (f ts) (f' ts)) :
    Alike n k (tokens >>= f) (tokens >>= f') := after (.refl _) h

instance ite {p : Prop} [Decidable p] {r r' s s' : Reading ε α} [Alike n k r r'] [Alike n k s s'] :
    Alike n k (if p then r else s) (if p then r' else s') := by
  split <;> infer_instance

/-- With less room before the first token there is more left for what follows. -/
theorem mono {r r' : Reading ε α} {l : Nat} (h : Alike n k r r') (le : k ≤ l) : Alike n l r r' :=
  ⟨fun c room => h.run_eq c (by omega)⟩

/-- One level is spent on the way down. -/
theorem below {r r' : Reading ε α} (h : Alike n k r r') : Alike (n + 1) (k + 1) r r' :=
  ⟨fun c room => h.run_eq c (by omega)⟩

/-- Where nothing can be spent there is no room for a level. -/
theorem nowhere (r r' : Reading ε α) : Alike 0 (k + 1) r r' := ⟨fun c room => absurd room (by omega)⟩

/-! ### Repetition -/

section Repetition

variable {item item' : Reader Unit} [Alike n k item item'] {step step' : Reader Bool} [Alike n k step step']

instance repeatFor (fuel : Nat) : Alike n k (repeatFor fuel step) (Derive.repeatFor fuel step') := by
  induction fuel with
  | zero => exact refl _
  | succ fuel ih =>
    unfold Derive.repeatFor
    infer_instance

instance iterate : Alike n k (iterate step) (Derive.iterate step') := by
  unfold Derive.iterate
  infer_instance

variable (done : List Tree → Bool) (separator : String)

instance listUntil : Alike n k (listUntil done separator item) (Derive.listUntil done separator item') := by
  unfold Derive.listUntil
  infer_instance

instance commaList : Alike n k (commaList item) (Derive.commaList item') := listUntil _ _

instance chainUntil : Alike n k (chainUntil done separator item) (Derive.chainUntil done separator item') := by
  unfold Derive.chainUntil
  infer_instance

instance untilEnd : Alike n k (untilEnd item) (Derive.untilEnd item') := by
  unfold Derive.untilEnd
  infer_instance

end Repetition

/-! ### Parts of a reading -/

section Parts

variable {r r' : Reader α} [h : Alike n k r r']

include h in
theorem run_capture {c : Cursor} (room : 4 * Tree.sizes c.tokens + k ≤ n) : (capture r).run c = (capture r').run c := by
  show (r.run { c with written := [] } >>= _) = (r'.run { c with written := [] } >>= _)
  rw [h.run_eq { c with written := [] } room]

instance capture : Alike n k (capture r) (Derive.capture r') := ⟨fun _ room => run_capture room⟩

instance copied : Alike n k (copied r) (Derive.copied r') := by
  unfold Derive.copied
  infer_instance

instance spanned : Alike n k (spanned r) (Derive.spanned r') := by
  unfold Derive.spanned
  infer_instance

instance attempt : Alike n k (attempt r) (Derive.attempt r') where
  run_eq c room := by
    show (match r.run c with | .ok (a, after) => Except.ok (some a, after) | .error _ => .ok (none, c)) =
      match r'.run c with | .ok (a, after) => Except.ok (some a, after) | .error _ => .ok (none, c)
    rw [h.run_eq c room]

instance afterColon {content content' : Reader Unit} [Alike n k content content'] :
    Alike n k (afterColon content) (Derive.afterColon content') := by
  unfold Derive.afterColon
  infer_instance

end Parts

/-! ### Groups -/

section Groups

variable {inner inner' : Reader α} [h : Alike n 4 inner inner'] (d : Delimiter)

/-- What is in a group counts less than the group. -/
instance within : Alike n k (within d inner) (Derive.within d inner') where
  run_eq c room := by
    obtain ⟨ts, close, leftover, written⟩ := c
    cases ts with
    | nil => rfl
    | cons t rest =>
      cases t with
      | group e us span opening closing =>
        have less : 4 * Tree.sizes us + 4 ≤ n := by
          change 4 * (1 + Tree.sizes us + Tree.sizes rest) + k ≤ n at room
          omega
        show (if d = e then inner.run _ >>= _ else _) = if d = e then inner'.run _ >>= _ else _
        rw [h.run_eq ⟨us, closing, leftover, []⟩ less]
      | _ => rfl

variable {after after' : α → Reader β} [∀ a, Alike n 4 (after a) (after' a)]

instance groupThen : Alike n k (groupThen d inner after) (Derive.groupThen d inner' after') := by
  unfold Derive.groupThen
  infer_instance

instance group : Alike n k (group d inner) (Derive.group d inner') := by
  unfold Derive.group
  infer_instance

end Groups

end Alike

end Derive

end Dimensional
