import Dimensional.Derive.Derivation

/-!
# Tokens without their positions

`bare` takes the positions from whatever may hold some: tokens, what is left to read, a report. What is asked
about the tokens that are next has the same answer without positions.

* `Placed`, `Rigid` — values that may hold positions, and values that hold none;
* `Blind` — questions about tokens that positions do not matter to;
* `takeMark_bare`, `nextIsMark_bare` — marks, and so for each of the other questions.
-/

namespace Dimensional.Source.Tree

mutual

/-- A token without its positions. -/
def bare : Tree → Tree
  | ident i _ => ident i .whole
  | punct c joint _ => punct c joint .whole
  | literal text _ => literal text .whole
  | group d inner _ _ _ => group d (bares inner) .whole .whole .whole

/-- Tokens without their positions. -/
def bares : List Tree → List Tree
  | [] => []
  | t :: ts => t.bare :: bares ts

end

theorem bares_eq_map (ts : List Tree) : bares ts = ts.map bare := by
  induction ts with
  | nil => rw [bares, List.map_nil]
  | cons t ts ih => rw [bares, ih, List.map_cons]

theorem joins_bare (t : Tree) : joins t.bare = joins t := by
  cases t <;> simp [bare, joins]

mutual

theorem text_bare (t : Tree) : t.bare.text = t.text := by
  cases t with
  | ident i span => simp [bare, text]
  | punct c joint span => simp [bare, text]
  | literal text span => simp [bare, Tree.text]
  | group d inner span opening closing =>
    have hinner := render_bares inner
    cases inner with
    | nil => simp [bare, bares, text]
    | cons t ts =>
      rw [bares] at hinner
      cases d <;> simp [bare, bares, text, hinner]

theorem render_bares (ts : List Tree) : render (bares ts) = render ts := by
  cases ts with
  | nil => simp [bares]
  | cons t ts =>
    have htext := text_bare t
    have hrest := render_bares ts
    cases ts with
    | nil => simp [bares, render, htext]
    | cons t' ts =>
      rw [bares] at hrest
      simp [bares, render, htext, hrest, joins_bare]

end

mutual

theorem size_bare (t : Tree) : t.bare.size = t.size := by
  cases t with
  | ident i span => simp [bare, size]
  | punct c joint span => simp [bare, size]
  | literal text span => simp [bare, size]
  | group d inner span opening closing => simp [bare, size, sizes_bares inner]

theorem sizes_bares (ts : List Tree) : sizes (bares ts) = sizes ts := by
  cases ts with
  | nil => simp [bares]
  | cons t ts => simp [bares, sizes, size_bare t, sizes_bares ts]

end

end Dimensional.Source.Tree

namespace Dimensional.Derive

open Source

/-- Values that may hold positions. -/
class Placed (α : Type) where
  /-- The value without its positions. -/
  bare : α → α

export Placed (bare)

/-- Values that hold no positions. -/
class Rigid (α : Type) [Placed α] : Prop where
  bare_eq : ∀ a : α, bare a = a

/-! ### Values without positions -/

section Values

variable {α β : Type} [Placed α] [Placed β]

instance : Placed Unit := ⟨id⟩
instance : Placed Bool := ⟨id⟩
instance : Placed Nat := ⟨id⟩
instance : Placed Int := ⟨id⟩
instance : Placed Char := ⟨id⟩
instance : Placed Ident := ⟨id⟩
instance : Placed Delimiter := ⟨id⟩
instance : Placed Span := ⟨fun _ => .whole⟩
instance : Placed Tree := ⟨Tree.bare⟩
instance : Placed (List α) := ⟨List.map bare⟩
instance : Placed (Option α) := ⟨Option.map bare⟩
instance : Placed (α × β) := ⟨Prod.map bare bare⟩
instance : Placed Cursor := ⟨fun c => ⟨bare c.tokens, .whole, bare c.leftover, bare c.written⟩⟩
instance : Placed Report := ⟨fun r => { r with span := .whole }⟩
instance : Placed Failure where
  bare
    | .unreadable => .unreadable
    | .report _ atEnd cause => .report .whole atEnd cause
    | .fault fault => .fault fault

instance : Rigid Unit := ⟨fun _ => rfl⟩
instance : Rigid Bool := ⟨fun _ => rfl⟩
instance : Rigid Nat := ⟨fun _ => rfl⟩
instance : Rigid Int := ⟨fun _ => rfl⟩
instance : Rigid Char := ⟨fun _ => rfl⟩
instance : Rigid Ident := ⟨fun _ => rfl⟩
instance : Rigid Delimiter := ⟨fun _ => rfl⟩
instance [Rigid α] : Rigid (Option α) := ⟨fun a => by cases a <;> simp [bare, Rigid.bare_eq]⟩
instance [Rigid α] : Rigid (List α) := ⟨fun as => by
  have hid : (bare : α → α) = id := funext Rigid.bare_eq
  simp [bare, hid]⟩
instance [Rigid α] [Rigid β] : Rigid (α × β) := ⟨fun p => by
  obtain ⟨a, b⟩ := p
  simp [bare, Rigid.bare_eq]⟩

@[simp] theorem bare_rigid [Rigid α] (a : α) : bare a = a := Rigid.bare_eq a

@[simp] theorem bare_nil : bare ([] : List α) = [] := rfl
@[simp] theorem bare_cons (a : α) (as : List α) : bare (a :: as) = bare a :: bare as := rfl
@[simp] theorem bare_none : bare (none : Option α) = none := rfl
@[simp] theorem bare_some (a : α) : bare (some a) = some (bare a) := rfl
@[simp] theorem bare_pair (a : α) (b : β) : bare (a, b) = (bare a, bare b) := rfl

@[simp] theorem bare_fst (p : α × β) : (bare p).1 = bare p.1 := rfl

@[simp] theorem bare_snd (p : α × β) : (bare p).2 = bare p.2 := rfl

@[simp] theorem bare_eq_nil {as : List α} : bare as = [] ↔ as = [] := List.map_eq_nil_iff
@[simp] theorem isEmpty_bare (as : List α) : (bare as).isEmpty = as.isEmpty := by cases as <;> rfl
@[simp] theorem length_bare (as : List α) : (bare as).length = as.length := List.length_map _
@[simp] theorem drop_bare (n : Nat) (as : List α) : (bare as).drop n = bare (as.drop n) := List.map_drop.symm
@[simp] theorem tail_bare (as : List α) : (bare as).tail = bare as.tail := List.map_tail.symm
@[simp] theorem take_bare (n : Nat) (as : List α) : (bare as).take n = bare (as.take n) := List.map_take.symm
@[simp] theorem append_bare (as bs : List α) : bare as ++ bare bs = bare (as ++ bs) := List.map_append.symm
@[simp] theorem head?_bare (as : List α) : (bare as).head? = bare as.head? := List.head?_map
@[simp] theorem getLast?_bare (as : List α) : (bare as).getLast? = bare as.getLast? := List.getLast?_map
@[simp] theorem isSome_bare (a : Option α) : (bare a).isSome = a.isSome := by cases a <;> rfl
@[simp] theorem getD_bare (a : Option α) (b : α) : (bare a).getD (bare b) = bare (a.getD b) := by cases a <;> rfl

@[simp] theorem or_bare (a b : Option α) : (bare a).or (bare b) = bare (a.or b) := by cases a <;> rfl

@[simp] theorem mapSnd_bare (p : Option (α × β)) : (bare p).map Prod.snd = bare (p.map Prod.snd) := by
  cases p <;> rfl

@[simp] theorem mapFst_bare [Rigid α] (ps : List (α × β)) : (bare ps).map Prod.fst = ps.map Prod.fst := by
  induction ps with
  | nil => rfl
  | cons p ps ih => simp [ih]

@[simp] theorem bare_ite {p : Prop} [Decidable p] (a b : α) :
    bare (if p then a else b) = if p then bare a else bare b := by split <;> rfl

end Values

@[simp] theorem bare_ident (i : Ident) (span : Span) : bare (Tree.ident i span) = .ident i (bare span) := by
  simp [bare, Tree.bare]
@[simp] theorem bare_punct (c : Char) (joint : Bool) (span : Span) :
    bare (Tree.punct c joint span) = .punct c joint (bare span) := by
  simp [bare, Tree.bare]
@[simp] theorem bare_literal (text : Text) (span : Span) :
    bare (Tree.literal text span) = .literal text (bare span) := by
  simp [bare, Tree.bare]
@[simp] theorem bare_group (d : Delimiter) (inner : List Tree) (span opening closing : Span) :
    bare (Tree.group d inner span opening closing) =
      .group d (bare inner) (bare span) (bare opening) (bare closing) := by
  simp [bare, Tree.bare, Tree.bares_eq_map]

theorem bare_eq_bares (ts : List Tree) : bare ts = Tree.bares ts := (Tree.bares_eq_map ts).symm

@[simp] theorem render_bare (ts : List Tree) : Tree.render (bare ts) = Tree.render ts := by
  rw [bare_eq_bares, Tree.render_bares]

@[simp] theorem sizes_bare (ts : List Tree) : Tree.sizes (bare ts) = Tree.sizes ts := by
  rw [bare_eq_bares, Tree.sizes_bares]

theorem bare_span (span : Span) : bare span = .whole := rfl
@[simp] theorem whole_bare : bare Span.whole = .whole := rfl
@[simp] theorem getDWhole_bare (span : Option Span) : (bare span).getD .whole = bare (span.getD .whole) := by
  cases span <;> rfl
@[simp] theorem join_bare (a b : Span) : (bare a).join (bare b) = bare (a.join b) := rfl
@[simp] theorem span_bare (t : Tree) : (bare t).span = bare t.span := by cases t <;> simp [Tree.span]
@[simp] theorem head_bare (t : Tree) : (bare t).head = bare t.head := by
  cases t <;> simp [Tree.head, Tree.span]

@[simp] theorem bare_tokens (c : Cursor) : (bare c).tokens = bare c.tokens := rfl
@[simp] theorem bare_close (c : Cursor) : (bare c).close = bare c.close := rfl
@[simp] theorem bare_leftover (c : Cursor) : (bare c).leftover = bare c.leftover := rfl
@[simp] theorem bare_written (c : Cursor) : (bare c).written = bare c.written := rfl
@[simp] theorem bare_report (span : Span) (atEnd : Bool) (cause : Cause) :
    bare (Report.mk span atEnd cause) = ⟨bare span, atEnd, cause⟩ := rfl
@[simp] theorem bare_failure (r : Report) : bare r.failure = (bare r).failure := rfl

@[simp] theorem here_bare (c : Cursor) : (bare c).here = bare c.here := by
  obtain ⟨tokens, close, leftover, written⟩ := c
  cases tokens with
  | nil => rfl
  | cons t ts => exact head_bare t

@[simp] theorem cursorReport_bare (c : Cursor) (cause : Cause) : (bare c).report cause = bare (c.report cause) := by
  simp [Cursor.report]

@[simp] theorem since_bare (c c' : Cursor) : (bare c).since (bare c') = bare (c.since c') := by
  simp [Cursor.since]

@[simp] theorem mapSpan_bare (t : Option Tree) : (bare t).map Tree.span = bare (t.map Tree.span) := by
  cases t <;> simp

@[simp] theorem spanOf_bare (ts : List Tree) : spanOf (bare ts) = bare (spanOf ts) := by
  cases ts <;> simp [spanOf]

/-! ### What is next -/

/-- The answer does not depend on positions. -/
class Blind {β : Type} (question : List Tree → β) : Prop where
  bare_eq : ∀ ts, question (bare ts) = question ts

theorem takeMark_bare (mark : Text) (ts : List Tree) : takeMark mark (bare ts) = bare (takeMark mark ts) := by
  induction mark generalizing ts with
  | nil => cases ts <;> rfl
  | cons c mark ih =>
    cases ts with
    | nil => cases mark <;> rfl
    | cons t ts =>
      cases t with
      | punct d joint span => cases mark <;> simp [takeMark, ih]
      | ident i span => cases mark <;> simp [takeMark]
      | literal text span => cases mark <;> simp [takeMark]
      | group d inner span opening closing => cases mark <;> simp [takeMark]

section Questions

variable (ts : List Tree)

@[simp] theorem nextIsMark_bare (s : String) : nextIsMark s (bare ts) = nextIsMark s ts := by
  rw [nextIsMark, takeMark_bare, isSome_bare, nextIsMark]

@[simp] theorem nextIsWord_bare (s : String) : nextIsWord s (bare ts) = nextIsWord s ts := by
  cases ts with
  | nil => rfl
  | cons t ts => cases t <;> simp [nextIsWord]

@[simp] theorem nextIsMarkIn_bare (marks : List String) : nextIsMarkIn marks (bare ts) = nextIsMarkIn marks ts := by
  simp [nextIsMarkIn]

@[simp] theorem nextIsWordIn_bare (words : List String) : nextIsWordIn words (bare ts) = nextIsWordIn words ts := by
  simp [nextIsWordIn]

@[simp] theorem nextIsGroup_bare (d : Delimiter) : nextIsGroup d (bare ts) = nextIsGroup d ts := by
  cases ts with
  | nil => rfl
  | cons t ts => cases t <;> simp [nextIsGroup]

@[simp] theorem nextIsIdent_bare : nextIsIdent (bare ts) = nextIsIdent ts := by
  cases ts with
  | nil => rfl
  | cons t ts => cases t <;> simp [nextIsIdent]

@[simp] theorem nextIsName_bare : nextIsName (bare ts) = nextIsName ts := by
  cases ts with
  | nil => rfl
  | cons t ts => cases t <;> simp [nextIsName]

@[simp] theorem nextIsLifetime_bare : nextIsLifetime (bare ts) = nextIsLifetime ts := by
  rcases ts with _ | ⟨t, _ | ⟨t', ts⟩⟩
  · rfl
  · cases t <;> simp [nextIsLifetime]
  · cases t <;> cases t' <;> simp [nextIsLifetime]

@[simp] theorem nextIsLiteral_bare : nextIsLiteral (bare ts) = nextIsLiteral ts := by
  have hwords := nextIsWordIn_bare ts ["true", "false"]
  rcases ts with _ | ⟨t, _ | ⟨t', ts⟩⟩
  · rfl
  · cases t <;> simp_all [nextIsLiteral]
  · cases t with
    | punct c joint span =>
      by_cases hminus : c = '-'
      · subst hminus
        cases t' <;> simp_all [nextIsLiteral]
      · simp_all [nextIsLiteral]
    | ident i span => simp_all [nextIsLiteral]
    | literal text span => simp [nextIsLiteral]
    | group d inner span opening closing => simp_all [nextIsLiteral]

@[simp] theorem behind_bare : behind (bare ts) = bare (behind ts) := by
  simp [behind]

end Questions

section Blindness

variable (s : String) (words : List String) (d : Delimiter) (q q' : List Tree → Bool) [Blind q] [Blind q']

instance : Blind (List.isEmpty : List Tree → Bool) := ⟨isEmpty_bare⟩
instance : Blind (nextIsMark s) := ⟨fun ts => nextIsMark_bare ts s⟩
instance : Blind (nextIsMarkIn words) := ⟨fun ts => nextIsMarkIn_bare ts words⟩
instance : Blind (nextIsWord s) := ⟨fun ts => nextIsWord_bare ts s⟩
instance : Blind (nextIsGroup d) := ⟨fun ts => nextIsGroup_bare ts d⟩
instance : Blind nextIsIdent := ⟨nextIsIdent_bare⟩
instance : Blind nextIsLifetime := ⟨nextIsLifetime_bare⟩
instance : Blind nextIsLiteral := ⟨nextIsLiteral_bare⟩
instance : Blind fun ts => q ts || q' ts := ⟨fun ts => by simp [Blind.bare_eq]⟩
instance : Blind fun ts => q ts && q' ts := ⟨fun ts => by simp [Blind.bare_eq]⟩
instance : Blind fun ts => !q ts := ⟨fun ts => by simp [Blind.bare_eq]⟩
instance (b : Bool) : Blind fun _ => b := ⟨fun _ => rfl⟩

end Blindness

end Dimensional.Derive
