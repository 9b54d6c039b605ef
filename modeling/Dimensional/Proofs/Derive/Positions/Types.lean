import Dimensional.Proofs.Derive.Positions.Readers

/-!
# Tags, paths and types without their positions

The readers of tags, of paths with their arguments, of bounds, parameters and conditions, and of types are
unplaced if the rules are that they call for what is nested.

* `UnplacedRules` — the rules of one level of the grammar are unplaced;
* the instances — the readers of types on such rules.
-/

namespace Dimensional.Derive

open Source

/-! ### What readers of the grammar answer -/

instance : Placed Path := ⟨id⟩
instance : Placed Segment := ⟨id⟩
instance : Placed Grammar.TypeForm := ⟨id⟩
instance : Placed Grammar.Enclosed := ⟨id⟩
instance : Placed Grammar.Form where
  bare
    | .range limits => .range (bare limits)
    | form => form
instance : Placed Content where
  bare
    | .arguments ts closing => .arguments (bare ts) (bare closing)
    | .value sign => .value (bare sign)
    | .bare => .bare
instance : Placed Tag := ⟨fun a => ⟨a.path, bare a.pathSpan, bare a.content, bare a.span⟩⟩
instance : Placed Grammar.Entry := ⟨fun e => { e with trees := bare e.trees }⟩

instance : Rigid Path := ⟨fun _ => rfl⟩
instance : Rigid Segment := ⟨fun _ => rfl⟩
instance : Rigid Grammar.TypeForm := ⟨fun _ => rfl⟩
instance : Rigid Grammar.Enclosed := ⟨fun _ => rfl⟩

@[simp] theorem bare_arguments (ts : List Tree) (closing : Span) :
    bare (Content.arguments ts closing) = .arguments (bare ts) (bare closing) := rfl
@[simp] theorem bare_value (sign : Span) : bare (Content.value sign) = .value (bare sign) := rfl
@[simp] theorem bare_bareContent : bare Content.bare = Content.bare := rfl
@[simp] theorem bare_tag (path : Path) (pathSpan span : Span) (content : Content) :
    bare (Tag.mk path pathSpan content span) = ⟨path, bare pathSpan, bare content, bare span⟩ := rfl

namespace Grammar

/-- The rules do the same without positions. -/
class UnplacedRules (g : Rules) : Prop where
  type : ∀ plus, Unplaced (g.type plus)
  arguments : Unplaced g.arguments
  binder : Unplaced g.binder
  pattern : Unplaced g.pattern
  unary : ∀ structures, Unplaced (g.unary structures)
  operation : ∀ structures form base c,
    (g.operation structures (bare form) base).run (bare c) = bareResult ((g.operation structures form base).run c)
  bounded : Unplaced g.bounded
  statements : Unplaced g.statements
  fields : Unplaced g.fields
  item : ∀ before c, (g.item (bare before)).run (bare c) = bareResult ((g.item before).run c)

section Calls

variable (g : Rules) [UnplacedRules g]

instance (plus : Bool) : Unplaced (g.type plus) := UnplacedRules.type plus
instance : Unplaced g.arguments := UnplacedRules.arguments
instance : Unplaced g.binder := UnplacedRules.binder
instance : Unplaced g.pattern := UnplacedRules.pattern
instance (structures : Bool) : Unplaced (g.unary structures) := UnplacedRules.unary structures
instance : Unplaced g.bounded := UnplacedRules.bounded
instance : Unplaced g.statements := UnplacedRules.statements
instance : Unplaced g.fields := UnplacedRules.fields

@[simp] theorem operation_bare (structures : Bool) (form : Form) (base : Precedence) (c : Cursor) :
    (g.operation structures (bare form) base).run (bare c) =
      bareResult ((g.operation structures form base).run c) := UnplacedRules.operation structures form base c

@[simp] theorem item_bare (before c : Cursor) :
    (g.item (bare before)).run (bare c) = bareResult ((g.item before).run c) := UnplacedRules.item before c

instance (structures : Bool) : Unplaced (g.expression structures) where
  run_bare c := by simp [Rules.expression]

instance : Unplaced g.anyType where
  run_bare c := by simp [Rules.anyType]

instance : Unplaced g.anyExpression where
  run_bare c := by simp [Rules.anyExpression]

end Calls

end Grammar

/-! ### Tags -/

instance (fuel : Nat) : Unplaced (Path.plainSegments fuel) where
  run_bare c := by
    induction fuel generalizing c with
    | zero => simp [Path.plainSegments]
    | succ fuel ih => simp [Path.plainSegments, ih]

instance : Unplaced Path.readPlain where
  run_bare c := by
    rcases hmark : (mark? "::").run c with e | ⟨leading, c'⟩
    · simp [Path.readPlain, hmark]
    · rcases hsegments : (Path.plainSegments c.tokens.length).run c' with e | ⟨segments, c''⟩
      · simp [Path.readPlain, hmark, hsegments]
      · rcases segments with _ | ⟨⟨first, span⟩, rest⟩
        · simp [Path.readPlain, hmark, hsegments]
        · simp [Path.readPlain, hmark, hsegments]

namespace Grammar

variable (g : Rules) [UnplacedRules g]

instance : Unplaced (tagValue g) where
  run_bare c := by simp [tagValue]

@[simp] theorem contentBehind_bare (path : Path) (span : Span) (c : Cursor) :
    (contentBehind g path (bare span)).run (bare c) = bareResult ((contentBehind g path span).run c) := by
  have hmarks := nextIsMark_bare c.tokens
  rcases htokens : c.tokens with _ | ⟨t, ts⟩
  · simp [contentBehind, htokens]
  · rw [htokens] at hmarks
    cases t with
    | group d inner at_ opening closing => simp [contentBehind, htokens]
    | ident i at_ => simp_all [contentBehind]
    | punct d joint at_ => simp_all [contentBehind]
    | literal text at_ => simp_all [contentBehind]

instance : Unplaced (tagContent g) where
  run_bare c := by simp [tagContent, -String.reduceToList]

instance (fuel : Nat) : Unplaced (tagsFor g fuel) where
  run_bare c := by
    induction fuel generalizing c with
    | zero => simp [tagsFor]
    | succ fuel ih => simp [tagsFor, ih]

instance : Unplaced (tags g) where
  run_bare c := by simp [tags]

instance : Unplaced (skipTags g) where
  run_bare c := by simp [skipTags]

instance : Unplaced (innerTags g) := iterate_unplaced fun c => by simp

instance : Unplaced (block g) := inferInstanceAs (Unplaced (group .brace g.statements))

instance : Unplaced (body g) := by
  unfold body
  infer_instance

instance : Unplaced (constantBlock g) := by
  unfold constantBlock
  infer_instance

/-! ### Paths -/

@[simp] theorem nextIsTurbofish_bare (ts : List Tree) : nextIsTurbofish (bare ts) = nextIsTurbofish ts := by
  simp [nextIsTurbofish]

@[simp] theorem nextIsAngle_bare (ts : List Tree) : nextIsAngle (bare ts) = nextIsAngle ts := by
  simp [nextIsAngle]

@[simp] theorem nextIsPath_bare (ts : List Tree) : nextIsPath (bare ts) = nextIsPath ts := by
  simp [nextIsPath]

@[simp] theorem nextIsBang_bare (ts : List Tree) : nextIsBang (bare ts) = nextIsBang ts := by
  simp [nextIsBang]

@[simp] theorem nextIsBuiltin_bare (ts : List Tree) : nextIsBuiltin (bare ts) = nextIsBuiltin ts := by
  simp [nextIsBuiltin]

instance (value : Bool) : Unplaced (segment g value) where
  run_bare c := by simp [segment]

instance (value : Bool) (more : List Tree → Bool) [Blind more] (fuel : Nat) :
    Unplaced (segmentsFor g value more fuel) where
  run_bare c := by
    induction fuel generalizing c with
    | zero => simp [segmentsFor]
    | succ fuel ih => simp [segmentsFor, ih, Blind.bare_eq]

instance : Blind fun ts => !nextIsGroup .parenthesis (ts.drop 2) := ⟨fun ts => by simp⟩

instance (value : Bool) : Unplaced (path g value) where
  run_bare c := by simp [path]

instance (value : Bool) : Unplaced (qualifiedPath g value) where
  run_bare c := by simp [qualifiedPath]

instance (qualified : Bool) (p : Path) : Unplaced (macroCall? qualified p) where
  run_bare c := by simp [macroCall?]

instance : Unplaced builtin := by
  unfold builtin
  infer_instance

instance : Unplaced visibility where
  run_bare c := by
    rcases hword : (word? "pub").run c with e | ⟨found, c'⟩
    · simp [visibility, hword]
    · rcases htokens : c'.tokens with _ | ⟨t, ts⟩
      · simp [visibility, hword, htokens]
      · cases t with
        | group d inner span opening closing => cases d <;> simp [visibility, hword, htokens]
        | ident i span => simp [visibility, hword, htokens]
        | punct d joint span => simp [visibility, hword, htokens]
        | literal text span => simp [visibility, hword, htokens]

/-! ### Between angles -/

@[simp] theorem bare_entry (isLifetime : Bool) (trees : List Tree) (comma : Bool) :
    bare (Entry.mk isLifetime trees comma) = ⟨isLifetime, bare trees, comma⟩ := rfl

@[simp] theorem isLifetime_bare (e : Entry) : (bare e).isLifetime = e.isLifetime := rfl

@[simp] theorem entryText_bare (e : Entry) : (bare e).text = bare e.text := by
  obtain ⟨isLifetime, trees, comma⟩ := e
  cases comma <;> simp [Entry.text, ← append_bare]

theorem filter_bare {p : Entry → Bool} (hp : ∀ e, p (bare e) = p e) (entries : List Entry) :
    (bare entries).filter p = bare (entries.filter p) := by
  induction entries with
  | nil => rfl
  | cons e entries ih => cases h : p e <;> simp [hp, h, ih]

@[simp] theorem lifetimesFirst_bare (entries : List Entry) :
    lifetimesFirst (bare entries) = bare (lifetimesFirst entries) := by
  have hlifetimes := filter_bare (p := Entry.isLifetime) (fun _ => rfl) entries
  have hothers := filter_bare (p := not ∘ Entry.isLifetime) (fun _ => rfl) entries
  have hcommas : ∀ es : List Entry, (bare es).map (fun e => { e with comma := true }) =
      bare (es.map fun e => { e with comma := true }) := fun es => by
    induction es with
    | nil => rfl
    | cons e es ih => rw [bare_cons, List.map_cons, List.map_cons, ih]; rfl
  simp only [lifetimesFirst, List.partition_eq_filter_filter, hlifetimes, hothers, isEmpty_bare, hcommas, append_bare,
    bare_ite]

@[simp] theorem flatMapText_bare (entries : List Entry) :
    (bare entries).flatMap Entry.text = bare (entries.flatMap Entry.text) := by
  induction entries with
  | nil => rfl
  | cons e entries ih => simp [ih]

instance (item : Reader Bool) [Unplaced item] (comma : Reader Unit) [Unplaced comma] (fuel : Nat) :
    Unplaced (entriesFor item comma fuel) where
  run_bare c := by
    induction fuel generalizing c with
    | zero => simp [entriesFor]
    | succ fuel ih => simp [entriesFor, ih]

instance (item : Reader Bool) [Unplaced item] (comma : Reader Unit) [Unplaced comma] :
    Unplaced (inAngles item comma) where
  run_bare c := by simp [inAngles]

/-! ### Bounds -/

instance : Unplaced capturedNames where
  run_bare c := by
    simp [capturedNames]

instance (plus : Bool) : Unplaced (returnType g plus) where
  run_bare c := by simp [returnType]

instance : Unplaced (functionArguments g) where
  run_bare c := by simp [functionArguments]

instance (constant : Bool) : Unplaced (traitBound g constant) where
  run_bare c := by simp [traitBound, -String.reduceToList]

instance (captures constant : Bool) : Unplaced (bound g captures constant) where
  run_bare c := by simp [bound]

instance : Unplaced (anyBound g) where
  run_bare c := by simp [anyBound]

@[simp] theorem nextIsBound_bare (constant : Bool) (ts : List Tree) :
    nextIsBound constant (bare ts) = nextIsBound constant ts := by
  simp [nextIsBound]

instance (constant : Bool) : Blind (nextIsBound constant) := ⟨nextIsBound_bare constant⟩

instance (plus captures constant : Bool) (fuel : Nat) : Unplaced (boundsFor g plus captures constant fuel) where
  run_bare c := by
    induction fuel generalizing c with
    | zero => simp [boundsFor]
    | succ fuel ih => simp [boundsFor, ih]

@[simp] theorem lastBound_bare (bounds : List (Option Span)) :
    ((bare bounds).mapM id).bind List.getLast? = bare ((bounds.mapM id).bind List.getLast?) := by
  have hall : (bare bounds).mapM id = bare (bounds.mapM id) := by
    induction bounds with
    | nil => rfl
    | cons b bounds ih =>
      cases b with
      | none => rfl
      | some span =>
        rw [bare_cons, List.mapM_cons, List.mapM_cons, ih]
        cases bounds.mapM id <;> rfl
  rw [hall]
  cases bounds.mapM id <;> simp

@[simp] theorem someBounds_bare (start : Span) (plus captures constant : Bool) (otherwise : Cause) (c : Cursor) :
    (someBounds g (bare start) plus captures constant otherwise).run (bare c) =
      bareResult ((someBounds g start plus captures constant otherwise).run c) := by
  rcases hbounds : (boundsFor g plus captures constant (c.tokens.length + 1)).run c with e | ⟨bounds, c'⟩
  · simp [someBounds, hbounds]
  · cases hlast : (bounds.mapM id).bind List.getLast? with
    | none => simp [someBounds, hbounds, hlast]
    | some last => simp [someBounds, hbounds, hlast]

@[simp] theorem objectBounds_bare (start : Span) (plus : Bool) (c : Cursor) :
    (objectBounds g (bare start) plus).run (bare c) = bareResult ((objectBounds g start plus).run c) := by
  simp [objectBounds]

instance : Unplaced (furtherBounds g) where
  run_bare c := by simp [furtherBounds]

/-! ### Arguments -/

instance : Unplaced (constant g) where
  run_bare c := by simp [constant]

@[simp] theorem nextIsConstant_bare (ts : List Tree) : nextIsConstant (bare ts) = nextIsConstant ts := by
  simp [nextIsConstant]

instance : Unplaced (argument g) where
  run_bare c := by
    rcases htype : (g.type true).run c with e | ⟨form, c'⟩
    · simp [argument, htype]
    · rcases form with ⟨_ | _, _ | _, first, _ | _⟩ | _ | _ <;> simp [argument, htype]

instance : Unplaced (arguments g) where
  run_bare c := by simp [arguments]

/-! ### Parameters -/

instance : Unplaced lifetimeParameter where
  run_bare c := by simp [lifetimeParameter]

instance : Unplaced (typeParameter g) where
  run_bare c := by simp [typeParameter]

instance : Unplaced (constantParameter g) where
  run_bare c := by simp [constantParameter]

instance : Unplaced (binder g) := by
  unfold binder
  infer_instance

instance : Unplaced (parameter g) where
  run_bare c := by simp [parameter]

instance : Unplaced (parameters g) where
  run_bare c := by simp [parameters]

@[simp] theorem nextIsParameters_bare (ts : List Tree) : nextIsParameters (bare ts) = nextIsParameters ts := by
  simp [nextIsParameters]

/-! ### Conditions -/

@[simp] theorem endOfCondition_bare (ts : List Tree) : endOfCondition (bare ts) = endOfCondition ts := by
  simp [endOfCondition]

instance : Blind endOfCondition := ⟨endOfCondition_bare⟩

instance : Unplaced (condition g) where
  run_bare c := by simp [condition]

instance : Unplaced (conditions g) where
  run_bare c := by simp [conditions]

/-! ### Types -/

instance : Unplaced (enclosed g) where
  run_bare c := by simp [enclosed]

instance (plus : Bool) (e : Enclosed) : Unplaced (afterEnclosed g plus e) where
  run_bare c := by cases e <;> simp [afterEnclosed]

instance : Unplaced convention where
  run_bare c := by
    rcases hword : (word? "extern").run c with e | ⟨found, c'⟩
    · simp [convention, hword]
    · rcases htokens : c'.tokens with _ | ⟨t, ts⟩
      · simp [convention, hword, htokens]
      · cases t <;> simp [convention, hword, htokens]

@[simp] theorem nextIsVariadic_bare (ts : List Tree) : nextIsVariadic (bare ts) = nextIsVariadic ts := by
  simp [nextIsVariadic]

@[simp] theorem nextIsMutableSelf_bare (ts : List Tree) : nextIsMutableSelf (bare ts) = nextIsMutableSelf ts := by
  simp [nextIsMutableSelf]

instance (first : Bool) : Unplaced (typedArgument g first) where
  run_bare c := by simp [typedArgument]

instance (fuel : Nat) (first : Bool) : Unplaced (typedArgumentsFor g fuel first) where
  run_bare c := by
    induction fuel generalizing c first with
    | zero => simp [typedArgumentsFor]
    | succ fuel ih => simp [typedArgumentsFor, ih]

instance : Unplaced (functionType g) := by
  have : Unplaced (do typedArgumentsFor g ((← tokens).length + 1) true) := ⟨fun c => by simp⟩
  unfold functionType
  infer_instance

instance (plus bound : Bool) : Unplaced (pathType g plus bound) where
  run_bare c := by simp [pathType]

instance : Unplaced (pointerType g) where
  run_bare c := by simp [pointerType]

instance : Unplaced (referenceType g) where
  run_bare c := by simp [referenceType]

instance : Unplaced (sliceType g) where
  run_bare c := by simp [sliceType]

instance (plus : Bool) : Unplaced (objectType g plus) where
  run_bare c := by simp [objectType]

instance (plus : Bool) : Unplaced (anonymousType g plus) where
  run_bare c := by simp [anonymousType]

instance : BlindWishes boundTypeWishes := by
  unfold boundTypeWishes
  infer_instance

instance : BlindWishes typeWishes := by
  unfold typeWishes
  infer_instance

instance (plus : Bool) : Unplaced (type g plus) where
  run_bare c := by simp [type]

end Grammar

end Dimensional.Derive
