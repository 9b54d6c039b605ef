import Dimensional.Proofs.Derive.Positions.Types

/-!
# Patterns, expressions and statements without their positions

The readers of members, patterns, expressions and statements are unplaced on unplaced rules. The mark of a
range is answered with its place, so that what is read behind an operand is compared on the operand's form
without positions.

* `operationFor_bare` — the operations on an operand;
* the instances — the readers of expressions on unplaced rules.
-/

namespace Dimensional.Derive

open Source

-- an instance is as large as the reader that it is for
set_option synthInstance.maxSize 400

instance : Placed Grammar.Call := ⟨id⟩
instance : Rigid Grammar.Call := ⟨fun _ => rfl⟩

namespace Grammar

/-! ### Members -/

@[simp] theorem memberIndex_bare (negative : Bool) (text : Text) (span : Span) (c : Cursor) :
    (memberIndex negative text (bare span)).run (bare c) = bareResult ((memberIndex negative text span).run c) := by
  cases h : Literal.wholeNumber? text with
  | none => simp [memberIndex, h]
  | some number =>
    simp only [memberIndex, h, run_ite, bareResult_ite, run_failAt, bareResult_error, bareResult_ok, bare_pair,
      Reading.run_pure, bare_report, bare_rigid]

@[simp] theorem takeNumber_bare (ts : List Tree) : takeNumber (bare ts) = bare (takeNumber ts) := by
  rcases ts with _ | ⟨t, _ | ⟨t', ts⟩⟩
  · rfl
  · cases t <;> simp [takeNumber]
  · cases t with
    | punct d joint sign =>
      by_cases hminus : d = '-'
      · subst hminus
        cases t' <;> simp [takeNumber]
      · simp [takeNumber, hminus]
    | ident i span => simp [takeNumber]
    | literal text span => simp [takeNumber]
    | group d inner span opening closing => simp [takeNumber]

instance : Unplaced member where
  run_bare c := by
    cases h : takeNumber c.tokens with
    | none => simp [member, h]
    | some number => simp [member, h]

@[simp] theorem members_bare (negative : Bool) (span : Span) (parts : List Text) (c : Cursor) :
    (members negative (bare span) parts).run (bare c) = bareResult ((members negative span parts).run c) := by
  induction parts generalizing negative c with
  | nil => simp [members]
  | cons part parts ih => simp [members, ih]

instance : Unplaced pointedMembers? where
  run_bare c := by
    cases h : takeNumber c.tokens with
    | none => simp [pointedMembers?, h]
    | some number => simp [pointedMembers?, h]

/-! ### Patterns -/

section Patterns

instance : BlindWishes patternWishes := by
  unfold patternWishes
  infer_instance

instance : BlindWishes rangeEndWishes := by
  unfold rangeEndWishes
  infer_instance

variable (g : Rules) [UnplacedRules g]

instance (old : Bool) : Unplaced (rangeMark old) where
  run_bare c := by simp [rangeMark]

instance : Unplaced (patternEnd g) where
  run_bare c := by simp [patternEnd]

@[simp] theorem openEnd_bare (mark : Span) (lower upper : Bool) :
    openEnd (bare mark) lower upper = bare (openEnd mark lower upper) := by
  simp [openEnd]

instance : Unplaced (upperRange g) where
  run_bare c := by simp [upperRange]

instance : Unplaced (lowerOpenRange g) where
  run_bare c := by simp [lowerOpenRange]

instance : Unplaced (patterns g) where
  run_bare c := by simp [patterns]

instance : Unplaced (anyPatterns g) where
  run_bare c := by simp [anyPatterns]

instance : Unplaced (fieldPattern g) where
  run_bare c := by simp [fieldPattern]

instance : Unplaced (structurePattern g) where
  run_bare c := by simp [structurePattern]

instance : Unplaced (pathPattern g) where
  run_bare c := by simp [pathPattern]

instance : Unplaced (namePattern g) where
  run_bare c := by simp [namePattern]

instance : Unplaced (slicePattern g) := by
  have helement : Unplaced (do
      match ← patterns g with
      | some span => failAt span .openRange
      | none => return : Reader Unit) := ⟨fun c => by
    rcases h : (patterns g).run c with e | ⟨_ | span, c'⟩ <;> simp [h]⟩
  exact inferInstanceAs (Unplaced (group .bracket (commaList _)))

@[simp] theorem nextIsPathPattern_bare (ts : List Tree) : nextIsPathPattern (bare ts) = nextIsPathPattern ts := by
  simp [nextIsPathPattern]

instance : Unplaced (pattern g) where
  run_bare c := by simp [pattern]

end Patterns

/-! ### Forms -/

@[simp] theorem bare_range (limits : Span) : bare (Form.range limits) = .range (bare limits) := rfl
@[simp] theorem bare_comparison : bare Form.comparison = .comparison := rfl
@[simp] theorem bare_bracedMacro : bare Form.bracedMacro = .bracedMacro := rfl
@[simp] theorem bare_block : bare Form.block = .block := rfl
@[simp] theorem bare_other : bare Form.other = .other := rfl

@[simp] theorem bare_eq_block (form : Form) : bare form = .block ↔ form = .block := by cases form <;> simp
@[simp] theorem bare_eq_comparison (form : Form) : bare form = .comparison ↔ form = .comparison := by
  cases form <;> simp
@[simp] theorem needsSemicolon_bare (form : Form) : needsSemicolon (bare form) = needsSemicolon form := by
  cases form <;> simp [needsSemicolon]

/-! ### Operands -/

section Operands

variable (g : Rules) [UnplacedRules g]

@[simp] theorem operator?_bare (ts : List Tree) : operator? (bare ts) = operator? ts := by
  simp [operator?]

@[simp] theorem nextIsAssignment_bare (ts : List Tree) : nextIsAssignment (bare ts) = nextIsAssignment ts := by
  simp [nextIsAssignment]

@[simp] theorem nextPrecedence_bare (ts : List Tree) : nextPrecedence (bare ts) = nextPrecedence ts := by
  simp [nextPrecedence]

@[simp] theorem tighterFor_bare (structures : Bool) (p : Precedence) (fuel : Nat) (form : Form) (c : Cursor) :
    (tighterFor g structures p fuel (bare form)).run (bare c) =
      bareResult ((tighterFor g structures p fuel form).run c) := by
  induction fuel generalizing form c with
  | zero => simp [tighterFor]
  | succ fuel ih => simp [tighterFor, ih]

instance (structures : Bool) (p : Precedence) : Unplaced (rightOperand g structures p) where
  run_bare c := by simp [rightOperand]

@[simp] theorem endOfRange_bare (structures : Bool) (ts : List Tree) :
    endOfRange structures (bare ts) = endOfRange structures ts := by
  simp [endOfRange]

instance (structures : Bool) : Unplaced (rangeFrom g structures) where
  run_bare c := by simp [rangeFrom]

instance : Unplaced (callArguments g) := by
  unfold callArguments
  infer_instance

instance : Unplaced (memberAccess g) where
  run_bare c := by simp [memberAccess]

@[simp] theorem trailersFor_bare (fuel : Nat) (form : Form) (c : Cursor) :
    (trailersFor g fuel (bare form)).run (bare c) = bareResult ((trailersFor g fuel form).run c) := by
  induction fuel generalizing form c with
  | zero => simp [trailersFor]
  | succ fuel ih =>
    -- the form is a constant here, which does not show that it is one without positions
    have hother (c : Cursor) : (trailersFor g fuel .other).run (bare c) =
        bareResult ((trailersFor g fuel .other).run c) := ih .other c
    cases form <;> simp [trailersFor, hother]

@[simp] theorem trailers_bare (form : Form) (c : Cursor) :
    (trailers g (bare form)).run (bare c) = bareResult ((trailers g form).run c) := by
  simp [trailers]

/-! ### Branches and loops -/

instance (fuel : Nat) : Unplaced (branchesFor g fuel) where
  run_bare c := by
    induction fuel generalizing c with
    | zero => simp [branchesFor]
    | succ fuel ih => simp [branchesFor, ih]

instance : Unplaced (branches g) where
  run_bare c := by simp [branches]

instance : Unplaced (whileLoop g) where
  run_bare c := by simp [whileLoop]

instance : Unplaced (forLoop g) where
  run_bare c := by simp [forLoop]

instance : Unplaced (endlessLoop g) where
  run_bare c := by simp [endlessLoop]

@[simp] theorem nextIsClosureBinder_bare (ts : List Tree) : nextIsClosureBinder (bare ts) = nextIsClosureBinder ts := by
  simp [nextIsClosureBinder]

@[simp] theorem nextIsWordThenBlock_bare (s : String) (ts : List Tree) :
    nextIsWordThenBlock s (bare ts) = nextIsWordThenBlock s ts := by
  simp [nextIsWordThenBlock]

@[simp] theorem nextIsBlockLike_bare (ts : List Tree) : nextIsBlockLike (bare ts) = nextIsBlockLike ts := by
  simp [nextIsBlockLike]

instance : Unplaced (arm g) where
  run_bare c := by simp [arm]

instance : Unplaced (choice g) where
  run_bare c := by simp [choice]

/-! ### Atoms -/

@[simp] theorem nextIsExpression_bare (ts : List Tree) : nextIsExpression (bare ts) = nextIsExpression ts := by
  simp [nextIsExpression]

instance : Unplaced (expression? g) where
  run_bare c := by simp [expression?]

@[simp] theorem nextIsAsyncBlock_bare (ts : List Tree) : nextIsAsyncBlock (bare ts) = nextIsAsyncBlock ts := by
  simp [nextIsAsyncBlock]

@[simp] theorem nextIsClosure_bare (ts : List Tree) : nextIsClosure (bare ts) = nextIsClosure ts := by
  simp [nextIsClosure]

@[simp] theorem nextIsNamed_bare (ts : List Tree) : nextIsNamed (bare ts) = nextIsNamed ts := by
  simp [nextIsNamed]

instance : Unplaced (closureArgument g) where
  run_bare c := by simp [closureArgument]

instance (structures : Bool) : Unplaced (closure g structures) where
  run_bare c := by simp [closure]

instance : Unplaced (fieldValue g) where
  run_bare c := by simp [fieldValue]

instance : Unplaced (structureValue g) where
  run_bare c := by simp [structureValue]

instance (structures : Bool) : Unplaced (namedValue g structures) where
  run_bare c := by
    rcases hpath : (qualifiedPath g true).run c with e | ⟨⟨qualified, p⟩, c'⟩
    · simp [namedValue, hpath]
    · rcases hcall : (macroCall? qualified p).run c' with e | ⟨_ | d, c''⟩
      · simp [namedValue, hpath, hcall]
      · simp [namedValue, hpath, hcall]
      · simp [namedValue, hpath, hcall]

instance : Unplaced (arrayValue g) where
  run_bare c := by simp [arrayValue]

instance (structures : Bool) : Unplaced (breakJump g structures) where
  run_bare c := by simp [breakJump]

instance (structures : Bool) : Unplaced (bindingCondition g structures) where
  run_bare c := by simp [bindingCondition]

instance : Unplaced (labeled g) where
  run_bare c := by simp [labeled]

omit [UnplacedRules g] in
@[simp] theorem blockLike?_bare (ts : List Tree) : blockLike? g (bare ts) = blockLike? g ts := by
  simp [blockLike?]

omit [UnplacedRules g] in
theorem choice_unplaced {p : Prop} [Decidable p] {r reader : Reader Unit} [Unplaced r] {others : Option (Reader Unit)}
    (hothers : others = some reader → Unplaced reader) (h : (if p then some r else others) = some reader) :
    Unplaced reader := by
  split at h
  · cases h
    infer_instance
  · exact hothers h

theorem blockLike_unplaced {ts : List Tree} {reader : Reader Unit} (h : blockLike? g ts = some reader) :
    Unplaced reader := by
  unfold blockLike? at h
  iterate 9
    refine choice_unplaced ?_ h
    clear h
    intro h
  cases h

instance (structures : Bool) : Unplaced (atom g structures) where
  run_bare c := by
    cases hblock : blockLike? g c.tokens with
    | none => simp [atom, hblock]
    | some reader =>
      have := blockLike_unplaced g hblock
      simp [atom, hblock]

/-! ### Operations -/

instance (structures : Bool) : Unplaced (referenceValue g structures) where
  run_bare c := by simp [referenceValue]

instance (structures : Bool) : Unplaced (unary g structures) where
  run_bare c := by
    rcases htags : (tags g).run c with e | ⟨tags, c'⟩
    · simp [unary, htags]
    cases hsign : ["*", "!", "-"].find? fun sign => nextIsMark sign c'.tokens with
    | some sign => simp [unary, htags, hsign]
    | none =>
      rcases hatom : (atom g structures).run c' with e | ⟨form, c''⟩
      · simp [unary, htags, hsign, hatom]
      · rcases htrailers : (trailers g form).run c'' with e | ⟨form', after⟩
        · simp [unary, htags, hsign, hatom, htrailers]
        · cases form' <;> simp [unary, htags, hsign, hatom, htrailers]

@[simp] theorem suffix?_bare (ts : List Tree) : suffix? (bare ts) = suffix? ts := by
  simp [suffix?]

instance : Unplaced (cast g) where
  run_bare c := by
    rcases hword : (word "as").run c with e | ⟨⟨⟩, c'⟩
    · simp [cast, hword]
    · rcases htype : (g.type false).run c' with e | ⟨form, c''⟩
      · simp [cast, hword, htype]
      · cases hsuffix : suffix? c''.tokens <;> simp [cast, hword, htype, hsuffix]

@[simp] theorem operationFor_bare (structures : Bool) (base : Precedence) (fuel : Nat) (form : Form) (c : Cursor) :
    (operationFor g structures base fuel (bare form)).run (bare c) =
      bareResult ((operationFor g structures base fuel form).run c) := by
  induction fuel generalizing form c with
  | zero => simp [operationFor]
  | succ fuel ih =>
    have hother (c : Cursor) : (operationFor g structures base fuel .other).run (bare c) =
        bareResult ((operationFor g structures base fuel .other).run c) := ih .other c
    have hchosen (p : Prop) [Decidable p] (c : Cursor) :
        (operationFor g structures base fuel (if p then .comparison else .other)).run (bare c) =
          bareResult ((operationFor g structures base fuel (if p then .comparison else .other)).run c) := by
      split
      · exact ih .comparison c
      · exact hother c
    cases form with
    | range limits => simp [operationFor]
    | _ => cases hoperator : operator? c.tokens <;> simp [operationFor, hoperator, ih, hother, hchosen]

theorem operation_unplaced (structures : Bool) (form : Form) (base : Precedence) (c : Cursor) :
    (operation g structures (bare form) base).run (bare c) = bareResult ((operation g structures form base).run c) := by
  simp [operation]

instance : Unplaced (bounded g) where
  run_bare c := by simp [bounded]

end Operands

/-! ### Statements -/

section Statements

variable (g : Rules) [UnplacedRules g]

@[simp] theorem nextIsItem_bare (ts : List Tree) : nextIsItem (bare ts) = nextIsItem ts := by
  simp [nextIsItem]

@[simp] theorem lastIsGroup_bare (d : Delimiter) (t : Option Tree) :
    (bare t).map (fun t => nextIsGroup d [t]) = t.map fun t => nextIsGroup d [t] := by
  cases t with
  | none => rfl
  | some t => exact congrArg some (nextIsGroup_bare [t] d)

instance : Unplaced (declaration g) where
  run_bare c := by simp [declaration]

@[simp] theorem callOf_bare (ts : List Tree) : callOf (bare ts) = callOf ts := by
  simp [callOf]

instance : Blind callOf := ⟨callOf_bare⟩

instance : Unplaced (statement g) where
  run_bare c := by simp [statement]

instance : Unplaced (statements g) where
  run_bare c := by simp [statements]

end Statements

end Grammar

end Dimensional.Derive
