import Dimensional.Proofs.Derive.Positions.Expressions

/-!
# Items and attributes without their positions

Items close the circle: the rules of a level are unplaced if those of the level below are, and the lowest
rules read nothing. What a dimension attribute says is therefore the same wherever the attribute stands.

* `Rules.level_unplaced` — the rules of any level are unplaced;
* `Attribute.ofTrees_bare` — what an attribute says without the positions of its arguments.
-/

namespace Dimensional.Derive

open Source

set_option synthInstance.maxSize 400

namespace Grammar

/-! ### Fields and variants -/

section Fields

variable (g : Rules) [UnplacedRules g]

instance : Unplaced (tupleField g) := by
  unfold tupleField
  infer_instance

instance : Unplaced (namedField g) where
  run_bare c := by simp [namedField]

instance : Unplaced (tupleFields g) := inferInstanceAs (Unplaced (group .parenthesis (commaList (tupleField g))))

instance : Unplaced (fields g) := inferInstanceAs (Unplaced (group .brace (commaList (namedField g))))

instance : Unplaced (variant g) where
  run_bare c := by simp [variant]

instance (early : Bool) : BlindWishes (structureWishes early) := by
  unfold structureWishes
  infer_instance

instance : Unplaced (structureBody g) where
  run_bare c := by simp [structureBody]

instance : Unplaced (enumerationBody g) where
  run_bare c := by simp [enumerationBody]

instance : Unplaced (unionBody g) where
  run_bare c := by simp [unionBody]

end Fields

/-! ### Functions -/

section Functions

variable (g : Rules) [UnplacedRules g]

@[simp] theorem afterWord_bare (s : String) (ts : List Tree) : afterWord s (bare ts) = bare (afterWord s ts) := by
  simp [afterWord]

/-- The tokens behind a string, if one is next. -/
def afterString : List Tree → List Tree
  | .literal text span :: rest => if Literal.isString text then rest else .literal text span :: rest
  | rest => rest

@[simp] theorem afterString_bare (ts : List Tree) : afterString (bare ts) = bare (afterString ts) := by
  cases ts with
  | nil => rfl
  | cons t ts => cases t <;> simp [afterString]

/-- The tokens behind the qualifiers of a function. -/
def afterQualifiers (safe : Bool) (ts : List Tree) : List Tree :=
  if safe && nextIsWord "safe" ts then ts.drop 1 else afterWord "unsafe" ts

@[simp] theorem afterQualifiers_bare (safe : Bool) (ts : List Tree) :
    afterQualifiers safe (bare ts) = bare (afterQualifiers safe ts) := by
  simp [afterQualifiers]

theorem startsFunction_eq (safe : Bool) (ts : List Tree) :
    startsFunction safe ts =
      let ts := afterQualifiers safe (afterWord "async" (afterWord "const" ts))
      nextIsWord "fn" (if nextIsWord "extern" ts then afterString (ts.drop 1) else ts) := by
  unfold startsFunction
  rfl

@[simp] theorem startsFunction_bare (safe : Bool) (ts : List Tree) :
    startsFunction safe (bare ts) = startsFunction safe ts := by
  simp only [startsFunction_eq, afterWord_bare, afterQualifiers_bare, nextIsWord_bare, drop_bare, afterString_bare,
    ← bare_ite]

instance : Unplaced (receiver g) where
  run_bare c := by simp [receiver]

instance (first received : Bool) : Unplaced (functionParameter g first received) where
  run_bare c := by
    have : Unplaced (write [.ident (.plain ['_']) .whole, .punct ':' false .whole]) := write_unplaced (by simp)
    rcases hdots : (mark? "...").run c with e | ⟨dots, c'⟩
    · simp [functionParameter, hdots]
    · rcases hself : (attempt (receiver g)).run c' with e | ⟨_ | span, c''⟩
      · simp [functionParameter, hdots, hself]
      · simp [functionParameter, hdots, hself]
      · simp [functionParameter, hdots, hself]

instance (fuel : Nat) (first received : Bool) : Unplaced (functionParametersFor g fuel first received) where
  run_bare c := by
    induction fuel generalizing c first received with
    | zero => simp [functionParametersFor]
    | succ fuel ih =>
      rcases hend : atEnd.run c with e | ⟨ended, c'⟩
      · simp [functionParametersFor, hend]
      · rcases htags : (skipTags g).run c' with e | ⟨⟨⟩, c''⟩
        · simp [functionParametersFor, hend, htags]
        · rcases hparameter : (functionParameter g first received).run c'' with e | ⟨_ | received', after⟩
          · simp [functionParametersFor, hend, htags, hparameter]
          · simp [functionParametersFor, hend, htags, hparameter]
          · simp [functionParametersFor, hend, htags, hparameter, ih]

instance (safe : Bool) : Unplaced (signature g safe) where
  run_bare c := by
    have : Unplaced (do functionParametersFor g ((← tokens).length + 1) true false) := ⟨fun c => by simp⟩
    simp [signature]

@[simp] theorem nextIsConstantName_bare (ts : List Tree) : nextIsConstantName (bare ts) = nextIsConstantName ts := by
  simp [nextIsConstantName]

instance : Unplaced (constantItem g) where
  run_bare c := by simp [constantItem]

instance (early late : Bool) : Unplaced (namedType g early late) where
  run_bare c := by simp [namedType]

end Functions

/-! ### What stands inside items -/

section Items

variable (g : Rules) [UnplacedRules g]

instance : BlindWishes macroWishes := by
  unfold macroWishes
  infer_instance

@[simp] theorem nextIsMacro_bare (ts : List Tree) : nextIsMacro (bare ts) = nextIsMacro ts := by
  rw [Bool.eq_iff_iff]
  simp [nextIsMacro]

instance (named : Bool) : Unplaced (macroItem named) where
  run_bare c := by simp [macroItem]

instance : Unplaced (foreignItem g) where
  run_bare c := by simp [foreignItem]

instance : Unplaced (traitItem.method g) where
  run_bare c := by simp [traitItem.method]

instance : Unplaced (traitItem g) where
  run_bare c := by simp [traitItem]

instance : Unplaced (implementedItem g) where
  run_bare c := by simp [implementedItem]

instance (item : Reader Unit) [Unplaced item] : Unplaced (itemsIn g item) := by
  unfold itemsIn
  infer_instance

instance : Unplaced (taggedItem g) where
  run_bare c := by simp [taggedItem]

instance : Unplaced (moduleItem g) where
  run_bare c := by simp [moduleItem]

instance : Unplaced (foreignItems g) where
  run_bare c := by simp [foreignItems]

/-! ### Imports, traits and implementations -/

theorem imports_unplaced (fuel : Nat) :
    (∀ root, Unplaced (importsFor fuel root)) ∧ ∀ root, Unplaced (importListFor fuel root) := by
  induction fuel with
  | zero => exact ⟨fun root => ⟨fun c => by simp [importsFor]⟩, fun root => ⟨fun c => by simp [importListFor]⟩⟩
  | succ fuel ih =>
    obtain ⟨hname, hlist⟩ := ih
    exact ⟨fun root => ⟨fun c => by simp [importsFor]⟩, fun root => ⟨fun c => by simp [importListFor]⟩⟩

instance (fuel : Nat) (root : Bool) : Unplaced (importsFor fuel root) := (imports_unplaced fuel).1 root

instance : Unplaced importItem where
  run_bare c := by simp [importItem]

instance : Unplaced (traitItemBody g) where
  run_bare c := by simp [traitItemBody]

instance : Unplaced (traitDeclaration g) where
  run_bare c := by simp [traitDeclaration]

instance : Unplaced (implementation g) where
  run_bare c := by simp [implementation]

instance : Unplaced macroDeclaration where
  run_bare c := by simp [macroDeclaration]

instance : Unplaced packageItem where
  run_bare c := by simp [packageItem]

instance : Unplaced (staticItem g) where
  run_bare c := by simp [staticItem]

/-! ### Any item -/

instance (visible : Bool) : BlindWishes (itemWishes visible) := by
  unfold itemWishes
  infer_instance

instance : Unplaced failPackage := by
  unfold failPackage
  infer_instance

instance : Unplaced (item.declared g) := by
  unfold item.declared
  infer_instance

@[simp] theorem hiddenForeignItems_bare (visible : Bool) (start : Span) (c : Cursor) :
    (hiddenForeignItems g visible (bare start)).run (bare c) =
      bareResult ((hiddenForeignItems g visible start).run c) := by
  simp [hiddenForeignItems, -String.reduceToList]

@[simp] theorem externItem_bare (visible : Bool) (start : Span) (second : List Tree) (c : Cursor) :
    (externItem g visible (bare start) (bare second)).run (bare c) =
      bareResult ((externItem g visible start second).run c) := by
  have hcrate := nextIsWord_bare second "crate"
  have hbrace := nextIsGroup_bare second .brace
  cases second with
  | nil => simp [externItem]
  | cons t third => cases t <;> simp_all [externItem]

theorem item_unplaced (before c : Cursor) :
    (item g (bare before)).run (bare c) = bareResult ((item g before).run c) := by
  simp [item, -String.reduceToList]

end Items

/-! ### All levels -/

namespace Rules

theorem bottom_unplaced : UnplacedRules bottom where
  type _ := inferInstanceAs (Unplaced (fail _))
  arguments := inferInstanceAs (Unplaced (fail _))
  binder := inferInstanceAs (Unplaced (fail _))
  pattern := inferInstanceAs (Unplaced (fail _))
  unary _ := inferInstanceAs (Unplaced (fail _))
  operation _ _ _ := run_bare (fail _)
  bounded := inferInstanceAs (Unplaced (fail _))
  statements := inferInstanceAs (Unplaced (fail _))
  fields := inferInstanceAs (Unplaced (fail _))
  item _ := run_bare (fail _)

theorem above_unplaced (g : Rules) [UnplacedRules g] : UnplacedRules g.above where
  type plus := inferInstanceAs (Unplaced (Grammar.type g plus))
  arguments := inferInstanceAs (Unplaced (Grammar.arguments g))
  binder := inferInstanceAs (Unplaced (Grammar.binder g))
  pattern := inferInstanceAs (Unplaced (Grammar.pattern g))
  unary structures := inferInstanceAs (Unplaced (Grammar.unary g structures))
  operation := operation_unplaced g
  bounded := inferInstanceAs (Unplaced (Grammar.bounded g))
  statements := inferInstanceAs (Unplaced (Grammar.statements g))
  fields := inferInstanceAs (Unplaced (Grammar.fields g))
  item := item_unplaced g

/-- **The grammar does the same without positions, as deep as it may go.** -/
instance level_unplaced (n : Nat) : UnplacedRules (level n) := by
  induction n with
  | zero => exact bottom_unplaced
  | succ n ih => exact above_unplaced (level n)

@[simp] theorem enough_bare (ts : List Tree) : enough (bare ts) = enough ts := by
  rw [enough, sizes_bare, enough]

instance (ts : List Tree) : UnplacedRules (enough ts) := by
  unfold enough
  infer_instance

/-- A reading with rules that go deep enough. The rules are held apart from what reads by them, so that
no level of them is unfolded. -/
theorem enough_unplaced {α : Type} [Placed α] {r : Rules → Reader α}
    (h : ∀ g [UnplacedRules g], Unplaced (r g)) : Unplaced (tokens >>= fun ts => r (enough ts)) where
  run_bare c := by
    have hr := h (enough c.tokens)
    simp

end Rules

end Grammar

/-! ### Attributes -/

instance : Placed (Fixed .i32) := ⟨id⟩
instance : Placed Attribute := ⟨id⟩
instance : Placed Draft := ⟨id⟩
instance : Rigid (Fixed .i32) := ⟨fun _ => rfl⟩
instance : Rigid Attribute := ⟨fun _ => rfl⟩
instance : Rigid Draft := ⟨fun _ => rfl⟩

instance : Unplaced Path.read :=
  Grammar.Rules.enough_unplaced (r := fun g => Grammar.path g false) fun _ _ => inferInstance

@[simp] theorem integerLiteral?_bare (ts : List Tree) : integerLiteral? (bare ts) = bare (integerLiteral? ts) := by
  have hplace : ∀ (value : Nat → Int) (span : Span) (rest : List Tree) (n : Option Nat),
      n.map (fun n => (value n, bare span, bare rest)) = bare (n.map fun n => (value n, span, rest)) :=
    fun value span rest n => by cases n <;> simp
  rcases ts with _ | ⟨t, _ | ⟨t', ts⟩⟩
  · rfl
  · cases t with
    | literal text span => exact hplace _ span [] _
    | _ => simp [integerLiteral?]
  · cases t with
    | punct d joint sign =>
      by_cases hminus : d = '-'
      · subst hminus
        cases t' with
        | literal text span => exact hplace _ (sign.join span) ts _
        | _ => simp [integerLiteral?]
      · simp [integerLiteral?, hminus]
    | literal text span => exact hplace _ span (t' :: ts) _
    | _ => simp [integerLiteral?]

instance : Unplaced integer where
  run_bare c := by
    have hliteral := integerLiteral?_bare c.tokens
    show (match integerLiteral? (bare c.tokens) with
      | some (value, span, rest) => Except.ok ((value, span), { bare c with tokens := rest })
      | none => .error (Report.mk (bare c).here false .integerExponent)) =
      bareResult (match integerLiteral? c.tokens with
        | some (value, span, rest) => Except.ok ((value, span), { c with tokens := rest })
        | none => .error (Report.mk c.here false .integerExponent))
    rw [hliteral]
    rcases integerLiteral? c.tokens with _ | ⟨value, span, rest⟩
    · simp
    · rfl

@[simp] theorem limited_bare (negative : Bool) (value : Int) (span : Span) (c : Cursor) :
    (limited negative value (bare span)).run (bare c) = bareResult ((limited negative value span).run c) := by
  cases h : Fixed.ofInt? .i32 value <;> simp [limited, h]

instance : Unplaced exponent where
  run_bare c := by simp [exponent]

namespace Draft

instance (draft : Draft) (key : Key) : Unplaced (draft.readValue key) := by
  cases key <;>
    unfold readValue <;>
    infer_instance

instance (draft : Draft) (key : Key) : Unplaced (draft.readValueAndComma key) := by
  unfold readValueAndComma
  infer_instance

instance (draft : Draft) : Unplaced draft.readEntry where
  run_bare c := by
    rcases hname : (liftM name : Reading Failure (Ident × Span)).run c with e | ⟨⟨i, span⟩, c'⟩
    · simp [readEntry, hname]
    · cases hkey : Key.ofIdent? i <;> simp [readEntry, hname, hkey]

instance (fuel : Nat) (draft : Draft) : Unplaced (readEntries fuel draft) where
  run_bare c := by
    induction fuel generalizing draft c with
    | zero => simp [readEntries]
    | succ fuel ih => simp [readEntries, ih]

end Draft

instance : Unplaced Attribute.read where
  run_bare c := by simp [Attribute.read]

/-- **What a dimension attribute says does not depend on where it stands.** -/
theorem Attribute.ofTrees_bare (ts : List Tree) (close : Span) :
    Attribute.ofTrees (bare ts) (bare close) = bareResult (Attribute.ofTrees ts close) :=
  readAll_bare Attribute.read ts close

end Dimensional.Derive
