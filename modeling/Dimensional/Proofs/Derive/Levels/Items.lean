import Dimensional.Derive.Attribute
import Dimensional.Derive.Item
import Dimensional.Proofs.Derive.Levels.Expressions

/-!
# Levels of the grammar: items

Items close the circle: the rules of two levels agree on what is left of the levels if those below them do, and on
nothing at all where one of them is the lowest.  So the rules that go down four levels for every token, and four to
begin with, read whatever deeper ones read.

* `Rules.agreeing_level` — two levels agree on what is little enough for the lower one;
* `Rules.run_enough` — rules that go deep enough read what all deeper ones read;
* `Item.read_level`, `Path.read_level` — so further levels change no reading of an item or of a path.
-/

namespace Dimensional.Derive

open Source

namespace Grammar

-- what follows a choice is looked at once for each of its branches
set_option synthInstance.maxSize 1000000

variable {n k : Nat} {g g' : Rules} [rules : AgreeingRules n g g']

/-! ### Functions -/

instance : Alike n k (receiver g) (receiver g') := by
  unfold receiver
  infer_instance

instance (first received : Bool) :
    Alike n (k + 2) (functionParameter g first received) (functionParameter g' first received) := by
  unfold functionParameter
  refine .after (.refl _) fun endless => ?_
  split
  · infer_instance
  · refine .after inferInstance fun received => ?_
    cases received <;> infer_instance

instance (fuel : Nat) (first received : Bool) :
    Alike n (k + 2) (functionParametersFor g fuel first received) (functionParametersFor g' fuel first received) := by
  induction fuel generalizing k first received with
  | zero => exact .refl _
  | succ fuel ih =>
    unfold functionParametersFor
    refine .after (.refl _) fun isEnd => ?_
    split
    · infer_instance
    · refine .after inferInstance fun _ => .after inferInstance fun received => ?_
      cases received <;> infer_instance

instance (safe : Bool) : Alike n k (signature g safe) (signature g' safe) := by
  unfold signature
  infer_instance

/-! ### Constants and types -/

instance : Alike n (k + 2) (constantItem g) (constantItem g') := by
  unfold constantItem
  infer_instance

instance (early late : Bool) : Alike n k (namedType g early late) (namedType g' early late) := by
  unfold namedType
  infer_instance

/-! ### What stands inside items -/

instance : Alike n k (foreignItem g) (foreignItem g') := by
  unfold foreignItem
  infer_instance

instance : Alike n k (traitItem.method g) (traitItem.method g') := by
  unfold traitItem.method
  infer_instance

instance : Alike n k (traitItem g) (traitItem g') := by
  unfold traitItem
  infer_instance

instance : Alike n k (implementedItem g) (implementedItem g') := by
  unfold implementedItem
  infer_instance

/-! ### Modules, imports, traits and implementations -/

instance {item item' : Reader Unit} [Alike n 4 item item'] : Alike n k (itemsIn g item) (itemsIn g' item') := by
  unfold itemsIn
  infer_instance

instance : Alike n (k + 1) (taggedItem g) (taggedItem g') := by
  unfold taggedItem
  infer_instance

instance : Alike n k (moduleItem g) (moduleItem g') := by
  unfold moduleItem
  infer_instance

instance : Alike n k (foreignItems g) (foreignItems g') := by
  unfold foreignItems
  infer_instance

instance : Alike n (k + 1) (traitItemBody g) (traitItemBody g') := by
  unfold traitItemBody
  infer_instance

instance : Alike n k (traitDeclaration g) (traitDeclaration g') := by
  unfold traitDeclaration
  infer_instance

instance : Alike n k (implementation g) (implementation g') := by
  unfold implementation
  infer_instance

instance : Alike n k (staticItem g) (staticItem g') := by
  unfold staticItem
  infer_instance

/-! ### Any item -/

instance : Takes (item.declared g) := by
  unfold item.declared
  infer_instance

instance : Alike n k (item.declared g) (item.declared g') := by
  unfold item.declared
  infer_instance

instance (visible : Bool) (start : Span) :
    Alike n k (hiddenForeignItems g visible start) (hiddenForeignItems g' visible start) := by
  unfold hiddenForeignItems
  infer_instance

instance (visible : Bool) (start : Span) (second : List Tree) :
    Alike n k (externItem g visible start second) (externItem g' visible start second) := by
  unfold externItem
  split <;> infer_instance

instance (before : Cursor) : Alike n k (item g before) (item g' before) := by
  unfold item
  infer_instance

instance : Alike n k (typeItem.head g) (typeItem.head g') := by
  unfold typeItem.head
  infer_instance

instance : Alike n k (typeItem g) (typeItem g') := by
  unfold typeItem
  infer_instance

/-! ### Levels -/

namespace Rules

theorem agreeing_bottom (g g' : Rules) : AgreeingRules 0 g g' where
  binder := .nowhere _ _
  arguments := .nowhere _ _
  pattern := .nowhere _ _
  operation _ _ _ := .nowhere _ _
  fields := .nowhere _ _
  item _ := .nowhere _ _
  type _ := .nowhere _ _
  unary _ := .nowhere _ _
  bounded := .nowhere _ _
  statements := .nowhere _ _

/-- **One level more** reads what has room for one level more. -/
theorem agreeing_above (g g' : Rules) [AgreeingRules n g g'] : AgreeingRules (n + 1) g.above g'.above where
  binder := .below (inferInstanceAs (Alike n 0 (Grammar.binder g) (Grammar.binder g')))
  arguments := .below (inferInstanceAs (Alike n 0 (Grammar.arguments g) (Grammar.arguments g')))
  pattern := .below (inferInstanceAs (Alike n 0 (Grammar.pattern g) (Grammar.pattern g')))
  operation structures form base :=
    .below (inferInstanceAs
      (Alike n 0 (Grammar.operation g structures form base) (Grammar.operation g' structures form base)))
  fields := .below (inferInstanceAs (Alike n 0 (Grammar.fields g) (Grammar.fields g')))
  item before := .below (inferInstanceAs (Alike n 0 (Grammar.item g before) (Grammar.item g' before)))
  type plus := .below (inferInstanceAs (Alike n 1 (Grammar.type g plus) (Grammar.type g' plus)))
  unary structures := .below (inferInstanceAs (Alike n 1 (Grammar.unary g structures) (Grammar.unary g' structures)))
  bounded := .below (inferInstanceAs (Alike n 2 (Grammar.bounded g) (Grammar.bounded g')))
  statements := .below (inferInstanceAs (Alike n 3 (Grammar.statements g) (Grammar.statements g')))

/-- **Two levels agree** on what has room for the lower one. -/
theorem agreeing_level {m : Nat} (h : n ≤ m) : AgreeingRules n (level n) (level m) := by
  induction n generalizing m with
  | zero => exact agreeing_bottom _ _
  | succ n ih =>
    obtain ⟨m, rfl⟩ : ∃ l, m = l + 1 := ⟨m - 1, by omega⟩
    have := ih (Nat.le_of_succ_le_succ h)
    exact agreeing_above (level n) (level m)

/-- **Rules that go deep enough** read what all deeper rules read. -/
theorem run_enough {α : Type} {r : Rules → Reader α}
    (alike : ∀ (n : Nat) (g g' : Rules) [AgreeingRules n g g'], Alike n 0 (r g) (r g')) (c : Cursor) {m : Nat}
    (deeper : 4 * Tree.sizes c.tokens + 16 ≤ m) :
    (tokens >>= fun ts => r (enough ts)).run c = (r (level m)).run c := by
  have : AgreeingRules (4 * Tree.sizes c.tokens + 16) (enough c.tokens) (level m) := agreeing_level deeper
  exact (alike (4 * Tree.sizes c.tokens + 16) (enough c.tokens) (level m)).run_eq c (Nat.le_add_right _ _)

end Rules

end Grammar

/-- **Further levels change no reading of an item.** -/
theorem Item.read_level (c : Cursor) {m : Nat} (deeper : 4 * Tree.sizes c.tokens + 16 ≤ m) :
    Item.read.run c = (Grammar.typeItem (Grammar.Rules.level m)).run c :=
  Grammar.Rules.run_enough (r := Grammar.typeItem) (fun _ _ _ _ => inferInstance) c deeper

/-- **Nor do they change a reading of a path.** -/
theorem Path.read_level (c : Cursor) {m : Nat} (deeper : 4 * Tree.sizes c.tokens + 16 ≤ m) :
    Path.read.run c = (Grammar.path (Grammar.Rules.level m) false).run c :=
  Grammar.Rules.run_enough (r := fun g => Grammar.path g false) (fun _ _ _ _ => inferInstance) c deeper

end Dimensional.Derive
