import Dimensional.Program.Bare
import Dimensional.Proofs.Program.Types

/-!
# Leaving the dimensions out

A step on quantities that the types allow does what the bare step does on their scalars: the answers agree,
and so do the registers after it, when the dimensions are left out.  So the dimensions of a program have no
part in its values, as the values have none in its types.

* `step_bare` — one step, one case for each family of operations;
* `run_bare` — a run in which all types agree;
* `values_and_types_apart` — two runs that differ in the values alone, and two that differ in the
  dimensions alone.
-/

namespace Dimensional

theorem Binary.mul_comm {p : Precision} (a b : Binary p) : a.mul b = b.mul a := by
  have hsign : (a.negative != b.negative) = (b.negative != a.negative) := by
    cases a.negative <;> cases b.negative <;> rfl
  unfold Binary.mul
  rw [hsign, Bool.or_comm a.isNaN, Bool.or_comm a.isInfinite, Bool.or_comm a.isZero, Nat.mul_comm a.units]

theorem Scalar.mul_comm : {k : ScalarKind} → (a b : Scalar k) → Scalar.mul a b = Scalar.mul b a
  | .int _, a, b => congrArg (Fixed.checked .mulOverflow) (Int.mul_comm (Fixed.toInt a) (Fixed.toInt b))
  | .float _, a, b => congrArg Except.ok (Binary.mul_comm a b)

namespace Program

/-! ### Operands and results -/

section Steps

variable {r : Registers} {d : Dimension} {k : ScalarKind}

/-- A step that the types do not allow need not be followed. -/
def IllTyped (e : Refusal) : Prop := e = .illTyped

theorem illTyped : IllTyped .illTyped := rfl

/-- The outcome of a bare step is that of the step, without the dimensions. -/
def BareOutcome (p : Answer × Registers) (p' : Answer × Scalars) : Prop := p.1.bare = p'.1 ∧ p.2.bare = p'.2

/-- The bare step goes as the step does that the types allow. -/
def Erases (r : Registers) (s : Step) (b : BareStep) : Prop :=
  Follows IllTyped BareOutcome (r.step s) (r.bare.step b)

theorem fetch_bare (r : Registers) (name : String) :
    Follows IllTyped (fun h s => h.scalar = s) (r.fetch name) (r.bare.fetch name) := by
  unfold Registers.fetch Scalars.fetch Registers.bare
  cases r name with
  | none => exact .refused _
  | some h => exact .ok rfl

theorem as_bare (h : Held) (d : Dimension) (k : ScalarKind) :
    Follows IllTyped (fun q v => Quantity.value q = v) (h.as d k) (h.scalar.as k) := by
  by_cases hsame : h.kind = k ∧ h.dimension = d
  · obtain ⟨rfl, rfl⟩ := hsame
    rw [show h.as h.dimension h.kind = .ok h.quantity from Held.as_self h.quantity]
    rw [show h.scalar.as h.kind = .ok h.quantity.value from AnyScalar.as_self h.quantity.value]
    exact .ok rfl
  · rw [show h.as d k = .error .illTyped from Held.as_other hsame]
    exact .excused illTyped _

theorem ofKind_bare (h : Held) (k : ScalarKind) :
    Follows IllTyped (fun q v => Quantity.value q = v) (h.ofKind k) (h.scalar.as k) := by
  by_cases hsame : h.kind = k
  · obtain rfl := hsame
    rw [show h.ofKind h.kind = .ok h.quantity from Held.ofKind_self h.quantity]
    rw [show h.scalar.as h.kind = .ok h.quantity.value from AnyScalar.as_self h.quantity.value]
    exact .ok rfl
  · rw [show h.ofKind k = .error .illTyped from Held.ofKind_other hsame]
    exact .excused illTyped _

/-- Either the bare scalar is of the kind, or the step is ill-typed. -/
theorem scalarAs_left {α β : Type} {rel : α → β → Prop} (s : AnyScalar) (k : ScalarKind)
    {f : Scalar k → Except Refusal α} {y : Except Refusal β}
    (h : ∀ t, s = ⟨k, t⟩ → Follows IllTyped rel (f t) y) : Follows IllTyped rel (s.as k >>= f) y := by
  obtain ⟨l, t⟩ := s
  by_cases hsame : l = k
  · subst hsame
    rw [AnyScalar.as_self]
    exact h t rfl
  · rw [AnyScalar.as_other hsame]
    exact .excused illTyped _

theorem gather_bare (r : Registers) (d : Dimension) (k : ScalarKind) (items : List String) :
    Follows IllTyped (fun qs vs => qs.map Quantity.value = vs) (r.gather d k items) (r.bare.gather k items) := by
  refine Follows.mapM_map fun name _ => ?_
  refine (fetch_bare r name).bind ?_
  rintro h _ rfl
  exact as_bare h d k

theorem give_bare (r : Registers) (target : Option String) (h : Held) :
    Follows IllTyped BareOutcome (.ok (r.give target h)) (.ok (r.bare.give target h.scalar)) :=
  .ok ⟨rfl, r.bare_keep target h⟩

/-- What the arithmetic on scalars comes to is kept with a dimension, and without one. -/
theorem compute_bare {α : Type} (r : Registers) (target : Option String) (x : Except Fault (Scalar k))
    (wrap : Scalar k → α) (hold : α → Held) (hhold : ∀ v, (hold (wrap v)).scalar = ⟨k, v⟩) :
    Follows IllTyped BareOutcome (orFault (wrap <$> x) >>= fun a => .ok (r.give target (hold a)))
      (orFault x >>= fun v => .ok (r.bare.give target ⟨k, v⟩)) := by
  cases x with
  | error fault => exact .refused _
  | ok v =>
    show Follows _ _ (.ok (r.give target (hold (wrap v)))) (.ok (r.bare.give target ⟨k, v⟩))
    rw [← hhold v]
    exact give_bare r target (hold (wrap v))

/-! ### Steps -/

theorem bare_sum (r : Registers) (d : Dimension) (k : ScalarKind) (items : List String) (passing : Passing)
    (target : Option String) : Erases r (.sum d k items passing target) (.sum k items target) := by
  rw [Erases, Registers.step_sum]
  refine (gather_bare r d k items).bind ?_
  rintro qs _ rfl
  show Follows _ _ (orFault (Quantity.sum qs) >>= _) _
  rw [Quantity.sum_eq]
  exact compute_bare r target _ Quantity.mk Held.of fun _ => rfl

theorem bare_sort (r : Registers) (d : Dimension) (k : ScalarKind) (items : List String) :
    Erases r (.sort d k items) (.sort k items) := by
  refine (gather_bare r d k items).bind ?_
  rintro qs _ rfl
  refine (Follows.require illTyped id).bind ?_
  intro _ _ _
  rw [Quantity.map_value_sort]
  exact .ok ⟨rfl, rfl⟩

/-- A quantity that is only kept, with this dimension or another one, is a scalar that is moved. -/
theorem bare_copy (r : Registers) (a : String) (target : Option String) :
    Erases r (.copy a target) (.move (.register a) target) := by
  refine (fetch_bare r a).bind ?_
  rintro h _ rfl
  exact give_bare r target h

theorem bare_convert (r : Registers) (a : String) (d : Dimension) (target : Option String) :
    Erases r (.convert a d target) (.move (.register a) target) := by
  refine (fetch_bare r a).bind ?_
  rintro h _ rfl
  refine Follows.require_left illTyped ?_
  intro same
  exact give_bare r target (.of (h.quantity.convert same))

theorem bare_value (r : Registers) (a : String) : Erases r (.value a) (.move (.register a) none) := by
  refine (fetch_bare r a).bind ?_
  rintro h _ rfl
  exact .ok ⟨rfl, rfl⟩

theorem bare_set (r : Registers) (a : String) (s : AnyScalar) : Erases r (.set a s) (.set a s) := by
  refine (fetch_bare r a).bind ?_
  rintro h _ rfl
  refine scalarAs_left s h.kind ?_
  rintro t rfl
  rw [show (AnyScalar.mk h.kind t).as h.scalar.kind = .ok t from AnyScalar.as_self t]
  exact give_bare r (some a) ⟨h.kind, h.dimension, ⟨t⟩⟩

theorem bare_joint (r : Registers) (op : Joint) (a b : String) (target : Option String) :
    Erases r (.joint op a b target) (.arithmetic op.bare (.register a) (.register b) target) := by
  refine (fetch_bare r a).bind ?_
  rintro h _ rfl
  refine (fetch_bare r b).bind ?_
  rintro h' _ rfl
  refine (as_bare h' h.dimension h.kind).bind ?_
  rintro q _ rfl
  rw [Joint.apply_eq]
  exact compute_bare r target _ Quantity.mk Held.of fun _ => rfl

theorem bare_mixed (r : Registers) (op : Mixed) (a b : String) (target : Option String) :
    Erases r (.mixed op a b target) (.arithmetic op.bare (.register a) (.register b) target) := by
  refine (fetch_bare r a).bind ?_
  rintro h _ rfl
  refine (fetch_bare r b).bind ?_
  rintro h' _ rfl
  refine (ofKind_bare h' h.kind).bind ?_
  rintro q _ rfl
  rw [Mixed.apply_eq]
  exact compute_bare r target _ _ id fun _ => rfl

theorem bare_compare (r : Registers) (a b : String) : Erases r (.compare a b) (.compare a b) := by
  refine (fetch_bare r a).bind ?_
  rintro h _ rfl
  refine (fetch_bare r b).bind ?_
  rintro h' _ rfl
  refine (as_bare h' h.dimension h.kind).bind ?_
  rintro q _ rfl
  exact .ok ⟨rfl, rfl⟩

/-- An operation on a quantity and a bare scalar on its right. -/
theorem bare_right (r : Registers) (op : Arithmetic) (a : String) (s : AnyScalar) (target : Option String)
    {f : (h : Held) → Scalar h.kind → Except Fault (Quantity h.dimension h.kind)}
    (hf : ∀ h t, f h t = Quantity.mk <$> op.apply h.quantity.value t) :
    Follows IllTyped BareOutcome
      (r.fetch a >>= fun h => s.as h.kind >>= fun t => orFault (f h t) >>= fun q => .ok (r.give target (.of q)))
      (r.bare.step (.arithmetic op (.register a) (.literal s) target)) := by
  refine (fetch_bare r a).bind ?_
  rintro h _ rfl
  refine scalarAs_left s h.kind ?_
  rintro t rfl
  show Follows _ _ _ ((AnyScalar.mk h.kind t).as h.kind >>= _)
  rw [AnyScalar.as_self, hf]
  exact compute_bare r target _ Quantity.mk Held.of fun _ => rfl

/-- An operation on a quantity and a bare scalar on its left. -/
theorem bare_left (r : Registers) (op : Arithmetic) (s : AnyScalar) (a : String) (target : Option String)
    {e : Dimension → Dimension}
    {f : (h : Held) → Scalar h.kind → Except Fault (Quantity (e h.dimension) h.kind)}
    (hf : ∀ h t, f h t = Quantity.mk <$> op.apply t h.quantity.value) :
    Follows IllTyped BareOutcome
      (r.fetch a >>= fun h => s.as h.kind >>= fun t => orFault (f h t) >>= fun q => .ok (r.give target (.of q)))
      (r.bare.step (.arithmetic op (.literal s) (.register a) target)) := by
  refine (fetch_bare r a).bind ?_
  rintro h _ rfl
  refine scalarAs_left s h.kind ?_
  rintro t rfl
  show Follows _ _ _ ((AnyScalar.mk h.kind h.quantity.value).as h.kind >>= _)
  rw [AnyScalar.as_self, hf]
  exact compute_bare r target _ Quantity.mk Held.of fun _ => rfl

/-- The bare scalar stands on the side where it is written. -/
theorem bare_scaling (r : Registers) (op : Scaling) (a : String) (s : AnyScalar) (target : Option String)
    {b : BareStep} (hb : (Step.scaling op a s target).bare = some b) :
    Erases r (.scaling op a s target) b := by
  cases op with
  | mul =>
    cases hb
    exact bare_right r .mul a s target fun _ _ => rfl
  | mulLeft =>
    cases hb
    -- the quantity is the left factor wherever the scalar is written
    refine bare_left r .mul s a target (e := id) fun h t => ?_
    show Quantity.mk <$> Scalar.mul h.quantity.value t = Quantity.mk <$> Scalar.mul t h.quantity.value
    rw [Scalar.mul_comm]
  | div =>
    cases hb
    exact bare_right r .div a s target fun _ _ => rfl

theorem bare_under (r : Registers) (s : AnyScalar) (a : String) (target : Option String) :
    Erases r (.under s a target) (.arithmetic .div (.literal s) (.register a) target) :=
  bare_left r .div s a target (e := Dimension.one.quotient) fun _ _ => rfl

theorem bare_neg (r : Registers) (a : String) (target : Option String) :
    Erases r (.neg a target) (.neg a target) := by
  refine (fetch_bare r a).bind ?_
  rintro h _ rfl
  refine (Follows.require illTyped id).bind ?_
  intro _ _ _
  exact compute_bare r target (Scalar.neg h.quantity.value) Quantity.mk Held.of fun _ => rfl

theorem bare_abs (r : Registers) (a : String) (target : Option String) :
    Erases r (.abs a target) (.abs a target) := by
  refine (fetch_bare r a).bind ?_
  rintro ⟨k, d, q⟩ _ rfl
  cases k with
  | int k => exact .refused _
  | float p => exact give_bare r target (.of q.abs)

theorem bare_sqrt (r : Registers) (a : String) (target : Option String) :
    Erases r (.sqrt a target) (.sqrt a target) := by
  refine (fetch_bare r a).bind ?_
  rintro ⟨k, d, q⟩ _ rfl
  cases k with
  | int k => exact .refused _
  | float p =>
    refine Follows.require_left illTyped ?_
    intro root
    exact give_bare r target (.of (q.sqrt root))

theorem bare_squared (r : Registers) (a : String) (target : Option String) :
    Erases r (.squared a target) (.arithmetic .mul (.register a) (.register a) target) := by
  -- the bare step loads the register twice, once for each operand
  show Follows _ _ (r.fetch a >>= _) (r.bare.fetch a >>= fun s => r.bare.fetch a >>= fun t => t.as s.kind >>= _)
  unfold Registers.fetch Scalars.fetch Registers.bare
  cases r a with
  | none => exact .refused _
  | some h =>
    show Follows _ _ _ ((AnyScalar.mk h.kind h.quantity.value).as h.kind >>= _)
    rw [AnyScalar.as_self]
    exact compute_bare r target (Scalar.mul h.quantity.value h.quantity.value) Quantity.mk Held.of fun _ => rfl

theorem bare_cast (r : Registers) (a : String) (k : ScalarKind) (target : Option String) :
    Erases r (.cast a k target) (.cast a k target) := by
  refine (fetch_bare r a).bind ?_
  rintro h _ rfl
  refine (Follows.require illTyped id).bind ?_
  rintro ⟨wider⟩ _ _
  exact give_bare r target (.of (h.quantity.cast wider))

theorem bare_hash (r : Registers) (a : String) : Erases r (.hash a) (.hash a) := by
  refine (fetch_bare r a).bind ?_
  rintro ⟨k, d, q⟩ _ rfl
  cases k with
  | int k => exact .ok ⟨rfl, rfl⟩
  | float p => exact .refused _

/-- **One step without its dimensions.**  A step that the types allow does what its bare form does. -/
theorem step_bare (r : Registers) {s : Step} {b : BareStep} (hb : s.bare = some b) : Erases r s b := by
  cases s with
  | make d s target =>
    cases hb
    exact give_bare r target ⟨s.kind, d, ⟨s.value⟩⟩
  | zero d k target =>
    cases hb
    exact give_bare r target (.of (Quantity.zero : Quantity d k))
  | sum d k items passing target =>
    cases hb
    exact bare_sum r d k items passing target
  | sort d k items =>
    cases hb
    exact bare_sort r d k items
  | value a =>
    cases hb
    exact bare_value r a
  | copy a target =>
    cases hb
    exact bare_copy r a target
  | set a s =>
    cases hb
    exact bare_set r a s
  | joint op a b target =>
    cases hb
    exact bare_joint r op a b target
  | jointUpdate op a b =>
    cases hb
    rw [Erases, Registers.step_jointUpdate]
    exact bare_joint r op.byValue a b (some a)
  | mixed op a b target =>
    cases hb
    exact bare_mixed r op a b target
  | compare a b =>
    cases hb
    exact bare_compare r a b
  | scaling op a s target => exact bare_scaling r op a s target hb
  | scalingUpdate op a s =>
    rw [Erases, Registers.step_scalingUpdate]
    refine bare_scaling r op.byValue a s (some a) ?_
    cases op <;> exact hb
  | under s a target =>
    cases hb
    exact bare_under r s a target
  | neg a target =>
    cases hb
    exact bare_neg r a target
  | abs a target =>
    cases hb
    exact bare_abs r a target
  | sqrt a target =>
    cases hb
    exact bare_sqrt r a target
  | squared a target =>
    cases hb
    exact bare_squared r a target
  | convert a d target =>
    cases hb
    exact bare_convert r a d target
  | cast a k target =>
    cases hb
    exact bare_cast r a k target
  | hash a =>
    cases hb
    exact bare_hash r a
  | read | readTagged | format | write | writeTagged => cases hb

/-- What a step that the types allow answers, and what it leaves in the registers. -/
theorem perform_bare {s : Step} {b : BareStep} (hb : s.bare = some b) (htyped : r.WellTyped s) :
    (r.perform s).1.map Answer.bare = (r.bare.perform b).1 ∧ (r.perform s).2.bare = (r.bare.perform b).2 := by
  have herases := step_bare r hb
  unfold Registers.WellTyped Registers.perform at htyped
  unfold Erases at herases
  unfold Registers.perform Scalars.perform
  generalize r.step s = x at herases htyped ⊢
  generalize r.bare.step b = y at herases ⊢
  cases herases with
  | ok related => exact ⟨congrArg Except.ok related.1, related.2⟩
  | refused e => exact ⟨rfl, rfl⟩
  | excused he y =>
    cases he
    exact absurd rfl htyped

/-- **A run without its dimensions** does the same in every step, if the types allow all of them. -/
theorem run_bare {steps : List Step} {program : List BareStep} (hprogram : bareProgram steps = some program)
    (htyped : r.Along Registers.WellTyped steps) :
    (r.run steps).1.map (Except.map Answer.bare) = (r.bare.run program).1 ∧
      (r.run steps).2.bare = (r.bare.run program).2 := by
  induction steps generalizing r program with
  | nil =>
    cases hprogram
    exact ⟨rfl, rfl⟩
  | cons s steps ih =>
    obtain ⟨b, rest, hb, hrest, rfl⟩ := bareProgram_cons_eq_some.1 hprogram
    obtain ⟨hanswer, hregisters⟩ := perform_bare hb htyped.1
    obtain ⟨hanswers, hend⟩ := ih hrest htyped.2
    rw [hregisters] at hanswers hend
    constructor
    · exact congrArg₂ List.cons hanswer hanswers
    · exact hend

end Steps

/-! ### Two runs -/

/-- **Values and dimensions go their own ways.**  From registers that hold quantities of the same types, two
programs that are one but for their bare scalars go the same way, as long as no fault stops them: every step
is refused in both or in neither, and the results are of the same types.  From registers that hold the same
scalars, two programs that are one but for their dimensions answer the same, as long as the types allow all
steps: every answer is that of the bare program, whether a scalar, a comparison or a fault. -/
theorem values_and_types_apart :
    (∀ (r r' : Registers) (steps steps' : List Step), RegistersRel SameType r r' →
      List.Forall₂ SameButScalar steps steps' → r.Along Registers.Unstopped steps →
      r'.Along Registers.Unstopped steps' →
        (∀ n : Nat, RegistersRel SameType (r.run (steps.take n)).2 (r'.run (steps'.take n)).2) ∧
        ∀ (n : Nat) (s : Step), steps[n]? = some s → ∃ x x', (r.run steps).1[n]? = some x ∧
          (r'.run steps').1[n]? = some x' ∧ Matched SameAnswerType x x') ∧
    (∀ (r r' : Registers) (steps steps' : List Step) (program : List BareStep), r.bare = r'.bare →
      bareProgram steps = some program → bareProgram steps' = some program →
      r.Along Registers.WellTyped steps → r'.Along Registers.WellTyped steps' →
        (r.run steps).1.map (Except.map Answer.bare) = (r'.run steps').1.map (Except.map Answer.bare) ∧
        (r.run steps).1.map (Except.map Answer.bare) = (r.bare.run program).1 ∧
        (r.run steps).2.bare = (r.bare.run program).2 ∧ (r'.run steps').2.bare = (r.bare.run program).2) := by
  constructor
  · intro r r' steps steps' hr hsteps hrun hrun'
    have hlock := run_sameType hr hsteps hrun hrun'
    exact ⟨hlock.take, fun n s hs => hlock.answers hs⟩
  · intro r r' steps steps' program hbare hprogram hprogram' htyped htyped'
    obtain ⟨hanswers, hend⟩ := run_bare hprogram htyped
    obtain ⟨hanswers', hend'⟩ := run_bare hprogram' htyped'
    rw [← hbare] at hanswers' hend'
    exact ⟨hanswers.trans hanswers'.symm, hanswers, hend, hend'⟩

/-- Two integers, of these dimensions. -/
def pairOf (d e : Dimension) (x y : Fixed ⟨true, .w32⟩) : Registers :=
  (Registers.empty.store "x" (.of (⟨x⟩ : Quantity d (.int ⟨true, .w32⟩)))).store "y"
    (.of (⟨y⟩ : Quantity e (.int ⟨true, .w32⟩)))

theorem pairOf_bare (d e : Dimension) (x y : Fixed ⟨true, .w32⟩) :
    (pairOf d e x y).bare =
      (Registers.empty.bare.keep (some "x") ⟨.int ⟨true, .w32⟩, x⟩).keep (some "y") ⟨.int ⟨true, .w32⟩, y⟩ := by
  rw [pairOf, Registers.bare_store, Registers.bare_store]
  rfl

/-- A multiple of the quotient of the two. -/
def multipleOfQuotient (factor : Fixed ⟨true, .w32⟩) : List Step :=
  [.mixed .div "x" "y" (some "quotient"),
    .scaling .mulLeft "quotient" ⟨.int ⟨true, .w32⟩, factor⟩ (some "multiple")]

theorem values_and_types_apart_quotient :
    let r := pairOf Catalogue.length Catalogue.time ⟨12, by decide, by decide⟩ ⟨4, by decide, by decide⟩
    let s := pairOf Catalogue.length Catalogue.time ⟨-7, by decide, by decide⟩ ⟨2, by decide, by decide⟩
    let t := pairOf Catalogue.mass Catalogue.area ⟨12, by decide, by decide⟩ ⟨4, by decide, by decide⟩
    let triple := multipleOfQuotient ⟨3, by decide, by decide⟩
    let tenfold := multipleOfQuotient ⟨10, by decide, by decide⟩
    RegistersRel SameType (r.run triple).2 (s.run tenfold).2 ∧
      (r.run triple).1.map (Except.map Answer.bare) = (t.run triple).1.map (Except.map Answer.bare) := by
  intro r s t triple tenfold
  have hsame : RegistersRel SameType r s :=
    RegistersRel.store (RegistersRel.store (fun _ => .none) "x" (.of _ _)) "y" (.of _ _)
  have hsteps : List.Forall₂ SameButScalar triple tenfold :=
    .cons (.refl _) (.cons (.scaling .mulLeft "quotient" _ _ _) .nil)
  have hbare : r.bare = t.bare := (pairOf_bare _ _ _ _).trans (pairOf_bare _ _ _ _).symm
  obtain ⟨htypes, hvalues⟩ := values_and_types_apart
  obtain ⟨hregisters, -⟩ := htypes r s triple tenfold hsame hsteps (by decide +kernel) (by decide +kernel)
  obtain ⟨hanswers, -⟩ := hvalues r t triple triple _ hbare rfl rfl (by decide +kernel) (by decide +kernel)
  exact ⟨hregisters 2, hanswers⟩

end Program

end Dimensional
