import Dimensional.Program.Bare
import Dimensional.Proofs.Program.Parallel

/-!
# Wider integers

A program on integers of one kind is run a second time on those of a kind that the first one widens to, from
registers and with bare scalars that are the casts of the first ones.  Arithmetic is exact where it succeeds,
and what is held by the narrow kind is held by the wide one; so where nothing stops the first run, the
second goes the same way, in casts.

* `Arithmetic.apply_widen` and its companions — the operations on scalars;
* `step_widened` — one step, one case for each family of operations;
* `run_widened` — a run, in which all comparisons come out the same.
-/

namespace Dimensional

/-! ### Scalars -/

section Scalars

variable {k l : IntKind} (hw : k.widens l = true)

theorem less_widen (a b : Fixed k) :
    Scalar.less (k := .int l) (a.widen hw) (b.widen hw) = Scalar.less (k := .int k) a b :=
  rfl

theorem compare_widen (a b : Fixed k) :
    Scalar.compare (k := .int l) (a.widen hw) (b.widen hw) = Scalar.compare (k := .int k) a b :=
  rfl

theorem min_widen (a b : Fixed k) :
    Scalar.min (k := .int l) (a.widen hw) (b.widen hw) = Fixed.widen hw (Scalar.min (k := .int k) a b) := by
  rw [Scalar.min, less_widen, Scalar.min]
  split <;> rfl

theorem max_widen (a b : Fixed k) :
    Scalar.max (k := .int l) (a.widen hw) (b.widen hw) = Fixed.widen hw (Scalar.max (k := .int k) a b) := by
  rw [Scalar.max, less_widen, Scalar.max]
  split <;> rfl

theorem sort_widen (as : List (Fixed k)) :
    Scalar.sort (k := .int l) (as.map (Fixed.widen hw)) = (Scalar.sort (k := .int k) as).map (Fixed.widen hw) := by
  refine (List.map_mergeSort ?_).symm
  intro a _ b _
  exact congrArg Bool.not (less_widen hw b a).symm

/-- A result that the narrow kind holds is the result in the wide one. -/
theorem checked_widen {fault : Fault} {n : Int} {a : Fixed k} (h : Fixed.checked fault n = .ok a) :
    Fixed.checked fault n = .ok (a.widen hw) :=
  Fixed.checked_eq_ok.2 (Fixed.checked_eq_ok.1 h : a.toInt = n)

/-- Adding up goes item by item, from a total and from its cast. -/
theorem foldlM_widen (as : List (Fixed k)) {total s : Fixed k}
    (h : as.foldlM (Scalar.add (k := .int k)) total = .ok s) :
    (as.map (Fixed.widen hw)).foldlM (Scalar.add (k := .int l)) (total.widen hw) = .ok (s.widen hw) := by
  induction as generalizing total with
  | nil =>
    cases h
    rfl
  | cons a as ih =>
    rw [List.foldlM_cons] at h
    obtain ⟨t, ht, hrest⟩ := bind_eq_ok.1 h
    rw [List.map_cons, List.foldlM_cons]
    exact bind_eq_ok.2 ⟨Fixed.widen hw t, checked_widen hw ht, ih hrest⟩

/-- The same integer under the same dimension, in a kind that the scalar's kind widens to. -/
abbrev Quantity.widen {d : Dimension} (q : Quantity d (.int k)) : Quantity d (.int l) :=
  Quantity.cast (k := .int k) (l := .int l) hw q

end Scalars

namespace Program

/-- Arithmetic that succeeds at the narrow kind comes to the same at the wide one. -/
theorem Arithmetic.apply_widen {k l : IntKind} (hw : k.widens l = true) (op : Arithmetic) {a b c : Fixed k}
    (h : op.apply (k := .int k) a b = .ok c) :
    op.apply (k := .int l) (a.widen hw) (b.widen hw) = .ok (c.widen hw) := by
  cases op with
  | add => exact checked_widen hw h
  | sub => exact checked_widen hw h
  | mul => exact checked_widen hw h
  | div =>
    have hquotient : b.toInt ≠ 0 ∧ c.toInt = a.toInt.tdiv b.toInt := Fixed.div_eq_ok.1 h
    exact Fixed.div_eq_ok.2 hquotient
  | min =>
    cases h
    exact congrArg Except.ok (min_widen hw a b)
  | max =>
    cases h
    exact congrArg Except.ok (max_widen hw a b)

/-! ### What the two runs have in common -/

section Relations

variable {k l : IntKind} (hw : k.widens l = true)

/-- Of what two registers hold, the second is the cast of the first. -/
inductive Widened : Held → Held → Prop where
  | of {d : Dimension} (q : Quantity d (.int k)) : Widened (Held.of q) (Held.of (q.widen hw))

/-- A step at the narrow kind, and the step at the wide one with its bare scalars cast. -/
inductive WidenedStep : Step → Step → Prop where
  | make (d : Dimension) (t : Fixed k) (target : Option String) :
    WidenedStep (.make d ⟨.int k, t⟩ target) (.make d ⟨.int l, t.widen hw⟩ target)
  | zero (d : Dimension) (target : Option String) : WidenedStep (.zero d (.int k) target) (.zero d (.int l) target)
  | sum (d : Dimension) (items : List String) (passing : Passing) (target : Option String) :
    WidenedStep (.sum d (.int k) items passing target) (.sum d (.int l) items passing target)
  | sort (d : Dimension) (items : List String) : WidenedStep (.sort d (.int k) items) (.sort d (.int l) items)
  | copy (a : String) (target : Option String) : WidenedStep (.copy a target) (.copy a target)
  | set (a : String) (t : Fixed k) : WidenedStep (.set a ⟨.int k, t⟩) (.set a ⟨.int l, t.widen hw⟩)
  | joint (op : Joint) (a b : String) (target : Option String) :
    WidenedStep (.joint op a b target) (.joint op a b target)
  | jointUpdate (op : JointUpdate) (a b : String) : WidenedStep (.jointUpdate op a b) (.jointUpdate op a b)
  | mixed (op : Mixed) (a b : String) (target : Option String) :
    WidenedStep (.mixed op a b target) (.mixed op a b target)
  | compare (a b : String) : WidenedStep (.compare a b) (.compare a b)
  | scaling (op : Scaling) (a : String) (t : Fixed k) (target : Option String) :
    WidenedStep (.scaling op a ⟨.int k, t⟩ target) (.scaling op a ⟨.int l, t.widen hw⟩ target)
  | scalingUpdate (op : ScalingUpdate) (a : String) (t : Fixed k) :
    WidenedStep (.scalingUpdate op a ⟨.int k, t⟩) (.scalingUpdate op a ⟨.int l, t.widen hw⟩)
  | under (t : Fixed k) (a : String) (target : Option String) :
    WidenedStep (.under ⟨.int k, t⟩ a target) (.under ⟨.int l, t.widen hw⟩ a target)
  | neg (a : String) (target : Option String) : WidenedStep (.neg a target) (.neg a target)
  | squared (a : String) (target : Option String) : WidenedStep (.squared a target) (.squared a target)
  | convert (a : String) (d : Dimension) (target : Option String) :
    WidenedStep (.convert a d target) (.convert a d target)

/-- The second answer is the cast of the first, a quantity. -/
def QuantityWidened (x y : Answer) : Prop :=
  ∃ h h', x = .quantity h ∧ y = .quantity h' ∧ Widened hw h h'

/-- The second answer is the cast of the first, a list of scalars. -/
def ScalarsWidened (x y : Answer) : Prop :=
  ∃ as : List (Fixed k), x = .scalars (.int k) as ∧ y = .scalars (.int l) (as.map (Fixed.widen hw))

/-- How the answers of a step correspond. A comparison does not depend on the kind. -/
def WidenedAnswer : Step → Answer → Answer → Prop
  | .compare _ _ => Eq
  | .sort _ _ _ => ScalarsWidened hw
  | _ => QuantityWidened hw

end Relations

section Steps

variable {k l : IntKind} {hw : k.widens l = true} {r r' : Registers} {d : Dimension}

theorem stops_illTyped : Stops .illTyped := .inl rfl

theorem stops_fault (fault : Fault) : Stops (.fault fault) := .inr ⟨fault, rfl⟩

/-! ### Operands and results -/

theorem as_widened {h h' : Held} (hh : Widened hw h h') (d : Dimension) :
    Follows Stops (fun q q' => Quantity.widen hw q = q') (h.as d (.int k)) (h'.as d (.int l)) := by
  obtain @⟨d₀, q⟩ := hh
  by_cases hsame : d₀ = d
  · subst hsame
    rw [Held.as_self, Held.as_self]
    exact .ok rfl
  · rw [Held.as_other (hsame ·.2)]
    exact .excused stops_illTyped _

theorem gather_widened (hr : RegistersRel (Widened hw) r r') (d : Dimension) (items : List String) :
    Follows Stops (fun qs qs' => qs.map (Quantity.widen hw) = qs') (r.gather d (.int k) items)
      (r'.gather d (.int l) items) := by
  refine Follows.mapM_map fun name _ => ?_
  refine (Follows.fetch hr name).bind ?_
  intro h h' hh
  exact as_widened hh d

theorem give_widened (hr : RegistersRel (Widened hw) r r') (target : Option String)
    (q : Quantity d (.int k)) :
    Follows Stops (OutcomeRel (Widened hw) (QuantityWidened hw)) (.ok (r.give target (.of q)))
      (.ok (r'.give target (.of (q.widen hw)))) :=
  Follows.give hr target (.of q) ⟨_, _, rfl, rfl, .of q⟩

/-- What the arithmetic on scalars comes to is kept under one dimension on both sides. -/
theorem compute_widened (hr : RegistersRel (Widened hw) r r') (d : Dimension) (target : Option String)
    {x : Except Fault (Fixed k)} {y : Except Fault (Fixed l)} (h : ∀ a, x = .ok a → y = .ok (a.widen hw)) :
    Follows Stops (OutcomeRel (Widened hw) (QuantityWidened hw))
      (orFault (Quantity.mk (d := d) (k := .int k) <$> x) >>= fun q => .ok (r.give target (.of q)))
      (orFault (Quantity.mk (d := d) (k := .int l) <$> y) >>= fun q => .ok (r'.give target (.of q))) := by
  cases x with
  | error fault => exact .excused (stops_fault fault) _
  | ok a =>
    rw [h a rfl]
    exact give_widened hr target ⟨a⟩

/-! ### Steps -/

/-- The step at the wide kind goes as the one at the narrow kind does that nothing stops. -/
def FollowsWidened (hw : k.widens l = true) (r r' : Registers) (s s' : Step) : Prop :=
  Follows Stops (OutcomeRel (Widened hw) (WidenedAnswer hw s)) (r.step s) (r'.step s')

theorem widened_sum (hr : RegistersRel (Widened hw) r r') (d : Dimension) (items : List String)
    (passing : Passing) (target : Option String) :
    FollowsWidened hw r r' (.sum d (.int k) items passing target) (.sum d (.int l) items passing target) := by
  rw [FollowsWidened, r.step_sum, r'.step_sum]
  refine (gather_widened hr d items).bind ?_
  rintro qs _ rfl
  show Follows _ _ (orFault (Quantity.sum qs) >>= _) (orFault (Quantity.sum _) >>= _)
  rw [Quantity.sum_eq, Quantity.sum_eq, List.map_map]
  refine compute_widened hr d target fun s hs => ?_
  have hsum := foldlM_widen hw _ hs
  rw [List.map_map] at hsum
  exact hsum

theorem widened_sort (hr : RegistersRel (Widened hw) r r') (d : Dimension) (items : List String) :
    FollowsWidened hw r r' (.sort d (.int k) items) (.sort d (.int l) items) := by
  refine (gather_widened hr d items).bind ?_
  rintro qs _ rfl
  refine (Follows.require stops_illTyped id).bind ?_
  intro _ _ _
  refine .ok ⟨⟨_, rfl, ?_⟩, hr⟩
  rw [Quantity.map_value_sort, Quantity.map_value_sort, ← sort_widen, List.map_map, List.map_map]
  rfl

theorem widened_copy (hr : RegistersRel (Widened hw) r r') (a : String) (target : Option String) :
    FollowsWidened hw r r' (.copy a target) (.copy a target) := by
  refine (Follows.fetch hr a).bind ?_
  rintro _ _ ⟨q⟩
  exact give_widened hr target q

theorem widened_set (hr : RegistersRel (Widened hw) r r') (a : String) (t : Fixed k) :
    FollowsWidened hw r r' (.set a ⟨.int k, t⟩) (.set a ⟨.int l, t.widen hw⟩) := by
  refine (Follows.fetch hr a).bind ?_
  rintro _ _ @⟨d, q⟩
  rw [AnyScalar.as_self, AnyScalar.as_self]
  exact give_widened hr (some a) (⟨t⟩ : Quantity d (.int k))

theorem widened_joint (hr : RegistersRel (Widened hw) r r') (op : Joint) (a b : String)
    (target : Option String) : FollowsWidened hw r r' (.joint op a b target) (.joint op a b target) := by
  refine (Follows.fetch hr a).bind ?_
  rintro _ _ @⟨d, q⟩
  refine (Follows.fetch hr b).bind ?_
  intro h h' hh
  refine (as_widened hh d).bind ?_
  rintro p _ rfl
  rw [Joint.apply_eq, Joint.apply_eq]
  exact compute_widened hr d target fun _ hs => op.bare.apply_widen hw hs

theorem widened_mixed (hr : RegistersRel (Widened hw) r r') (op : Mixed) (a b : String)
    (target : Option String) : FollowsWidened hw r r' (.mixed op a b target) (.mixed op a b target) := by
  refine (Follows.fetch hr a).bind ?_
  rintro _ _ @⟨d, q⟩
  refine (Follows.fetch hr b).bind ?_
  rintro _ _ @⟨e, p⟩
  rw [Held.ofKind_self, Held.ofKind_self]
  -- the result comes with its own type, which is the same on both sides but for the kind
  show Follows _ _ (orFault (op.apply q p) >>= _) (orFault (op.apply (q.widen hw) (p.widen hw)) >>= _)
  rw [Mixed.apply_eq, Mixed.apply_eq]
  cases hs : op.bare.apply q.value p.value with
  | error fault => exact .excused (stops_fault fault) _
  | ok s =>
    have hwide : op.bare.apply (q.widen hw).value (p.widen hw).value = .ok (Fixed.widen hw s) :=
      op.bare.apply_widen hw hs
    rw [hwide]
    exact give_widened hr target (⟨s⟩ : Quantity (op.dimension d e) (.int k))

theorem widened_compare (hr : RegistersRel (Widened hw) r r') (a b : String) :
    FollowsWidened hw r r' (.compare a b) (.compare a b) := by
  refine (Follows.fetch hr a).bind ?_
  rintro _ _ @⟨d, q⟩
  refine (Follows.fetch hr b).bind ?_
  intro h h' hh
  refine (as_widened hh d).bind ?_
  rintro p _ rfl
  exact .ok ⟨congrArg Answer.comparison (compare_widen hw q.value p.value).symm, hr⟩

theorem widened_scaling (hr : RegistersRel (Widened hw) r r') (op : Scaling) (a : String) (t : Fixed k)
    (target : Option String) :
    FollowsWidened hw r r' (.scaling op a ⟨.int k, t⟩ target) (.scaling op a ⟨.int l, t.widen hw⟩ target) := by
  refine (Follows.fetch hr a).bind ?_
  rintro _ _ @⟨d, q⟩
  rw [AnyScalar.as_self, AnyScalar.as_self]
  cases op with
  | mul => exact compute_widened hr d target fun _ hs => Arithmetic.mul.apply_widen hw hs
  | mulLeft => exact compute_widened hr d target fun _ hs => Arithmetic.mul.apply_widen hw hs
  | div => exact compute_widened hr d target fun _ hs => Arithmetic.div.apply_widen hw hs

theorem widened_under (hr : RegistersRel (Widened hw) r r') (t : Fixed k) (a : String)
    (target : Option String) :
    FollowsWidened hw r r' (.under ⟨.int k, t⟩ a target) (.under ⟨.int l, t.widen hw⟩ a target) := by
  refine (Follows.fetch hr a).bind ?_
  rintro _ _ @⟨d, q⟩
  rw [AnyScalar.as_self, AnyScalar.as_self]
  exact compute_widened hr _ target fun _ hs => Arithmetic.div.apply_widen hw hs

/-- A kind with negative values widens only to such kinds. -/
theorem widened_neg (hr : RegistersRel (Widened hw) r r') (a : String) (target : Option String) :
    FollowsWidened hw r r' (.neg a target) (.neg a target) := by
  refine (Follows.fetch hr a).bind ?_
  rintro _ _ @⟨d, q⟩
  refine (Follows.require stops_illTyped (IntKind.signed_of_widens hw)).bind ?_
  intro _ _ _
  exact compute_widened hr d target fun _ hs => checked_widen hw hs

theorem widened_squared (hr : RegistersRel (Widened hw) r r') (a : String) (target : Option String) :
    FollowsWidened hw r r' (.squared a target) (.squared a target) := by
  refine (Follows.fetch hr a).bind ?_
  rintro _ _ @⟨d, q⟩
  exact compute_widened hr _ target fun _ hs => Arithmetic.mul.apply_widen hw hs

theorem widened_convert (hr : RegistersRel (Widened hw) r r') (a : String) (d : Dimension)
    (target : Option String) : FollowsWidened hw r r' (.convert a d target) (.convert a d target) := by
  refine (Follows.fetch hr a).bind ?_
  rintro _ _ @⟨e, q⟩
  refine (Follows.require stops_illTyped id).bind ?_
  rintro ⟨same⟩ _ _
  exact give_widened hr target (q.convert same)

/-- **One step at a wider kind.**  From registers that are casts of one another, a step that nothing stops at
the narrow kind goes the same way at the wide one, and ends in such registers again. -/
theorem step_widened (hr : RegistersRel (Widened hw) r r') {s s' : Step} (hs : WidenedStep hw s s') :
    FollowsWidened hw r r' s s' := by
  cases hs with
  | make d t target => exact give_widened hr target (⟨t⟩ : Quantity d (.int k))
  | zero d target => exact give_widened hr target (Quantity.zero : Quantity d (.int k))
  | sum d items passing target => exact widened_sum hr d items passing target
  | sort d items => exact widened_sort hr d items
  | copy a target => exact widened_copy hr a target
  | set a t => exact widened_set hr a t
  | joint op a b target => exact widened_joint hr op a b target
  | jointUpdate op a b =>
    rw [FollowsWidened, Registers.step_jointUpdate, Registers.step_jointUpdate]
    exact widened_joint hr op.byValue a b (some a)
  | mixed op a b target => exact widened_mixed hr op a b target
  | compare a b => exact widened_compare hr a b
  | scaling op a t target => exact widened_scaling hr op a t target
  | scalingUpdate op a t =>
    rw [FollowsWidened, Registers.step_scalingUpdate, Registers.step_scalingUpdate]
    exact widened_scaling hr op.byValue a t (some a)
  | under t a target => exact widened_under hr t a target
  | neg a target => exact widened_neg hr a target
  | squared a target => exact widened_squared hr a target
  | convert a d target => exact widened_convert hr a d target

end Steps

/-! ### Runs -/

/-- **Wider integers.**  A program on integers of one kind is run again on those of a wider one, from the casts
of its registers and with the casts of its bare scalars.  If nothing stops the first run, nothing stops the
second one; after every step its registers are the casts of the first ones, and so are its answers, where
comparisons are the same.  A cast keeps the integer, and two casts, one after the other, are one. -/
theorem run_widened {k l : IntKind} (hw : k.widens l = true) :
    (∀ (r r' : Registers) (steps steps' : List Step), RegistersRel (Widened hw) r r' →
      List.Forall₂ (WidenedStep hw) steps steps' → r.Along Registers.Proceeds steps →
        r'.Along Registers.Proceeds steps' ∧
        (∀ n : Nat, RegistersRel (Widened hw) (r.run (steps.take n)).2 (r'.run (steps'.take n)).2) ∧
        (∀ (n : Nat) (s : Step), steps[n]? = some s → ∃ x x', (r.run steps).1[n]? = some x ∧
          (r'.run steps').1[n]? = some x' ∧ Matched (WidenedAnswer hw s) x x') ∧
        ∀ (n : Nat) (a b : String), steps[n]? = some (.compare a b) →
          (r.run steps).1[n]? = (r'.run steps').1[n]?) ∧
    ∀ (d : Dimension) (q : Quantity d (.int k)), (q.widen hw).toInt = q.toInt ∧
      ∀ (m : IntKind) (hm : l.widens m = true), ∃ hdirect : k.widens m = true,
        (q.widen hw).widen hm = q.widen hdirect := by
  constructor
  · intro r r' steps steps' hr hsteps hrun
    have hlock : Lockstep (Widened hw) (WidenedAnswer hw) r r' steps steps' :=
      Lockstep.of_follows (fun hr hs => step_widened hr hs) hsteps hr hrun
    refine ⟨hlock.proceeds hrun, hlock.take, fun n s hs => hlock.answers hs, ?_⟩
    intro n a b hs
    exact hlock.answers_eq hs rfl
  · intro d q
    exact ⟨rfl, fun m hm => ⟨IntKind.widens_trans hw hm, rfl⟩⟩

/-- A length and a time of some kind. -/
def wayAndTime {k : IntKind} (length time : Fixed k) : Registers :=
  (Registers.empty.store "length" (.of (⟨length⟩ : Quantity Catalogue.length (.int k)))).store
    "time" (.of (⟨time⟩ : Quantity Catalogue.time (.int k)))

/-- The speed, and whether the way that it makes in the time falls short of the length. -/
def roundedWay : List Step :=
  [.mixed .div "length" "time" (some "speed"), .mixed .mul "speed" "time" (some "way"),
    .compare "way" "length"]

/-- Unsigned bytes, and signed integers of twice the width. -/
theorem run_widened_bytes :
    let r := wayAndTime (k := ⟨false, .w8⟩) ⟨200, by decide, by decide⟩ ⟨7, by decide, by decide⟩
    let r' := wayAndTime (k := ⟨true, .w16⟩) ⟨200, by decide, by decide⟩ ⟨7, by decide, by decide⟩
    IntKind.widens ⟨false, .w8⟩ ⟨true, .w16⟩ = true ∧ r.Along Registers.Proceeds roundedWay ∧
      r'.Along Registers.Proceeds roundedWay ∧
      (r.run roundedWay).1[2]? = (r'.run roundedWay).1[2]? := by
  intro r r'
  have hw : IntKind.widens ⟨false, .w8⟩ ⟨true, .w16⟩ = true := rfl
  have hr : RegistersRel (Widened hw) r r' :=
    RegistersRel.store (RegistersRel.store (fun _ => .none) "length" (.of _)) "time" (.of _)
  have hsteps : List.Forall₂ (WidenedStep hw) roundedWay roundedWay :=
    .cons (.mixed _ _ _ _) (.cons (.mixed _ _ _ _) (.cons (.compare _ _) .nil))
  have hrun : r.Along Registers.Proceeds roundedWay := by decide +kernel
  obtain ⟨hrun', -, -, hcompare⟩ := (run_widened hw).1 r r' roundedWay roundedWay hr hsteps hrun
  exact ⟨hw, hrun, hrun', hcompare 2 "way" "length" rfl⟩

end Program

end Dimensional
