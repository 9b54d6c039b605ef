import Dimensional.Proofs.Program.Parallel
import Dimensional.Proofs.Program.Rescaling

/-!
# Dimensional homogeneity

A program on quantities of integers does not know in which units they are given.  It is run twice, the
second time from registers whose values are those of the first in other units; where no arithmetic stops
and no division leaves a remainder, the second run goes like the first one in the other units.

* `Rescaled` — two quantities that are one in two systems of units;
* `step_rescaled` — one step keeps this, one case for each family of operations;
* `run_rescaled` — and so does a run, in which all comparisons come out the same.
-/

namespace Dimensional.Program

open Quantity

/-- The operations of a program that do not look into the units: those on integers, but for the ones that
make a quantity from a bare number or take the number out of it. -/
def Step.Homogeneous : Step → Prop
  | .zero _ (.int _) _ | .sum _ (.int _) _ _ _ | .sort _ (.int _) _ | .copy _ _ | .joint _ _ _ _
  | .jointUpdate _ _ _ | .mixed _ _ _ _ | .compare _ _ | .scaling _ _ _ _ | .scalingUpdate _ _ _
  | .under _ _ _ | .neg _ _ | .squared _ _ | .convert _ _ _ | .cast _ (.int _) _ => True
  | _ => False

/-- The first integer is a multiple of the second; between floating-point values nothing is asked. -/
def ExactOver : {k : ScalarKind} → Scalar k → Scalar k → Prop
  | .int _, a, b => (Fixed.toInt a).tmod (Fixed.toInt b) = 0
  | .float _, _, _ => True

instance : {k : ScalarKind} → (a b : Scalar k) → Decidable (ExactOver a b)
  | .int _, _, _ => inferInstanceAs (Decidable (_ = _))
  | .float _, _, _ => .isTrue trivial

/-- If the step divides, the division leaves no remainder. -/
def Registers.DividesExactly (r : Registers) : Step → Prop
  | .mixed .div a b _ => ∀ h, r.fetch a = .ok h → ∀ h', r.fetch b = .ok h' → ∀ q, h'.ofKind h.kind = .ok q →
      ExactOver h.quantity.value q.value
  | .scaling .div a s _ | .scalingUpdate .div a s => ∀ h, r.fetch a = .ok h → ∀ t, s.as h.kind = .ok t →
      ExactOver h.quantity.value t
  | .under s a _ => ∀ h, r.fetch a = .ok h → ∀ t, s.as h.kind = .ok t → ExactOver t h.quantity.value
  | _ => True

instance (r : Registers) : (s : Step) → Decidable (r.DividesExactly s)
  | .mixed .div _ _ _ | .scaling .div _ _ _ | .scalingUpdate .div _ _ | .under _ _ _ =>
    inferInstanceAs (Decidable (∀ _, _ → _))
  | .mixed .mul _ _ _ | .scaling .mul _ _ _ | .scaling .mulLeft _ _ _ | .scalingUpdate .mul _ _
  | .make .. | .zero .. | .sum .. | .sort .. | .read .. | .readTagged .. | .value .. | .copy .. | .set ..
  | .joint .. | .jointUpdate .. | .compare .. | .neg .. | .abs .. | .sqrt .. | .squared .. | .convert ..
  | .cast .. | .hash .. | .format .. | .write .. | .writeTagged .. => .isTrue trivial

/-- No fault stops the step, and no division in it leaves a remainder. -/
def Registers.Exactly (r : Registers) (s : Step) : Prop := r.Unstopped s ∧ r.DividesExactly s

instance (r : Registers) (s : Step) : Decidable (r.Exactly s) := inferInstanceAs (Decidable (_ ∧ _))

section Rescaled

variable (u : Rescaling)

/-- Two quantities of one type, the second of which is the first in the new units. -/
def Carried {d : Dimension} {k : IntKind} (q q' : Quantity d (.int k)) : Prop :=
  u.Carries d.exponents q.toInt q'.toInt

/-- What two registers hold is one quantity in two systems of units. -/
inductive Rescaled : Held → Held → Prop where
  | of {d : Dimension} {k : IntKind} {q q' : Quantity d (.int k)} (carried : Carried u q q') :
      Rescaled (Held.of q) (Held.of q')

/-- What two steps answer is one quantity in two systems of units. -/
def SameQuantity (x y : Answer) : Prop :=
  ∃ h h', x = .quantity h ∧ y = .quantity h' ∧ Rescaled u h h'

/-- What two steps answer is one list of values of a dimension in two systems of units. -/
def SameScalars (d : Dimension) (k : IntKind) (x y : Answer) : Prop :=
  ∃ xs ys : List (Fixed k), x = .scalars (.int k) xs ∧ y = .scalars (.int k) ys ∧
    List.Forall₂ (fun a b => u.Carries d.exponents a.toInt b.toInt) xs ys

/-- How the answers of a step correspond. A comparison does not depend on the units. -/
def Agree : Step → Answer → Answer → Prop
  | .compare _ _ => Eq
  | .sort d (.int k) _ => SameScalars u d k
  | _ => SameQuantity u

end Rescaled

section Steps

variable {u : Rescaling} {r r' : Registers} {d : Dimension} {k : IntKind}

/-! ### Operands -/

theorem as_rescaled {h h' : Held} (hh : Rescaled u h h') (d : Dimension) (k : IntKind) :
    Parallel (Carried u) (h.as d (.int k)) (h'.as d (.int k)) := by
  obtain @⟨d₀, k₀, q, q', hq⟩ := hh
  by_cases hsame : ScalarKind.int k₀ = .int k ∧ d₀ = d
  · obtain ⟨hkind, rfl⟩ := hsame
    cases hkind
    rw [Held.as_self, Held.as_self]
    exact .ok hq
  · rw [Held.as_other hsame, Held.as_other hsame]
    exact .refused

theorem ofKind_rescaled {d : Dimension} {l : IntKind} {q q' : Quantity d (.int l)} (hq : Carried u q q')
    (k : IntKind) :
    Parallel (Carried (d := d) u) ((Held.of q).ofKind (.int k)) ((Held.of q').ofKind (.int k)) := by
  by_cases hsame : ScalarKind.int l = .int k
  · cases hsame
    rw [Held.ofKind_self, Held.ofKind_self]
    exact .ok hq
  · rw [Held.ofKind_other hsame, Held.ofKind_other hsame]
    exact .refused

theorem gather_rescaled (hr : RegistersRel (Rescaled u) r r') (d : Dimension) (k : IntKind)
    (items : List String) :
    Parallel (List.Forall₂ (Carried u)) (r.gather d (.int k) items) (r'.gather d (.int k) items) := by
  refine Parallel.mapM fun name _ => ?_
  refine (Parallel.fetch hr name).bind ?_
  intro h h' _ _ hh
  exact as_rescaled hh d k

/-- What a register holds is answered and kept. -/
theorem give_rescaled (hr : RegistersRel (Rescaled u) r r') (target : Option String) {h h' : Held}
    (hh : Rescaled u h h') :
    Parallel (OutcomeRel (Rescaled u) (SameQuantity u)) (.ok (r.give target h)) (.ok (r'.give target h')) :=
  Parallel.give hr target hh ⟨h, h', rfl, rfl, hh⟩

/-- What the arithmetic comes to is answered and kept. -/
theorem compute_rescaled (hr : RegistersRel (Rescaled u) r r') (target : Option String)
    {x y : Except Fault (Quantity d (.int k))}
    (h : ∀ q q', x = .ok q → y = .ok q' → Carried u q q') :
    Parallel (OutcomeRel (Rescaled u) (SameQuantity u))
      (orFault x >>= fun q => .ok (r.give target (.of q)))
      (orFault y >>= fun q => .ok (r'.give target (.of q))) := by
  refine (Parallel.orFault h).bind ?_
  intro q q' _ _ hq
  exact give_rescaled hr target (.of hq)

/-! ### Operations -/

section Operations

variable {e : Dimension} {q q' p p' s s' : Quantity d (.int k)}

theorem less_carried (hq : Carried u q q') (hp : Carried u p p') :
    Scalar.less q'.value p'.value = Scalar.less q.value p.value :=
  Bool.eq_iff_iff.2 (less_iff.trans ((Rescaling.carries_lt hq hp).trans less_iff.symm))

theorem min_carried (hq : Carried u q q') (hp : Carried u p p') : Carried u (q.min p) (q'.min p') := by
  unfold Quantity.min Scalar.min
  rw [less_carried hp hq]
  split
  · exact hp
  · exact hq

theorem max_carried (hq : Carried u q q') (hp : Carried u p p') : Carried u (q.max p) (q'.max p') := by
  unfold Quantity.max Scalar.max
  rw [less_carried hq hp]
  split
  · exact hp
  · exact hq

theorem add_carried (hq : Carried u q q') (hp : Carried u p p') (h : q.add p = .ok s)
    (h' : q'.add p' = .ok s') : Carried u s s' := by
  rw [Carried, add_eq_ok.1 h, add_eq_ok.1 h']
  exact Rescaling.carries_add hq hp

theorem joint_carried {op : Joint} (hq : Carried u q q') (hp : Carried u p p')
    (h : op.apply q p = .ok s) (h' : op.apply q' p' = .ok s') : Carried u s s' := by
  cases op with
  | add => exact add_carried hq hp h h'
  | sub =>
    rw [Carried, sub_eq_ok.1 h, sub_eq_ok.1 h']
    exact Rescaling.carries_sub hq hp
  | min =>
    cases h
    cases h'
    exact min_carried hq hp
  | max =>
    cases h
    cases h'
    exact max_carried hq hp

/-- A bare number is a dimensionless quantity that is the same in all units. -/
theorem scale_carried {t : Fixed k} (hq : Carried u q q') (h : q.scale t = .ok s)
    (h' : q'.scale t = .ok s') : Carried u s s' := by
  have hproduct := Rescaling.carries_mul hq (Rescaling.carries_bare t.toInt)
  rw [Powers.multiply_one] at hproduct
  rw [Carried, scale_eq_ok.1 h, scale_eq_ok.1 h']
  exact hproduct

theorem unscale_carried {t : Fixed k} (hq : Carried u q q') (hexact : q.toInt.tmod t.toInt = 0)
    (hexact' : q'.toInt.tmod t.toInt = 0) (h : q.unscale t = .ok s) (h' : q'.unscale t = .ok s') :
    Carried u s s' := by
  obtain ⟨hne, hs⟩ := unscale_eq_ok.1 h
  obtain ⟨-, hs'⟩ := unscale_eq_ok.1 h'
  have hquotient := Rescaling.carries_div hq (Rescaling.carries_bare t.toInt) hexact hexact' hne hne
  rw [Powers.divide_one] at hquotient
  rw [Carried, hs, hs']
  exact hquotient

theorem scaling_carried {op : Scaling} {t : Fixed k} (hq : Carried u q q')
    (hexact : op = .div → q.toInt.tmod t.toInt = 0 ∧ q'.toInt.tmod t.toInt = 0)
    (h : op.apply q t = .ok s) (h' : op.apply q' t = .ok s') : Carried u s s' := by
  cases op with
  | mul => exact scale_carried hq h h'
  | mulLeft => exact scale_carried hq h h'
  | div =>
    obtain ⟨hleft, hright⟩ := hexact rfl
    exact unscale_carried hq hleft hright h h'

theorem mul_carried {p p' : Quantity e (.int k)} {s s' : Quantity (d.product e) (.int k)}
    (hq : Carried u q q') (hp : Carried u p p') (h : q.mul p = .ok s) (h' : q'.mul p' = .ok s') :
    Carried u s s' := by
  rw [Carried, mul_eq_ok.1 h, mul_eq_ok.1 h']
  exact Rescaling.carries_mul hq hp

theorem div_carried {p p' : Quantity e (.int k)} {s s' : Quantity (d.quotient e) (.int k)}
    (hq : Carried u q q') (hp : Carried u p p') (hexact : q.toInt.tmod p.toInt = 0)
    (hexact' : q'.toInt.tmod p'.toInt = 0) (h : q.div p = .ok s) (h' : q'.div p' = .ok s') :
    Carried u s s' := by
  obtain ⟨hne, hs⟩ := div_eq_ok.1 h
  obtain ⟨hne', hs'⟩ := div_eq_ok.1 h'
  rw [Carried, hs, hs']
  exact Rescaling.carries_div hq hp hexact hexact' hne hne'

theorem mixed_rescaled {op : Mixed} {p p' : Quantity e (.int k)} {h h' : Held} (hq : Carried u q q')
    (hp : Carried u p p')
    (hexact : op = .div → q.toInt.tmod p.toInt = 0 ∧ q'.toInt.tmod p'.toInt = 0)
    (hs : op.apply q p = .ok h) (hs' : op.apply q' p' = .ok h') : Rescaled u h h' := by
  cases op with
  | mul =>
    obtain ⟨s, hmul, rfl⟩ := map_eq_ok.1 hs
    obtain ⟨s', hmul', rfl⟩ := map_eq_ok.1 hs'
    exact .of (mul_carried hq hp hmul hmul')
  | div =>
    obtain ⟨s, hdiv, rfl⟩ := map_eq_ok.1 hs
    obtain ⟨s', hdiv', rfl⟩ := map_eq_ok.1 hs'
    obtain ⟨hleft, hright⟩ := hexact rfl
    exact .of (div_carried hq hp hleft hright hdiv hdiv')

theorem under_carried {t : Fixed k} {s s' : Quantity (Dimension.one.quotient d) (.int k)}
    (hq : Carried u q q') (hexact : t.toInt.tmod q.toInt = 0) (hexact' : t.toInt.tmod q'.toInt = 0)
    (h : Quantity.under t q = .ok s) (h' : Quantity.under t q' = .ok s') : Carried u s s' := by
  obtain ⟨hne, hs⟩ := under_eq_ok.1 h
  obtain ⟨hne', hs'⟩ := under_eq_ok.1 h'
  rw [Carried, hs, hs']
  exact Rescaling.carries_div (Rescaling.carries_bare t.toInt) hq hexact hexact' hne hne'

theorem neg_carried (hq : Carried u q q') (h : q.neg = .ok s) (h' : q'.neg = .ok s') : Carried u s s' := by
  rw [Carried, neg_eq_ok.1 h, neg_eq_ok.1 h']
  exact Rescaling.carries_neg hq

theorem squared_carried {s s' : Quantity (d.product d) (.int k)} (hq : Carried u q q')
    (h : q.squared = .ok s) (h' : q'.squared = .ok s') : Carried u s s' := by
  rw [Carried, squared_eq_ok.1 h, squared_eq_ok.1 h']
  exact Rescaling.carries_mul hq hq

theorem compare_carried (hq : Carried u q q') (hp : Carried u p p') : q'.compare p' = q.compare p :=
  compare_congr (Rescaling.carries_compare hq hp)

/-- Adding up goes item by item, from totals that correspond. -/
theorem foldlM_carried {qs qs' : List (Quantity d (.int k))} (hqs : List.Forall₂ (Carried u) qs qs') :
    ∀ {q q' s s' : Quantity d (.int k)}, Carried u q q' → qs.foldlM add q = .ok s →
      qs'.foldlM add q' = .ok s' → Carried u s s' := by
  induction hqs with
  | nil =>
    intro q q' s s' hq h h'
    cases h
    cases h'
    exact hq
  | @cons p p' qs qs' hp _ ih =>
    intro q q' s s' hq h h'
    rw [List.foldlM_cons] at h h'
    obtain ⟨t, ht, hrest⟩ := bind_eq_ok.1 h
    obtain ⟨t', ht', hrest'⟩ := bind_eq_ok.1 h'
    exact ih (add_carried hq hp ht ht') hrest hrest'

theorem sum_carried {qs qs' : List (Quantity d (.int k))} (hqs : List.Forall₂ (Carried u) qs qs')
    (h : Quantity.sum qs = .ok s) (h' : Quantity.sum qs' = .ok s') : Carried u s s' := by
  have hzero : Carried u (Quantity.zero : Quantity d (.int k)) Quantity.zero := Rescaling.carries_zero _
  exact foldlM_carried hqs hzero h h'

/-- Sorting the first components of pairs that correspond sorts the second ones. -/
theorem sort_fst {pairs : List (Quantity d (.int k) × Quantity d (.int k))}
    {f : Quantity d (.int k) × Quantity d (.int k) → Quantity d (.int k)}
    (hf : ∀ a ∈ pairs, ∀ b ∈ pairs, Scalar.less (f b).value (f a).value = Scalar.less b.1.value a.1.value) :
    Quantity.sort (pairs.map f) =
      (pairs.mergeSort fun a b => !Scalar.less b.1.value a.1.value).map f := by
  rw [Quantity.sort, Scalar.sort, List.map_map]
  rw [← List.map_mergeSort (f := Quantity.value ∘ f) (r := fun a b => !Scalar.less b.1.value a.1.value)]
  · rw [List.map_map]
    rfl
  · intro a ha b hb
    exact congrArg Bool.not (hf a ha b hb).symm

/-- Units do not change the order, so both sides are sorted in the same way. -/
theorem sort_carried {qs qs' : List (Quantity d (.int k))} (hqs : List.Forall₂ (Carried u) qs qs') :
    List.Forall₂ (Carried u) (Quantity.sort qs) (Quantity.sort qs') := by
  obtain ⟨pairs, rfl, rfl, hpairs⟩ : ∃ pairs : List (Quantity d (.int k) × Quantity d (.int k)),
      qs = pairs.map Prod.fst ∧ qs' = pairs.map Prod.snd ∧ ∀ a ∈ pairs, Carried u a.1 a.2 := by
    induction hqs with
    | nil => exact ⟨[], rfl, rfl, nofun⟩
    | @cons p p' qs qs' hp _ ih =>
      obtain ⟨pairs, rfl, rfl, hpairs⟩ := ih
      exact ⟨(p, p') :: pairs, rfl, rfl, List.forall_mem_cons.2 ⟨hp, hpairs⟩⟩
  rw [sort_fst fun _ _ _ _ => rfl, sort_fst fun a ha b hb => less_carried (hpairs b hb) (hpairs a ha)]
  rw [List.forall₂_map_left_iff, List.forall₂_map_right_iff, List.forall₂_same]
  intro a ha
  exact hpairs a (List.mem_mergeSort.1 ha)

end Operations

/-! ### Steps -/

/-- The step goes in parallel from the two register files. -/
def StepsInParallel (u : Rescaling) (r r' : Registers) (s : Step) : Prop :=
  Parallel (OutcomeRel (Rescaled u) (Agree u s)) (r.step s) (r'.step s)

theorem step_zero (hr : RegistersRel (Rescaled u) r r') (d : Dimension) (k : IntKind)
    (target : Option String) : StepsInParallel u r r' (.zero d (.int k) target) := by
  have hzero : Carried u (Quantity.zero : Quantity d (.int k)) Quantity.zero := Rescaling.carries_zero _
  exact give_rescaled hr target (.of hzero)

theorem step_sum (hr : RegistersRel (Rescaled u) r r') (d : Dimension) (k : IntKind)
    (items : List String) (passing : Passing) (target : Option String) :
    StepsInParallel u r r' (.sum d (.int k) items passing target) := by
  refine (gather_rescaled hr d k items).bind ?_
  intro qs qs' _ _ hqs
  refine compute_rescaled hr target ?_
  intro s s' hs hs'
  cases passing with
  | byValue => exact sum_carried hqs hs hs'
  | byReference =>
    rw [sumOf_eq, List.map_id] at hs hs'
    exact sum_carried hqs hs hs'

theorem step_sort (hr : RegistersRel (Rescaled u) r r') (d : Dimension) (k : IntKind)
    (items : List String) : StepsInParallel u r r' (.sort d (.int k) items) := by
  refine (gather_rescaled hr d k items).bind ?_
  intro qs qs' _ _ hqs
  refine (Parallel.require Iff.rfl).bind ?_
  intro _ _ _ _ _
  refine Parallel.answer hr ⟨_, _, rfl, rfl, ?_⟩
  rw [List.forall₂_map_left_iff, List.forall₂_map_right_iff]
  exact sort_carried hqs

theorem step_copy (hr : RegistersRel (Rescaled u) r r') (a : String) (target : Option String) :
    StepsInParallel u r r' (.copy a target) := by
  refine (Parallel.fetch hr a).bind ?_
  intro h h' _ _ hh
  exact give_rescaled hr target hh

theorem step_joint (hr : RegistersRel (Rescaled u) r r') (op : Joint) (a b : String)
    (target : Option String) : StepsInParallel u r r' (.joint op a b target) := by
  refine (Parallel.fetch hr a).bind ?_
  rintro _ _ - - ⟨hq⟩
  refine (Parallel.fetch hr b).bind ?_
  intro h h' _ _ hh
  refine (as_rescaled hh _ _).bind ?_
  intro p p' _ _ hp
  refine compute_rescaled hr target ?_
  intro s s' hs hs'
  exact joint_carried hq hp hs hs'

theorem step_jointUpdate (hr : RegistersRel (Rescaled u) r r') (op : JointUpdate) (a b : String) :
    StepsInParallel u r r' (.jointUpdate op a b) := by
  refine (Parallel.fetch hr a).bind ?_
  rintro _ _ - - ⟨hq⟩
  refine (Parallel.fetch hr b).bind ?_
  intro h h' _ _ hh
  refine (as_rescaled hh _ _).bind ?_
  intro p p' _ _ hp
  refine compute_rescaled hr (some a) ?_
  intro s s' hs hs'
  rw [JointUpdate.apply_eq] at hs hs'
  exact joint_carried hq hp hs hs'

theorem step_mixed (hr : RegistersRel (Rescaled u) r r') (op : Mixed) (a b : String)
    (target : Option String) (hexact : r.DividesExactly (.mixed op a b target))
    (hexact' : r'.DividesExactly (.mixed op a b target)) :
    StepsInParallel u r r' (.mixed op a b target) := by
  refine (Parallel.fetch hr a).bind ?_
  rintro _ _ ha ha' @⟨d, k, q, q', hq⟩
  refine (Parallel.fetch hr b).bind ?_
  rintro _ _ hb hb' ⟨hp₀⟩
  refine (ofKind_rescaled hp₀ _).bind ?_
  intro p p' hkind hkind' hp
  have hresult : ∀ h h', op.apply q p = .ok h → op.apply q' p' = .ok h' → Rescaled u h h' := by
    intro h h' hs hs'
    refine mixed_rescaled hq hp ?_ hs hs'
    rintro rfl
    exact ⟨hexact _ ha _ hb _ hkind, hexact' _ ha' _ hb' _ hkind'⟩
  refine (Parallel.orFault hresult).bind ?_
  intro h h' _ _ hh
  exact give_rescaled hr target hh

theorem step_compare (hr : RegistersRel (Rescaled u) r r') (a b : String) :
    StepsInParallel u r r' (.compare a b) := by
  refine (Parallel.fetch hr a).bind ?_
  rintro _ _ - - ⟨hq⟩
  refine (Parallel.fetch hr b).bind ?_
  intro h h' _ _ hh
  refine (as_rescaled hh _ _).bind ?_
  intro p p' _ _ hp
  exact Parallel.answer hr (congrArg Answer.comparison (compare_carried hq hp).symm)

/-- The bare scalar of a step is the same on both sides. -/
theorem as_same (t : AnyScalar) (k : ScalarKind) : Parallel Eq (t.as k) (t.as k) := by
  cases t.as k with
  | ok a => exact .ok rfl
  | error e => exact .refused

theorem step_scaling (hr : RegistersRel (Rescaled u) r r') (op : Scaling) (a : String) (t : AnyScalar)
    (target : Option String) (hexact : r.DividesExactly (.scaling op a t target))
    (hexact' : r'.DividesExactly (.scaling op a t target)) :
    StepsInParallel u r r' (.scaling op a t target) := by
  refine (Parallel.fetch hr a).bind ?_
  rintro _ _ ha ha' ⟨hq⟩
  refine (as_same t _).bind ?_
  rintro t _ ht - rfl
  refine compute_rescaled hr target ?_
  intro s s' hs hs'
  refine scaling_carried hq ?_ hs hs'
  rintro rfl
  exact ⟨hexact _ ha _ ht, hexact' _ ha' _ ht⟩

theorem step_scalingUpdate (hr : RegistersRel (Rescaled u) r r') (op : ScalingUpdate) (a : String)
    (t : AnyScalar) (hexact : r.DividesExactly (.scalingUpdate op a t))
    (hexact' : r'.DividesExactly (.scalingUpdate op a t)) :
    StepsInParallel u r r' (.scalingUpdate op a t) := by
  refine (Parallel.fetch hr a).bind ?_
  rintro _ _ ha ha' ⟨hq⟩
  refine (as_same t _).bind ?_
  rintro t _ ht - rfl
  refine compute_rescaled hr (some a) ?_
  intro s s' hs hs'
  rw [ScalingUpdate.apply_eq] at hs hs'
  refine scaling_carried hq ?_ hs hs'
  intro hdiv
  cases op with
  | mul => cases hdiv
  | div => exact ⟨hexact _ ha _ ht, hexact' _ ha' _ ht⟩

theorem step_under (hr : RegistersRel (Rescaled u) r r') (t : AnyScalar) (a : String)
    (target : Option String) (hexact : r.DividesExactly (.under t a target))
    (hexact' : r'.DividesExactly (.under t a target)) : StepsInParallel u r r' (.under t a target) := by
  refine (Parallel.fetch hr a).bind ?_
  rintro _ _ ha ha' ⟨hq⟩
  refine (as_same t _).bind ?_
  rintro t _ ht - rfl
  refine compute_rescaled hr target ?_
  intro s s' hs hs'
  exact under_carried hq (hexact _ ha _ ht) (hexact' _ ha' _ ht) hs hs'

theorem step_neg (hr : RegistersRel (Rescaled u) r r') (a : String) (target : Option String) :
    StepsInParallel u r r' (.neg a target) := by
  refine (Parallel.fetch hr a).bind ?_
  rintro _ _ - - ⟨hq⟩
  refine (Parallel.require Iff.rfl).bind ?_
  intro _ _ _ _ _
  refine compute_rescaled hr target ?_
  intro s s' hs hs'
  exact neg_carried hq hs hs'

theorem step_squared (hr : RegistersRel (Rescaled u) r r') (a : String) (target : Option String) :
    StepsInParallel u r r' (.squared a target) := by
  refine (Parallel.fetch hr a).bind ?_
  rintro _ _ - - ⟨hq⟩
  refine compute_rescaled hr target ?_
  intro s s' hs hs'
  exact squared_carried hq hs hs'

theorem step_convert (hr : RegistersRel (Rescaled u) r r') (a : String) (d : Dimension)
    (target : Option String) : StepsInParallel u r r' (.convert a d target) := by
  refine (Parallel.fetch hr a).bind ?_
  rintro _ _ - - @⟨e, k, q, q', hq⟩
  refine (Parallel.require Iff.rfl).bind ?_
  intro ⟨hsame⟩ _ _ _ _
  have hexponents : e.exponents = d.exponents := hsame
  refine give_rescaled hr target (.of ?_)
  rw [Carried, ← hexponents]
  exact hq

theorem step_cast (hr : RegistersRel (Rescaled u) r r') (a : String) (k : IntKind)
    (target : Option String) : StepsInParallel u r r' (.cast a (.int k) target) := by
  refine (Parallel.fetch hr a).bind ?_
  rintro _ _ - - ⟨hq⟩
  refine (Parallel.require Iff.rfl).bind ?_
  intro _ _ _ _ _
  exact give_rescaled hr target (.of hq)

/-- **One step keeps the units apart.**  From registers that hold the same quantities in two systems of
units, an operation goes the same way on both sides and ends in such registers again. -/
theorem step_rescaled (hr : RegistersRel (Rescaled u) r r') {s : Step} (hs : s.Homogeneous)
    (hexact : r.DividesExactly s) (hexact' : r'.DividesExactly s) : StepsInParallel u r r' s := by
  cases s with
  | zero d k target =>
    cases k with
    | int k => exact step_zero hr d k target
    | float p => cases hs
  | sum d k items passing target =>
    cases k with
    | int k => exact step_sum hr d k items passing target
    | float p => cases hs
  | sort d k items =>
    cases k with
    | int k => exact step_sort hr d k items
    | float p => cases hs
  | cast a k target =>
    cases k with
    | int k => exact step_cast hr a k target
    | float p => cases hs
  | copy a target => exact step_copy hr a target
  | joint op a b target => exact step_joint hr op a b target
  | jointUpdate op a b => exact step_jointUpdate hr op a b
  | mixed op a b target => exact step_mixed hr op a b target hexact hexact'
  | compare a b => exact step_compare hr a b
  | scaling op a t target => exact step_scaling hr op a t target hexact hexact'
  | scalingUpdate op a t => exact step_scalingUpdate hr op a t hexact hexact'
  | under t a target => exact step_under hr t a target hexact hexact'
  | neg a target => exact step_neg hr a target
  | squared a target => exact step_squared hr a target
  | convert a d target => exact step_convert hr a d target
  | make | read | readTagged | value | set | abs | sqrt | hash | format | write | writeTagged => cases hs

end Steps

/-! ### Runs -/

/-- **Dimensional homogeneity.**  Two runs of one program start from registers that hold the same
quantities in two systems of units.  If no fault stops them and no division leaves a remainder, then after
every step the registers hold the same quantities in the two systems, and so do the answers; what a step
answers about two quantities that it compares is the same on both sides. -/
theorem run_rescaled {u : Rescaling} {r r' : Registers} {steps : List Step}
    (hsteps : ∀ s ∈ steps, s.Homogeneous) (hr : RegistersRel (Rescaled u) r r')
    (hrun : r.Along Registers.Exactly steps) (hrun' : r'.Along Registers.Exactly steps) :
    (∀ n, RegistersRel (Rescaled u) (r.run (steps.take n)).2 (r'.run (steps.take n)).2) ∧
    (∀ (n : Nat) s, steps[n]? = some s → ∃ x x', (r.run steps).1[n]? = some x ∧
      (r'.run steps).1[n]? = some x' ∧ Matched (Agree u s) x x') ∧
    (∀ (n : Nat) a b, steps[n]? = some (.compare a b) → (r.run steps).1[n]? = (r'.run steps).1[n]?) := by
  have hsame : List.Forall₂ (fun s s' => s = s' ∧ s.Homogeneous) steps steps :=
    List.forall₂_same.2 fun s hs => ⟨rfl, hsteps s hs⟩
  have hlock : Lockstep (Rescaled u) (Agree u) r r' steps steps := by
    refine Lockstep.of_steps ?_ (fun h => h.1) (fun h => h.1) hsame hr hrun hrun'
    rintro r r' s _ hr ⟨rfl, hs⟩ hexact hexact'
    exact step_rescaled hr hs hexact.2 hexact'.2
  refine ⟨hlock.take, fun n s hs => hlock.answers hs, ?_⟩
  intro n a b hs
  obtain ⟨x, x', hx, hx', hmatched⟩ := hlock.answers hs
  rw [hx, hx']
  cases hmatched with
  | ok related => exact congrArg (some ∘ Except.ok) related
  | refused e => rfl

/-- Metres become millimetres, and seconds half seconds. -/
def finer : Rescaling where
  factor := ⟨2, 1, 1000, 1, 1, 1, 1, 1⟩
  pos := by
    intro axis
    cases axis <;> decide

/-- A length and a time, of these values. -/
def lengthAndTime (length time : Fixed ⟨true, .w64⟩) : Registers :=
  (Registers.empty.store "length" (.of (⟨length⟩ : Quantity Catalogue.length (.int ⟨true, .w64⟩)))).store
    "time" (.of (⟨time⟩ : Quantity Catalogue.time (.int ⟨true, .w64⟩)))

/-- The speed, and the way that it makes in the time, compared to the length. -/
def speedAndWay : List Step :=
  [.mixed .div "length" "time" (some "speed"), .mixed .mul "speed" "time" (some "way"),
    .compare "way" "length"]

theorem run_rescaled_speed :
    let r := lengthAndTime ⟨12, by decide, by decide⟩ ⟨4, by decide, by decide⟩
    let r' := lengthAndTime ⟨12000, by decide, by decide⟩ ⟨8, by decide, by decide⟩
    (∀ s ∈ speedAndWay, s.Homogeneous) ∧ RegistersRel (Rescaled finer) r r' ∧
      r.Along Registers.Exactly speedAndWay ∧ r'.Along Registers.Exactly speedAndWay ∧
      RegistersRel (Rescaled finer) (r.run speedAndWay).2 (r'.run speedAndWay).2 ∧
      (r.run speedAndWay).1[2]? = (r'.run speedAndWay).1[2]? := by
  intro r r'
  have hsteps : ∀ s ∈ speedAndWay, s.Homogeneous := by
    refine List.forall_mem_cons.2 ⟨trivial, List.forall_mem_cons.2 ⟨trivial, ?_⟩⟩
    exact List.forall_mem_cons.2 ⟨trivial, List.forall_mem_nil _⟩
  have hr : RegistersRel (Rescaled finer) r r' := by
    refine RegistersRel.store (RegistersRel.store (fun _ => .none) "length" (.of ?_)) "time" (.of ?_)
    · show (8 : Int) * _ = 4 * _
      decide +kernel
    · show (12000 : Int) * _ = 12 * _
      decide +kernel
  have hrun : r.Along Registers.Exactly speedAndWay := by decide +kernel
  have hrun' : r'.Along Registers.Exactly speedAndWay := by decide +kernel
  obtain ⟨hregisters, -, hcompare⟩ := run_rescaled hsteps hr hrun hrun'
  have hall := hregisters 3
  rw [show speedAndWay.take 3 = speedAndWay from rfl] at hall
  have hlast : speedAndWay[2]? = some (.compare "way" "length") := rfl
  exact ⟨hsteps, hr, hrun, hrun', hall, hcompare 2 _ _ hlast⟩

end Dimensional.Program
