import Dimensional.Proofs.Program.Parallel

/-!
# Types in a run

A program is run twice, from registers that hold quantities of the same types; the values in the registers
and the bare scalars of the steps may all be others.  The types decide alone what is refused, and of which
type a result is.

* `SameType`, `SameButScalar` — what the two runs have in common;
* `step_sameType` — one step keeps it, one case for each family of operations;
* `run_sameType` — and so does a run that no fault stops.
-/

namespace Dimensional.Program

/-- What two registers hold are quantities of one type. -/
inductive SameType : Held → Held → Prop where
  | of {d : Dimension} {k : ScalarKind} (q q' : Quantity d k) : SameType (Held.of q) (Held.of q')

/-- What two steps answer is of one type. -/
inductive SameAnswerType : Answer → Answer → Prop where
  | quantity {h h' : Held} (hh : SameType h h') : SameAnswerType (.quantity h) (.quantity h')
  | scalar {k : ScalarKind} (a b : Scalar k) : SameAnswerType (.scalar ⟨k, a⟩) (.scalar ⟨k, b⟩)
  | scalars {k : ScalarKind} {as bs : List (Scalar k)} (h : as.length = bs.length) :
    SameAnswerType (.scalars k as) (.scalars k bs)
  | comparison (c c' : Scalar.Comparison) : SameAnswerType (.comparison c) (.comparison c')
  | bytes {bs bs' : List UInt8} (h : bs.length = bs'.length) : SameAnswerType (.bytes bs) (.bytes bs')
  | text (t t' : Text) : SameAnswerType (.text t) (.text t')
  | json (t t' : Text) : SameAnswerType (.json t) (.json t')

/-- The steps are one, but for the value of a bare scalar. -/
inductive SameButScalar : Step → Step → Prop where
  | refl (s : Step) : SameButScalar s s
  | make {k : ScalarKind} (d : Dimension) (t t' : Scalar k) (target : Option String) :
    SameButScalar (.make d ⟨k, t⟩ target) (.make d ⟨k, t'⟩ target)
  | set {k : ScalarKind} (a : String) (t t' : Scalar k) : SameButScalar (.set a ⟨k, t⟩) (.set a ⟨k, t'⟩)
  | scaling {k : ScalarKind} (op : Scaling) (a : String) (t t' : Scalar k) (target : Option String) :
    SameButScalar (.scaling op a ⟨k, t⟩ target) (.scaling op a ⟨k, t'⟩ target)
  | scalingUpdate {k : ScalarKind} (op : ScalingUpdate) (a : String) (t t' : Scalar k) :
    SameButScalar (.scalingUpdate op a ⟨k, t⟩) (.scalingUpdate op a ⟨k, t'⟩)
  | under {k : ScalarKind} (t t' : Scalar k) (a : String) (target : Option String) :
    SameButScalar (.under ⟨k, t⟩ a target) (.under ⟨k, t'⟩ a target)

variable {r r' : Registers} {d : Dimension} {k : ScalarKind}

/-! ### Operands and results -/

theorem as_sameType {h h' : Held} (hh : SameType h h') (d : Dimension) (k : ScalarKind) :
    Parallel (fun _ _ => True) (h.as d k) (h'.as d k) := by
  obtain @⟨d₀, k₀, q, q'⟩ := hh
  by_cases hsame : k₀ = k ∧ d₀ = d
  · obtain ⟨rfl, rfl⟩ := hsame
    rw [Held.as_self, Held.as_self]
    exact .ok trivial
  · rw [Held.as_other hsame, Held.as_other hsame]
    exact .refused

theorem ofKind_sameType {l : ScalarKind} (q q' : Quantity d l) (k : ScalarKind) :
    Parallel (fun _ _ => True) ((Held.of q).ofKind k) ((Held.of q').ofKind k) := by
  by_cases hsame : l = k
  · subst hsame
    rw [Held.ofKind_self, Held.ofKind_self]
    exact .ok trivial
  · rw [Held.ofKind_other hsame, Held.ofKind_other hsame]
    exact .refused

/-- Two bare scalars of one kind are of the kind that is asked for, or neither of them is. -/
theorem scalarAs_sameType {l : ScalarKind} (t t' : Scalar l) (k : ScalarKind) :
    Parallel (fun _ _ => True) ((⟨l, t⟩ : AnyScalar).as k) ((⟨l, t'⟩ : AnyScalar).as k) := by
  by_cases hsame : l = k
  · subst hsame
    rw [AnyScalar.as_self, AnyScalar.as_self]
    exact .ok trivial
  · rw [AnyScalar.as_other hsame, AnyScalar.as_other hsame]
    exact .refused

theorem gather_sameType (hr : RegistersRel SameType r r') (d : Dimension) (k : ScalarKind)
    (items : List String) :
    Parallel (List.Forall₂ fun _ _ => True) (r.gather d k items) (r'.gather d k items) := by
  refine Parallel.mapM fun name _ => ?_
  refine (Parallel.fetch hr name).bind ?_
  intro h h' _ _ hh
  exact as_sameType hh d k

/-- Two steps go the same way as far as the types are concerned. -/
def SameCourse (r r' : Registers) (s s' : Step) : Prop :=
  Parallel (OutcomeRel SameType SameAnswerType) (r.step s) (r'.step s')

theorem give_sameType (hr : RegistersRel SameType r r') (target : Option String) (q q' : Quantity d k) :
    Parallel (OutcomeRel SameType SameAnswerType) (.ok (r.give target (.of q)))
      (.ok (r'.give target (.of q'))) :=
  Parallel.give hr target (.of q q') (.quantity (.of q q'))

/-- Whatever the arithmetic comes to is of the type that it is computed in. -/
theorem compute_sameType (hr : RegistersRel SameType r r') (target : Option String)
    (x y : Except Fault (Quantity d k)) :
    Parallel (OutcomeRel SameType SameAnswerType)
      (orFault x >>= fun q => .ok (r.give target (.of q)))
      (orFault y >>= fun q => .ok (r'.give target (.of q))) := by
  have hany : Parallel (fun _ _ => True) (orFault x) (orFault y) := Parallel.orFault fun _ _ _ _ => trivial
  refine hany.bind ?_
  intro q q' _ _ _
  exact give_sameType hr target q q'

/-! ### Steps that make a quantity -/

theorem course_make (hr : RegistersRel SameType r r') (d : Dimension) (t t' : Scalar k)
    (target : Option String) : SameCourse r r' (.make d ⟨k, t⟩ target) (.make d ⟨k, t'⟩ target) :=
  give_sameType hr target ⟨t⟩ ⟨t'⟩

theorem course_sum (hr : RegistersRel SameType r r') (d : Dimension) (k : ScalarKind) (items : List String)
    (passing : Passing) (target : Option String) :
    SameCourse r r' (.sum d k items passing target) (.sum d k items passing target) := by
  refine (gather_sameType hr d k items).bind ?_
  intro qs qs' _ _ _
  exact compute_sameType hr target _ _

theorem course_sort (hr : RegistersRel SameType r r') (d : Dimension) (k : ScalarKind) (items : List String) :
    SameCourse r r' (.sort d k items) (.sort d k items) := by
  refine (gather_sameType hr d k items).bind ?_
  intro qs qs' _ _ hqs
  refine (Parallel.require Iff.rfl).bind ?_
  intro _ _ _ _ _
  refine Parallel.answer hr (.scalars ?_)
  simp only [Quantity.sort, Scalar.sort, List.length_map, List.length_mergeSort, hqs.length_eq]

/-- What is read from a text does not depend on the registers. -/
theorem course_read (hr : RegistersRel SameType r r') (target : Option String)
    (x : Except Json.Error (Quantity d k)) :
    Parallel (OutcomeRel SameType SameAnswerType)
      (orJson x >>= fun q => .ok (r.give target (.of q)))
      (orJson x >>= fun q => .ok (r'.give target (.of q))) := by
  cases x with
  | ok q => exact give_sameType hr target q q
  | error error => exact .refused

theorem course_copy (hr : RegistersRel SameType r r') (a : String) (target : Option String) :
    SameCourse r r' (.copy a target) (.copy a target) := by
  refine (Parallel.fetch hr a).bind ?_
  rintro _ _ - - ⟨q, q'⟩
  exact give_sameType hr target q q'

theorem course_set (hr : RegistersRel SameType r r') (a : String) (t t' : Scalar k) :
    SameCourse r r' (.set a ⟨k, t⟩) (.set a ⟨k, t'⟩) := by
  refine (Parallel.fetch hr a).bind ?_
  rintro _ _ - - ⟨q, q'⟩
  refine (scalarAs_sameType t t' _).bind ?_
  intro s s' _ _ _
  exact give_sameType hr (some a) ⟨s⟩ ⟨s'⟩

/-! ### Operations on two quantities -/

theorem course_joint (hr : RegistersRel SameType r r') (op : Joint) (a b : String) (target : Option String) :
    SameCourse r r' (.joint op a b target) (.joint op a b target) := by
  refine (Parallel.fetch hr a).bind ?_
  rintro _ _ - - ⟨q, q'⟩
  refine (Parallel.fetch hr b).bind ?_
  intro h h' _ _ hh
  refine (as_sameType hh _ _).bind ?_
  intro p p' _ _ _
  exact compute_sameType hr target _ _

/-- The type of a product or a quotient is computed from the types of the operands. -/
theorem mixed_sameType {e : Dimension} (op : Mixed) (q q' : Quantity d k) (p p' : Quantity e k) (h h' : Held)
    (hs : op.apply q p = .ok h) (hs' : op.apply q' p' = .ok h') : SameType h h' := by
  cases op with
  | mul =>
    obtain ⟨s, -, rfl⟩ := map_eq_ok.1 hs
    obtain ⟨s', -, rfl⟩ := map_eq_ok.1 hs'
    exact .of s s'
  | div =>
    obtain ⟨s, -, rfl⟩ := map_eq_ok.1 hs
    obtain ⟨s', -, rfl⟩ := map_eq_ok.1 hs'
    exact .of s s'

theorem course_mixed (hr : RegistersRel SameType r r') (op : Mixed) (a b : String) (target : Option String) :
    SameCourse r r' (.mixed op a b target) (.mixed op a b target) := by
  refine (Parallel.fetch hr a).bind ?_
  rintro _ _ - - ⟨q, q'⟩
  refine (Parallel.fetch hr b).bind ?_
  rintro _ _ - - ⟨p₀, p₀'⟩
  refine (ofKind_sameType p₀ p₀' _).bind ?_
  intro p p' _ _ _
  refine (Parallel.orFault (mixed_sameType op q q' p p')).bind ?_
  intro h h' _ _ hh
  exact Parallel.give hr target hh (.quantity hh)

theorem course_compare (hr : RegistersRel SameType r r') (a b : String) :
    SameCourse r r' (.compare a b) (.compare a b) := by
  refine (Parallel.fetch hr a).bind ?_
  rintro _ _ - - ⟨q, q'⟩
  refine (Parallel.fetch hr b).bind ?_
  intro h h' _ _ hh
  refine (as_sameType hh _ _).bind ?_
  intro p p' _ _ _
  exact Parallel.answer hr (.comparison _ _)

/-! ### Operations with a bare scalar -/

theorem course_scaling (hr : RegistersRel SameType r r') (op : Scaling) (a : String) (t t' : Scalar k)
    (target : Option String) : SameCourse r r' (.scaling op a ⟨k, t⟩ target) (.scaling op a ⟨k, t'⟩ target) := by
  refine (Parallel.fetch hr a).bind ?_
  rintro _ _ - - ⟨q, q'⟩
  refine (scalarAs_sameType t t' _).bind ?_
  intro s s' _ _ _
  exact compute_sameType hr target _ _

theorem course_under (hr : RegistersRel SameType r r') (t t' : Scalar k) (a : String)
    (target : Option String) : SameCourse r r' (.under ⟨k, t⟩ a target) (.under ⟨k, t'⟩ a target) := by
  refine (Parallel.fetch hr a).bind ?_
  rintro _ _ - - ⟨q, q'⟩
  refine (scalarAs_sameType t t' _).bind ?_
  intro s s' _ _ _
  exact compute_sameType hr target _ _

/-! ### Operations on one quantity -/

theorem course_neg (hr : RegistersRel SameType r r') (a : String) (target : Option String) :
    SameCourse r r' (.neg a target) (.neg a target) := by
  refine (Parallel.fetch hr a).bind ?_
  rintro _ _ - - ⟨q, q'⟩
  refine (Parallel.require Iff.rfl).bind ?_
  intro _ _ _ _ _
  exact compute_sameType hr target _ _

theorem course_abs (hr : RegistersRel SameType r r') (a : String) (target : Option String) :
    SameCourse r r' (.abs a target) (.abs a target) := by
  refine (Parallel.fetch hr a).bind ?_
  rintro _ _ - - @⟨d, k, q, q'⟩
  cases k with
  | int k => exact .refused
  | float p => exact give_sameType hr target q.abs q'.abs

theorem course_sqrt (hr : RegistersRel SameType r r') (a : String) (target : Option String) :
    SameCourse r r' (.sqrt a target) (.sqrt a target) := by
  refine (Parallel.fetch hr a).bind ?_
  rintro _ _ - - @⟨d, k, q, q'⟩
  cases k with
  | int k => exact .refused
  | float p =>
    refine (Parallel.require Iff.rfl).bind ?_
    intro ⟨root⟩ ⟨root'⟩ _ _ _
    exact give_sameType hr target (q.sqrt root) (q'.sqrt root')

theorem course_squared (hr : RegistersRel SameType r r') (a : String) (target : Option String) :
    SameCourse r r' (.squared a target) (.squared a target) := by
  refine (Parallel.fetch hr a).bind ?_
  rintro _ _ - - ⟨q, q'⟩
  exact compute_sameType hr target _ _

theorem course_convert (hr : RegistersRel SameType r r') (a : String) (d : Dimension)
    (target : Option String) : SameCourse r r' (.convert a d target) (.convert a d target) := by
  refine (Parallel.fetch hr a).bind ?_
  rintro _ _ - - ⟨q, q'⟩
  refine (Parallel.require Iff.rfl).bind ?_
  intro ⟨same⟩ ⟨same'⟩ _ _ _
  exact give_sameType hr target (q.convert same) (q'.convert same')

theorem course_cast (hr : RegistersRel SameType r r') (a : String) (k : ScalarKind)
    (target : Option String) : SameCourse r r' (.cast a k target) (.cast a k target) := by
  refine (Parallel.fetch hr a).bind ?_
  rintro _ _ - - ⟨q, q'⟩
  refine (Parallel.require Iff.rfl).bind ?_
  intro ⟨wider⟩ ⟨wider'⟩ _ _ _
  exact give_sameType hr target (q.cast wider) (q'.cast wider')

/-! ### Steps that only answer -/

theorem course_value (hr : RegistersRel SameType r r') (a : String) :
    SameCourse r r' (.value a) (.value a) := by
  refine (Parallel.fetch hr a).bind ?_
  rintro _ _ - - ⟨q, q'⟩
  exact Parallel.answer hr (.scalar q.value q'.value)

theorem course_hash (hr : RegistersRel SameType r r') (a : String) : SameCourse r r' (.hash a) (.hash a) := by
  refine (Parallel.fetch hr a).bind ?_
  rintro _ _ - - @⟨d, k, q, q'⟩
  cases k with
  | int k =>
    have hlength : q.value.littleEndian.length = q'.value.littleEndian.length :=
      (Fixed.littleEndian_length _).trans (Fixed.littleEndian_length _).symm
    exact Parallel.answer hr (.bytes hlength)
  | float p => exact .refused

theorem course_format (hr : RegistersRel SameType r r') (a : String) (spec : Format.Spec) :
    SameCourse r r' (.format a spec) (.format a spec) := by
  refine (Parallel.fetch hr a).bind ?_
  rintro _ _ - - ⟨q, q'⟩
  cases hchecked : spec.checked with
  | ok spec => exact Parallel.answer hr (.text _ _)
  | error fault => exact .refused

theorem course_write (hr : RegistersRel SameType r r') (a : String) :
    SameCourse r r' (.write a) (.write a) ∧ SameCourse r r' (.writeTagged a) (.writeTagged a) := by
  constructor
  · refine (Parallel.fetch hr a).bind ?_
    rintro _ _ - - ⟨q, q'⟩
    exact Parallel.answer hr (.json _ _)
  · refine (Parallel.fetch hr a).bind ?_
    rintro _ _ - - ⟨q, q'⟩
    exact Parallel.answer hr (.json _ _)

/-! ### Steps and runs -/

/-- **One step does not look at the values for the types.**  From registers that hold quantities of the same
types, two steps that are one but for a bare scalar are refused alike, or come to results of the same types. -/
theorem step_sameType (hr : RegistersRel SameType r r') {s s' : Step} (hs : SameButScalar s s') :
    SameCourse r r' s s' := by
  cases hs with
  | make d t t' target => exact course_make hr d t t' target
  | set a t t' => exact course_set hr a t t'
  | scaling op a t t' target => exact course_scaling hr op a t t' target
  | scalingUpdate op a t t' =>
    rw [SameCourse, Registers.step_scalingUpdate, Registers.step_scalingUpdate]
    exact course_scaling hr op.byValue a t t' (some a)
  | under t t' a target => exact course_under hr t t' a target
  | refl =>
    cases s with
    | make d t target => exact course_make hr d t.value t.value target
    | zero d k target => exact give_sameType hr target _ _
    | sum d k items passing target => exact course_sum hr d k items passing target
    | sort d k items => exact course_sort hr d k items
    | read reals d k json target => exact course_read hr target _
    | readTagged reals d k json target => exact course_read hr target _
    | value a => exact course_value hr a
    | copy a target => exact course_copy hr a target
    | set a t => exact course_set hr a t.value t.value
    | joint op a b target => exact course_joint hr op a b target
    | jointUpdate op a b =>
      rw [SameCourse, Registers.step_jointUpdate, Registers.step_jointUpdate]
      exact course_joint hr op.byValue a b (some a)
    | mixed op a b target => exact course_mixed hr op a b target
    | compare a b => exact course_compare hr a b
    | scaling op a t target => exact course_scaling hr op a t.value t.value target
    | scalingUpdate op a t =>
      rw [SameCourse, Registers.step_scalingUpdate, Registers.step_scalingUpdate]
      exact course_scaling hr op.byValue a t.value t.value (some a)
    | under t a target => exact course_under hr t.value t.value a target
    | neg a target => exact course_neg hr a target
    | abs a target => exact course_abs hr a target
    | sqrt a target => exact course_sqrt hr a target
    | squared a target => exact course_squared hr a target
    | convert a d target => exact course_convert hr a d target
    | cast a k target => exact course_cast hr a k target
    | hash a => exact course_hash hr a
    | format a spec => exact course_format hr a spec
    | write a => exact (course_write hr a).1
    | writeTagged a => exact (course_write hr a).2

/-- **Neither does a run** that no fault stops. -/
theorem run_sameType {steps steps' : List Step} (hr : RegistersRel SameType r r')
    (hsteps : List.Forall₂ SameButScalar steps steps') (hrun : r.Along Registers.Unstopped steps)
    (hrun' : r'.Along Registers.Unstopped steps') :
    Lockstep SameType (fun _ => SameAnswerType) r r' steps steps' := by
  refine Lockstep.of_steps ?_ id id hsteps hr hrun hrun'
  intro r r' s s' hr hs _ _
  exact step_sameType hr hs

end Dimensional.Program
