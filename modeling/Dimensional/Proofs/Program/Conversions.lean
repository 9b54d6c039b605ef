import Dimensional.Program.Step
import Dimensional.Proofs.Dimension.Expressions

/-!
# Interchangeable dimensions

`Same` relates the dimensions between which a quantity may be converted.  It is an equivalence, it is
decided by the axis-by-axis test on types and on their constants alike, and the algebra does not tell
interchangeable dimensions apart.  A conversion changes the dimension and nothing else, so that a chain of
them ends with the value that it began with:

* `Dimension.same_equivalence`, `Declared.equals_constant_iff` — the relation and its tests;
* `step_convert_of_same`, `step_convert_of_not_same` — what one conversion does;
* `run_conversions` — what a chain of accepted conversions does;
* `same_is_interchange` — all of this together.
-/

namespace Dimensional

/-! ### The relation -/

namespace Dimension

theorem same_equivalence : Equivalence Same where
  refl _ := rfl
  symm h := Eq.symm h
  trans h h' := Eq.trans h h'

theorem same_iff_get {a b : Dimension} :
    a.Same b ↔ ∀ axis, a.exponents.get axis = b.exponents.get axis :=
  ⟨fun h axis => congrArg (PerAxis.get · axis) h, PerAxis.ext_get⟩

theorem same_of_eq {a b : Dimension} (h : a = b) : a.Same b := congrArg exponents h

theorem same_vector_iff {v w : Powers} : Same (vector v) (vector w) ↔ vector v = vector w :=
  ⟨eq_of_same_of_vector, same_of_eq⟩

theorem hasRoot_congr {a b : Dimension} (h : a.Same b) : a.HasRoot ↔ b.HasRoot := by
  rw [HasRoot, HasRoot, h]

end Dimension

/-- The constants of two types are equal exactly when the types are interchangeable. -/
theorem Declared.equals_constant_iff (a b : Declared) :
    a.constant.equals b.constant = true ↔ a.dimension.Same b.dimension := by
  rw [Exponents.equals_iff, Dimension.Same, ← a.powers_constant, ← b.powers_constant]
  exact ⟨congrArg Exponents.powers, Exponents.powers_injective⟩

namespace Program

/-! ### One conversion -/

/-- The held quantity under another dimension. -/
def Held.retag (h : Held) (d : Dimension) : Held := ⟨h.kind, d, ⟨h.quantity.value⟩⟩

theorem Held.retag_self (h : Held) : h.retag h.dimension = h := rfl

theorem Held.dimension_retag (h : Held) (d : Dimension) : (h.retag d).dimension = d := rfl

variable {r : Registers} {name : String} {h : Held} {d : Dimension}

theorem fetch_of_eq_some (hname : r name = some h) : r.fetch name = .ok h := by
  rw [Registers.fetch, hname]

/-- A conversion to an interchangeable dimension retags the quantity. -/
theorem step_convert_of_same (hname : r name = some h) (same : h.dimension.Same d)
    (target : Option String) :
    r.step (.convert name d target) = .ok (.quantity (h.retag d), r.keep target (h.retag d)) := by
  have hrequire : require (h.dimension.Same d) = .ok ⟨same⟩ := dif_pos same
  rw [Registers.step, bind_of_ok (fetch_of_eq_some hname), bind_of_ok hrequire]
  rfl

/-- Any other conversion is refused. -/
theorem step_convert_of_not_same (hname : r name = some h) (other : ¬ h.dimension.Same d)
    (target : Option String) : r.step (.convert name d target) = .error .illTyped := by
  have hrequire : require (h.dimension.Same d) = .error .illTyped := dif_neg other
  rw [Registers.step, bind_of_ok (fetch_of_eq_some hname), bind_of_error hrequire]

/-! ### Chains of conversions -/

/-- A stop on the way: the dimension that is converted to, and the register that keeps the result. -/
structure Stop where
  dimension : Dimension
  register : String

/-- The steps that convert what a register holds from stop to stop. -/
def conversions (name : String) : List Stop → List Step
  | [] => []
  | stop :: route =>
    .convert name stop.dimension (some stop.register) :: conversions stop.register route

/-- The register that holds the result in the end. -/
def lastRegister (name : String) : List Stop → String
  | [] => name
  | stop :: route => lastRegister stop.register route

/-- The dimension that the result has in the end. -/
def lastDimension (d : Dimension) : List Stop → Dimension
  | [] => d
  | stop :: route => lastDimension stop.dimension route

/-- No step of the program is refused. -/
def Accepted (r : Registers) (steps : List Step) : Prop :=
  ∀ outcome ∈ (r.run steps).1, ∃ answer, outcome = .ok answer

theorem accepted_nil (r : Registers) : Accepted r [] := List.forall_mem_nil _

theorem accepted_cons {s : Step} {steps : List Step} :
    Accepted r (s :: steps) ↔
      ∃ answer r', r.step s = .ok (answer, r') ∧ Accepted r' steps := by
  have hrun : r.run (s :: steps) =
      ((r.perform s).1 :: ((r.perform s).2.run steps).1, ((r.perform s).2.run steps).2) := rfl
  rw [Accepted, hrun, List.forall_mem_cons]
  cases hstep : r.step s with
  | error refusal =>
    have hperform : r.perform s = (.error refusal, r) := by rw [Registers.perform, hstep]
    rw [hperform]
    exact ⟨fun ⟨⟨_, hanswer⟩, _⟩ => (nomatch hanswer), fun ⟨_, _, hanswer, _⟩ => (nomatch hanswer)⟩
  | ok result =>
    obtain ⟨answer, r'⟩ := result
    have hperform : r.perform s = (.ok answer, r') := by rw [Registers.perform, hstep]
    rw [hperform]
    constructor
    · rintro ⟨-, hrest⟩
      exact ⟨answer, r', rfl, hrest⟩
    · rintro ⟨_, _, hsame, hrest⟩
      cases hsame
      exact ⟨⟨answer, rfl⟩, hrest⟩

theorem run_cons_of_step {s : Step} {steps : List Step} {answer : Answer} {r' : Registers}
    (hstep : r.step s = .ok (answer, r')) : (r.run (s :: steps)).2 = (r'.run steps).2 := by
  have hperform : r.perform s = (.ok answer, r') := by rw [Registers.perform, hstep]
  show ((r.perform s).2.run steps).2 = _
  rw [hperform]

/-- A chain is accepted exactly when all its stops are interchangeable with its start. -/
theorem accepted_conversions_iff (hname : r name = some h) (route : List Stop) :
    Accepted r (conversions name route) ↔ ∀ stop ∈ route, h.dimension.Same stop.dimension := by
  induction route generalizing r name h with
  | nil => exact ⟨fun _ _ hmem => (nomatch hmem), fun _ => accepted_nil r⟩
  | cons stop route ih =>
    rw [conversions, accepted_cons, List.forall_mem_cons]
    by_cases same : h.dimension.Same stop.dimension
    · have hstep := step_convert_of_same hname same (some stop.register)
      have hkept : (r.keep (some stop.register) (h.retag stop.dimension)) stop.register =
          some (h.retag stop.dimension) := if_pos rfl
      have hrest := ih hkept
      rw [Held.dimension_retag] at hrest
      constructor
      · rintro ⟨answer, r', hstep', haccepted⟩
        rw [hstep] at hstep'
        cases hstep'
        exact ⟨same, fun other hmem => Dimension.same_equivalence.trans same (hrest.1 haccepted other hmem)⟩
      · rintro ⟨-, hroute⟩
        refine ⟨_, _, hstep, hrest.2 fun other hmem => ?_⟩
        exact Dimension.same_equivalence.trans (Dimension.same_equivalence.symm same) (hroute other hmem)
    · have hstep := step_convert_of_not_same hname same (some stop.register)
      constructor
      · rintro ⟨answer, r', hstep', -⟩
        rw [hstep] at hstep'
        cases hstep'
      · rintro ⟨hsame, -⟩
        exact absurd hsame same

/-- **A chain of accepted conversions** retags the quantity with its last dimension. -/
theorem run_conversions (hname : r name = some h) (route : List Stop)
    (haccepted : Accepted r (conversions name route)) :
    (r.run (conversions name route)).2 (lastRegister name route) =
      some (h.retag (lastDimension h.dimension route)) := by
  induction route generalizing r name h with
  | nil => exact hname
  | cons stop route ih =>
    have same := (accepted_conversions_iff hname (stop :: route)).1 haccepted stop List.mem_cons_self
    have hstep := step_convert_of_same hname same (some stop.register)
    obtain ⟨_, _, hstep', hrest⟩ := accepted_cons.1 haccepted
    rw [hstep] at hstep'
    cases hstep'
    have hkept : (r.keep (some stop.register) (h.retag stop.dimension)) stop.register =
        some (h.retag stop.dimension) := if_pos rfl
    have hrun := ih hkept hrest
    rw [conversions, run_cons_of_step hstep]
    exact hrun

/-- **Interchangeable dimensions.**  `Same` is an equivalence, decided by the test on types and by the test
on constants; it follows from equality, and is equality between plain vectors.  Products, quotients and
roots of interchangeable dimensions are equal.  A quantity is converted exactly to the interchangeable
dimensions, and a chain of conversions is accepted exactly when it stops at these; ending where it began,
it gives back the quantity that it began with. -/
theorem same_is_interchange :
    Equivalence Dimension.Same ∧
    (∀ a b : Dimension, (a.Same b ↔ ∀ axis, a.exponents.get axis = b.exponents.get axis) ∧
      (a.equal b = true ↔ a.Same b) ∧ (a = b → a.Same b)) ∧
    (∀ a b : Declared, a.constant.equals b.constant = true ↔ a.dimension.Same b.dimension) ∧
    (∀ v w : Powers, (Dimension.vector v).Same (.vector w) ↔ Dimension.vector v = .vector w) ∧
    (∀ a a' b b' : Dimension, a.Same a' → b.Same b' →
      a.product b = a'.product b' ∧ a.quotient b = a'.quotient b' ∧
      (a.HasRoot ↔ a'.HasRoot) ∧ a.root? = a'.root?) ∧
    (∀ (r : Registers) (name : String) (h : Held) (d : Dimension) (target : Option String),
      r name = some h →
        (h.dimension.Same d → r.step (.convert name d target) =
          .ok (.quantity (h.retag d), r.keep target (h.retag d))) ∧
        (¬ h.dimension.Same d → r.step (.convert name d target) = .error .illTyped)) ∧
    (∀ (r : Registers) (name : String) (h : Held) (route : List Stop), r name = some h →
      (Accepted r (conversions name route) ↔ ∀ stop ∈ route, h.dimension.Same stop.dimension) ∧
      (Accepted r (conversions name route) → lastDimension h.dimension route = h.dimension →
        (r.run (conversions name route)).2 (lastRegister name route) = some h)) := by
  refine ⟨Dimension.same_equivalence, ?_, Declared.equals_constant_iff,
    fun _ _ => Dimension.same_vector_iff, ?_, ?_, ?_⟩
  · intro a b
    exact ⟨Dimension.same_iff_get, Dimension.equal_iff, Dimension.same_of_eq⟩
  · intro a a' b b' ha hb
    exact ⟨Dimension.product_congr ha hb, Dimension.quotient_congr ha hb, Dimension.hasRoot_congr ha,
      Dimension.root?_congr ha⟩
  · intro r name h d target hname
    exact ⟨fun same => step_convert_of_same hname same target,
      fun other => step_convert_of_not_same hname other target⟩
  · intro r name h route hname
    refine ⟨accepted_conversions_iff hname route, fun haccepted hend => ?_⟩
    rw [run_conversions hname route haccepted, hend, Held.retag_self]

/-- From a vector to a marker and another one, and back to the vector. -/
def thereAndBack : List Stop :=
  [⟨.marker "Velocity" Catalogue.speed.exponents, "velocity"⟩, ⟨.marker "Pace" Catalogue.speed.exponents, "pace"⟩,
    ⟨Catalogue.speed, "speed"⟩]

theorem same_is_interchange_thereAndBack :
    let h : Held := ⟨.int ⟨true, .w64⟩, Catalogue.speed, ⟨⟨300, by decide, by decide⟩⟩⟩
    let r : Registers := Registers.empty.store "start" h
    r "start" = some h ∧ Accepted r (conversions "start" thereAndBack) ∧
      (r.run (conversions "start" thereAndBack)).2 "speed" = some h ∧
      r.step (.convert "start" Catalogue.area none) = .error .illTyped := by
  intro h r
  obtain ⟨-, -, -, -, -, hstep, hchain⟩ := same_is_interchange
  have hstart : r "start" = some h := rfl
  obtain ⟨hiff, hback⟩ := hchain r "start" h thereAndBack hstart
  have haccepted : Accepted r (conversions "start" thereAndBack) := by
    refine hiff.2 fun stop hmem => ?_
    rcases hmem with _ | ⟨_, _ | ⟨_, _ | ⟨_, ⟨⟩⟩⟩⟩ <;> rfl
  have hother : ¬ h.dimension.Same Catalogue.area := by decide
  exact ⟨hstart, haccepted, hback haccepted rfl, (hstep r "start" h Catalogue.area none hstart).2 hother⟩

end Program

end Dimensional
