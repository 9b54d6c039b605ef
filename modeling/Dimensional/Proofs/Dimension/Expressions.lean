import Dimensional.Dimension.Catalogue

/-!
# Dimension expressions

Products, quotients and roots are written as types and computed as constants.  An expression is evaluated
in both ways from the same dimension types: its type on the exponents of the types, its constant on the
32-bit exponents that the types declare.

* `typeOf_of_constant`, `typeOf_of_odd` — what the constant says about the type;
* `expression_agrees` — where no constant overflows, the two evaluations agree on every part.
-/

namespace Dimensional

/-- A dimension type with the constant of its exponents. -/
structure Declared where
  dimension : Dimension
  constant : Exponents
  powers_constant : constant.powers = dimension.exponents

/-- What joins two dimensions. -/
inductive Operator where
  | product
  | quotient
  deriving DecidableEq, Repr

namespace Operator

def onTypes : Operator → Dimension → Dimension → Dimension
  | product => Dimension.product
  | quotient => Dimension.quotient

def onConstants : Operator → Exponents → Exponents → Except Fault Exponents
  | product => Exponents.multiply
  | quotient => Exponents.divide

/-- A constant that does not overflow is that of the type, which is a plain vector. -/
theorem onTypes_of_constants (op : Operator) {d d' : Dimension} {f g e : Exponents}
    (hd : d.exponents = f.powers) (hd' : d'.exponents = g.powers) (h : op.onConstants f g = .ok e) :
    op.onTypes d d' = .vector e.powers := by
  cases op with
  | product =>
    show Dimension.vector _ = _
    rw [hd, hd', Exponents.powers_multiply h]
  | quotient =>
    show Dimension.vector _ = _
    rw [hd, hd', Exponents.powers_divide h]

end Operator

/-- An expression over dimension types. -/
inductive Expression where
  | leaf (declared : Declared)
  | join (op : Operator) (a b : Expression)
  | root (a : Expression)

namespace Expression

/-- The expression is no more than a type that was there before. -/
def IsLeaf : Expression → Prop
  | leaf _ => True
  | _ => False

/-- The first expression is a part of the second, or all of it. -/
inductive IsPart : Expression → Expression → Prop where
  | self (x : Expression) : IsPart x x
  | left {x a : Expression} (op : Operator) (b : Expression) (h : IsPart x a) : IsPart x (join op a b)
  | right {x b : Expression} (op : Operator) (a : Expression) (h : IsPart x b) : IsPart x (join op a b)
  | root {x a : Expression} (h : IsPart x a) : IsPart x (root a)

/-- The type of the expression, where there is one. -/
def typeOf : Expression → Option Dimension
  | leaf declared => some declared.dimension
  | join op a b => do return op.onTypes (← typeOf a) (← typeOf b)
  | root a => do (← typeOf a).root?

/-- Why the constant of an expression is not there. -/
inductive Stop where
  | overflow (fault : Fault)
  | odd (error : Exponents.Error)

/-- The constant of the expression: its exponents, computed in 32 bits. -/
def constant : Expression → Except Stop Exponents
  | leaf declared => .ok declared.constant
  | join op a b => do (op.onConstants (← constant a) (← constant b)).mapError .overflow
  | root a => do (← constant a).checkedSqrt.mapError .odd

/-- The constant of the expression is not stopped by an overflow. -/
def Bounded (x : Expression) : Prop := ∀ fault, x.constant ≠ .error (.overflow fault)

/-! ### The two evaluations -/

theorem join_eq_ok {op : Operator} {a b : Expression} {e : Exponents} :
    (join op a b).constant = .ok e ↔
      ∃ f g, a.constant = .ok f ∧ b.constant = .ok g ∧ op.onConstants f g = .ok e := by
  show a.constant >>= _ = .ok e ↔ _
  rw [bind_eq_ok]
  constructor
  · rintro ⟨f, hf, h⟩
    obtain ⟨g, hg, h⟩ := bind_eq_ok.1 h
    exact ⟨f, g, hf, hg, mapError_eq_ok.1 h⟩
  · rintro ⟨f, g, hf, hg, h⟩
    exact ⟨f, hf, bind_eq_ok.2 ⟨g, hg, mapError_eq_ok.2 h⟩⟩

theorem root_eq_ok {a : Expression} {e : Exponents} :
    (root a).constant = .ok e ↔ ∃ f, a.constant = .ok f ∧ f.checkedSqrt = .ok e := by
  show a.constant >>= _ = .ok e ↔ _
  rw [bind_eq_ok]
  exact ⟨fun ⟨f, hf, h⟩ => ⟨f, hf, mapError_eq_ok.1 h⟩, fun ⟨f, hf, h⟩ => ⟨f, hf, mapError_eq_ok.2 h⟩⟩

/-- **An expression with a constant has a type** with these exponents, and is a plain vector unless it is
a type that was there before. -/
theorem typeOf_of_constant {x : Expression} :
    ∀ {e : Exponents}, x.constant = .ok e → ∃ d, x.typeOf = some d ∧ d.exponents = e.powers ∧
      (¬ x.IsLeaf → d = .vector e.powers) := by
  induction x with
  | leaf declared =>
    intro e h
    cases h
    exact ⟨declared.dimension, rfl, declared.powers_constant.symm, fun hleaf => absurd trivial hleaf⟩
  | join op a b iha ihb =>
    intro e h
    obtain ⟨f, g, hf, hg, hjoin⟩ := join_eq_ok.1 h
    obtain ⟨d, hd, hdexp, -⟩ := iha hf
    obtain ⟨d', hd', hdexp', -⟩ := ihb hg
    have htype : (join op a b).typeOf = some (op.onTypes d d') := by
      rw [typeOf, hd, hd']
      rfl
    have hvector := op.onTypes_of_constants hdexp hdexp' hjoin
    exact ⟨_, htype, congrArg Dimension.exponents hvector, fun _ => hvector⟩
  | root a iha =>
    intro e h
    obtain ⟨f, hf, hroot⟩ := root_eq_ok.1 h
    obtain ⟨d, hd, hdexp, -⟩ := iha hf
    obtain ⟨hsquare, hhalf⟩ := Exponents.powers_checkedSqrt hroot
    have hhas : d.HasRoot := by
      rw [Dimension.HasRoot, hdexp]
      exact hsquare
    have htype : (root a).typeOf = some d.root := by
      rw [typeOf, hd]
      exact if_pos hhas
    have hvector : d.root = .vector e.powers := by
      rw [Dimension.root, hdexp, hhalf]
    exact ⟨_, htype, congrArg Dimension.exponents hvector, fun _ => hvector⟩

/-- An expression in which a root is taken of an odd exponent has no type. -/
theorem typeOf_of_odd {x : Expression} :
    ∀ {error : Exponents.Error}, x.constant = .error (.odd error) → x.typeOf = none := by
  induction x with
  | leaf declared => exact nofun
  | join op a b iha ihb =>
    intro error h
    rcases bind_eq_error.1 h with ha | ⟨f, hf, h⟩
    · rw [typeOf, iha ha]
      rfl
    · rcases bind_eq_error.1 h with hb | ⟨g, hg, h⟩
      · rw [typeOf, ihb hb]
        cases a.typeOf <;> rfl
      · -- joining may overflow, but takes no root
        obtain ⟨fault, -, hstop⟩ := mapError_eq_error.1 h
        cases hstop
  | root a iha =>
    intro error h
    rcases bind_eq_error.1 h with ha | ⟨f, hf, h⟩
    · rw [typeOf, iha ha]
      rfl
    · obtain ⟨e, hsqrt, -⟩ := mapError_eq_error.1 h
      obtain ⟨d, hd, hdexp, -⟩ := typeOf_of_constant hf
      have hodd : ¬ d.HasRoot := by
        intro hhas
        rw [Dimension.HasRoot, hdexp] at hhas
        rw [Exponents.checkedSqrt_of_isSquare hhas] at hsqrt
        cases hsqrt
      rw [typeOf, hd]
      exact if_neg hodd

/-- The parts of an expression with a constant have constants. -/
theorem constant_of_isPart {p x : Expression} (h : IsPart p x) :
    ∀ {e : Exponents}, x.constant = .ok e → ∃ f, p.constant = .ok f := by
  induction h with
  | self =>
    intro e hx
    exact ⟨e, hx⟩
  | left op b _ ih =>
    intro e hx
    obtain ⟨f, g, hf, -⟩ := join_eq_ok.1 hx
    exact ih hf
  | right op a _ ih =>
    intro e hx
    obtain ⟨f, g, -, hg, -⟩ := join_eq_ok.1 hx
    exact ih hg
  | root _ ih =>
    intro e hx
    obtain ⟨f, hf, -⟩ := root_eq_ok.1 hx
    exact ih hf

theorem constant_ne_odd {p x : Expression} {e : Exponents} (hpart : IsPart p x) (hx : x.constant = .ok e)
    (error : Exponents.Error) : p.constant ≠ .error (.odd error) := by
  intro hodd
  obtain ⟨f, hf⟩ := constant_of_isPart hpart hx
  rw [hf] at hodd
  cases hodd

/-- Where nothing overflows there is a type or a root of an odd exponent. -/
theorem constant_of_type {x : Expression} {d : Dimension} (hx : x.Bounded) (h : x.typeOf = some d) :
    ∃ e, x.constant = .ok e := by
  cases hconstant : x.constant with
  | ok e => exact ⟨e, rfl⟩
  | error stop =>
    cases stop with
    | overflow fault => exact absurd hconstant (hx fault)
    | odd error =>
      rw [typeOf_of_odd hconstant] at h
      cases h

/-- **Types and constants agree on whole expressions.**  Where no constant overflows, the expression has a
type exactly when no root in it is taken of an odd exponent; every part of it that is not a type from
before is then the plain vector of its constant, and with it every other expression of the same constant.
Products may be reordered and regrouped, and a square has its root. -/
theorem expression_agrees {x : Expression} (hx : x.Bounded) :
    ((∃ d, x.typeOf = some d) ↔ ∀ p, IsPart p x → ∀ error, p.constant ≠ .error (.odd error)) ∧
    (∀ d, x.typeOf = some d → ∀ p, IsPart p x → ¬ p.IsLeaf →
      ∃ e, p.constant = .ok e ∧ p.typeOf = some (.vector e.powers)) ∧
    (∀ (y : Expression) (e : Exponents), ¬ x.IsLeaf → ¬ y.IsLeaf → x.constant = .ok e → y.constant = .ok e →
      ∃ d, x.typeOf = some d ∧ y.typeOf = some d) ∧
    (∀ a b c : Dimension, a.product b = b.product a ∧
      (a.product b).product c = a.product (b.product c) ∧
      (a.product a).root? = some (.vector a.exponents)) := by
  refine ⟨?_, ?_, ?_, ?_⟩
  · constructor
    · rintro ⟨d, htype⟩ p hpart
      obtain ⟨e, hconstant⟩ := constant_of_type hx htype
      exact constant_ne_odd hpart hconstant
    · intro hodd
      cases hconstant : x.constant with
      | ok e =>
        obtain ⟨d, htype, -⟩ := typeOf_of_constant hconstant
        exact ⟨d, htype⟩
      | error stop =>
        cases stop with
        | overflow fault => exact absurd hconstant (hx fault)
        | odd error => exact absurd hconstant (hodd x (.self x) error)
  · intro d htype p hpart hleaf
    obtain ⟨e, hconstant⟩ := constant_of_type hx htype
    obtain ⟨f, hf⟩ := constant_of_isPart hpart hconstant
    obtain ⟨d', hd', -, hvector⟩ := typeOf_of_constant hf
    exact ⟨f, hf, by rw [hd', hvector hleaf]⟩
  · intro y e hxleaf hyleaf hxe hye
    obtain ⟨d, hd, -, hvector⟩ := typeOf_of_constant hxe
    obtain ⟨d', hd', -, hvector'⟩ := typeOf_of_constant hye
    exact ⟨d, hd, by rw [hd', hvector' hyleaf, hvector hxleaf]⟩
  · intro a b c
    refine ⟨?_, ?_, ?_⟩
    · exact congrArg Dimension.vector (Powers.multiply_comm _ _)
    · exact congrArg Dimension.vector (Powers.multiply_assoc _ _ _)
    · obtain ⟨hsquare, hhalf⟩ := Powers.halve_square a.exponents
      have hhas : (a.product a).HasRoot := hsquare
      rw [Dimension.root?, if_pos hhas]
      exact congrArg (some ∘ Dimension.vector) hhalf

theorem force_holds (axis : Axis) : IntKind.i32.Holds (Catalogue.force.exponents.get axis) := by
  cases axis <;> decide

/-- The exponents of a force, declared under a name or none. -/
def declaredForce (d : Dimension) (h : d.exponents = Catalogue.force.exponents) : Declared where
  dimension := d
  constant := .ofPowers Catalogue.force.exponents force_holds
  powers_constant := (Exponents.powers_ofPowers force_holds).trans h.symm

/-- The root of a marked force times a plain one. -/
def rootOfForces : Expression :=
  root (join .product (leaf (declaredForce (.marker "Weight" Catalogue.force.exponents) rfl))
    (leaf (declaredForce Catalogue.force rfl)))

theorem rootOfForces_constant : ∃ e, rootOfForces.constant = .ok e := by
  have hsome : rootOfForces.constant.toOption.isSome = true := by decide +kernel
  cases hconstant : rootOfForces.constant with
  | ok e => exact ⟨e, rfl⟩
  | error stop =>
    rw [hconstant] at hsome
    cases hsome

theorem expression_agrees_rootOfForces :
    rootOfForces.Bounded ∧ ∃ e, rootOfForces.constant = .ok e ∧ rootOfForces.typeOf = some (.vector e.powers) := by
  obtain ⟨e, hconstant⟩ := rootOfForces_constant
  have hbounded : rootOfForces.Bounded := by
    intro fault hfault
    rw [hconstant] at hfault
    cases hfault
  obtain ⟨hcompiles, hparts, -⟩ := expression_agrees hbounded
  obtain ⟨d, htype⟩ := hcompiles.2 fun p hpart => constant_ne_odd hpart hconstant
  exact ⟨hbounded, hparts d htype rootOfForces (.self _) id⟩

end Expression

end Dimensional
