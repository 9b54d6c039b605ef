import Dimensional.Quantity.Wire

/-!
# Registers

A program keeps its quantities in named registers. A register holds a quantity of any type, so the
types are kept beside the value and compared when an operation needs two of them to agree.

* `Held.as_self` — a held quantity has its own type;
* `Held.as_eq_ok` — and no other;
* `Registers.store_self`, `Registers.store_other` — what a store changes.
-/

namespace Dimensional.Program

/-- A scalar of any kind. -/
structure AnyScalar where
  kind : ScalarKind
  value : Scalar kind
  deriving DecidableEq

/-- A quantity of any type. -/
structure Held where
  kind : ScalarKind
  dimension : Dimension
  quantity : Quantity dimension kind
  deriving DecidableEq

/-- Why a step is refused. -/
inductive Refusal where
  /-- A register that is read holds nothing. -/
  | noRegister
  /-- The types of the operands do not allow the operation. -/
  | illTyped
  /-- The arithmetic stopped. -/
  | fault (fault : Fault)
  /-- The JSON text that is read does not hold the quantity. -/
  | json (error : Json.Error)
  deriving DecidableEq

/-- A computation on values as a part of a step. -/
def orFault {α : Type} : Except Fault α → Except Refusal α
  | .ok a => .ok a
  | .error fault => .error (.fault fault)

/-- A reading of JSON as a part of a step. -/
def orJson {α : Type} : Except Json.Error α → Except Refusal α
  | .ok a => .ok a
  | .error error => .error (.json error)

/-- A condition on types. -/
def require (p : Prop) [Decidable p] : Except Refusal (PLift p) :=
  if h : p then .ok ⟨h⟩ else .error .illTyped

/-- The scalar in a kind, if it is of that kind. -/
def AnyScalar.as (s : AnyScalar) (k : ScalarKind) : Except Refusal (Scalar k) :=
  if h : s.kind = k then .ok (h ▸ s.value) else .error .illTyped

theorem AnyScalar.as_self {k : ScalarKind} (a : Scalar k) : (AnyScalar.mk k a).as k = .ok a :=
  dif_pos rfl

theorem AnyScalar.as_other {k l : ScalarKind} {a : Scalar k} (h : k ≠ l) :
    (AnyScalar.mk k a).as l = .error .illTyped :=
  dif_neg h

namespace Held

/-- The quantity with its type. -/
abbrev of {d : Dimension} {k : ScalarKind} (q : Quantity d k) : Held := ⟨k, d, q⟩

/-- The bare scalar. -/
def scalar (h : Held) : AnyScalar := ⟨h.kind, h.quantity.value⟩

/-- The quantity in a type, if it is of that type. -/
def as (h : Held) (d : Dimension) (k : ScalarKind) : Except Refusal (Quantity d k) :=
  if same : h.kind = k ∧ h.dimension = d then .ok ⟨same.1 ▸ h.quantity.value⟩ else .error .illTyped

/-- The quantity with a scalar of some kind, if it is of that kind. -/
def ofKind (h : Held) (k : ScalarKind) : Except Refusal (Quantity h.dimension k) :=
  if same : h.kind = k then .ok ⟨same ▸ h.quantity.value⟩ else .error .illTyped

theorem as_self {d : Dimension} {k : ScalarKind} (q : Quantity d k) : (of q).as d k = .ok q := by
  rw [as, dif_pos ⟨rfl, rfl⟩]

theorem as_eq_ok {h : Held} {d : Dimension} {k : ScalarKind} {q : Quantity d k} :
    h.as d k = .ok q ↔ h = of q := by
  constructor
  · intro eq
    unfold as at eq
    split at eq
    · next same =>
      obtain ⟨kind, dimension, quantity⟩ := h
      obtain ⟨rfl, rfl⟩ := same
      rw [← Except.ok.inj eq]
    · exact nomatch eq
  · rintro rfl
    exact as_self q

theorem as_other {d e : Dimension} {k l : ScalarKind} {q : Quantity d k} (h : ¬ (k = l ∧ d = e)) :
    (of q).as e l = .error .illTyped :=
  dif_neg h

theorem ofKind_self {d : Dimension} {k : ScalarKind} (q : Quantity d k) : (of q).ofKind k = .ok q :=
  dif_pos rfl

theorem ofKind_other {d : Dimension} {k l : ScalarKind} {q : Quantity d k} (h : k ≠ l) :
    (of q).ofKind l = .error .illTyped :=
  dif_neg h

end Held

/-- The registers by name; those that were never stored hold nothing. -/
abbrev Registers := String → Option Held

namespace Registers

/-- No register holds anything. -/
def empty : Registers := fun _ => none

/-- The quantity in a register. -/
def fetch (r : Registers) (name : String) : Except Refusal Held :=
  match r name with
  | some h => .ok h
  | none => .error .noRegister

/-- Keep a quantity in a register, whatever was there. -/
def store (r : Registers) (name : String) (h : Held) : Registers :=
  fun other => if other = name then some h else r other

/-- Keep a quantity if a register is named for it. -/
def keep (r : Registers) (target : Option String) (h : Held) : Registers :=
  match target with
  | some name => r.store name h
  | none => r

theorem store_self (r : Registers) (name : String) (h : Held) : (r.store name h) name = some h := if_pos rfl

theorem store_other {r : Registers} {name other : String} {h : Held} (distinct : other ≠ name) :
    (r.store name h) other = r other :=
  if_neg distinct

end Registers

end Dimensional.Program
