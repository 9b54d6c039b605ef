import Dimensional.Format.Spec
import Dimensional.Outcome

/-!
# The axes of the dimension basis

Four physical axes and four that are held in reserve. `PerAxis α` is one value of `α` on each.

* `Axis.mem_all` — the list of axes leaves none out;
* `PerAxis.ext_get` — what stands on the axes determines the whole;
* `PerAxis.buildM_eq_ok` — a build succeeds exactly when no axis fails;
* `PerAxis.buildM_eq_error` — and fails as the first axis that does.
-/

namespace Dimensional

/-- One axis of the basis. -/
inductive Axis where
  /-- Seconds. -/
  | time
  /-- Kilograms. -/
  | mass
  /-- Metres. -/
  | length
  /-- Plane angle in radians. -/
  | angle
  | reserved0
  | reserved1
  | reserved2
  | reserved3
  deriving DecidableEq, Repr

namespace Axis

/-- All axes in basis order. -/
def all : List Axis :=
  [time, mass, length, angle, reserved0, reserved1, reserved2, reserved3]

/-- Place in the basis, from zero. -/
def index : Axis → Nat
  | time => 0
  | mass => 1
  | length => 2
  | angle => 3
  | reserved0 => 4
  | reserved1 => 5
  | reserved2 => 6
  | reserved3 => 7

/-- Lower-case name, as error messages use it. -/
def name : Axis → String
  | time => "time"
  | mass => "mass"
  | length => "length"
  | angle => "angle"
  | reserved0 => "reserved0"
  | reserved1 => "reserved1"
  | reserved2 => "reserved2"
  | reserved3 => "reserved3"

/-- Capitalised name: that of the axis as an item of its own. -/
def title : Axis → String
  | time => "Time"
  | mass => "Mass"
  | length => "Length"
  | angle => "Angle"
  | reserved0 => "Reserved0"
  | reserved1 => "Reserved1"
  | reserved2 => "Reserved2"
  | reserved3 => "Reserved3"

/-- Short symbol, as printed vectors use it. -/
def symbol : Axis → String
  | time => "T"
  | mass => "M"
  | length => "L"
  | angle => "A"
  | reserved0 => "R0"
  | reserved1 => "R1"
  | reserved2 => "R2"
  | reserved3 => "R3"

/-- The axis at a place of the basis. -/
def ofIndex? (i : Nat) : Option Axis := all[i]?

/-- The axes that are not held in reserve. -/
def physical : List Axis := [time, mass, length, angle]

/-- The axis of a lower-case name. -/
def ofName? (s : String) : Option Axis := all.find? fun axis => axis.name == s

/-- The text under a specification; an axis takes no notice of the layout it asks for. -/
def format (spec : Format.Spec) (axis : Axis) : Text :=
  match spec.style with
  | .display => axis.name.toList
  | .debug | .pretty => axis.title.toList

theorem mem_all (axis : Axis) : axis ∈ all := by cases axis <;> decide

theorem ofIndex?_index (axis : Axis) : ofIndex? axis.index = some axis := by cases axis <;> rfl

theorem index_injective {axis other : Axis} (h : axis.index = other.index) : axis = other :=
  Option.some.inj (by rw [← ofIndex?_index axis, h, ofIndex?_index])

end Axis

/-- One value on every axis. -/
structure PerAxis (α : Type) where
  time : α
  mass : α
  length : α
  angle : α
  reserved0 : α
  reserved1 : α
  reserved2 : α
  reserved3 : α
  deriving DecidableEq, Repr

namespace PerAxis

variable {α β : Type}

/-- The value on an axis. -/
def get (v : PerAxis α) : Axis → α
  | .time => v.time
  | .mass => v.mass
  | .length => v.length
  | .angle => v.angle
  | .reserved0 => v.reserved0
  | .reserved1 => v.reserved1
  | .reserved2 => v.reserved2
  | .reserved3 => v.reserved3

/-- The values given axis by axis. -/
def build (f : Axis → α) : PerAxis α where
  time := f .time
  mass := f .mass
  length := f .length
  angle := f .angle
  reserved0 := f .reserved0
  reserved1 := f .reserved1
  reserved2 := f .reserved2
  reserved3 := f .reserved3

/-- The values given axis by axis in basis order; the first axis that fails stops the build. -/
def buildM {ε : Type} (f : Axis → Except ε α) : Except ε (PerAxis α) := do
  let time ← f .time
  let mass ← f .mass
  let length ← f .length
  let angle ← f .angle
  let reserved0 ← f .reserved0
  let reserved1 ← f .reserved1
  let reserved2 ← f .reserved2
  let reserved3 ← f .reserved3
  return { time, mass, length, angle, reserved0, reserved1, reserved2, reserved3 }

/-- The same value everywhere. -/
def const (a : α) : PerAxis α := build fun _ => a

def map (f : α → β) (v : PerAxis α) : PerAxis β := build fun axis => f (v.get axis)

/-- The same values but on one axis. -/
def set (v : PerAxis α) (axis : Axis) (a : α) : PerAxis α :=
  build fun other => if other = axis then a else v.get other

/-- The values in basis order. -/
def toList (v : PerAxis α) : List α := Axis.all.map v.get

/-- The vector of eight values in basis order. -/
def ofList? : List α → Option (PerAxis α)
  | [time, mass, length, angle, reserved0, reserved1, reserved2, reserved3] =>
    some { time, mass, length, angle, reserved0, reserved1, reserved2, reserved3 }
  | _ => none

/-! ### Laws -/

theorem ext_get {v w : PerAxis α} (h : ∀ axis, v.get axis = w.get axis) : v = w := by
  obtain ⟨_, _, _, _, _, _, _, _⟩ := v
  obtain ⟨_, _, _, _, _, _, _, _⟩ := w
  have time := h .time
  have mass := h .mass
  have length := h .length
  have angle := h .angle
  have reserved0 := h .reserved0
  have reserved1 := h .reserved1
  have reserved2 := h .reserved2
  have reserved3 := h .reserved3
  simp only [get] at time mass length angle reserved0 reserved1 reserved2 reserved3
  simp [*]

@[simp] theorem get_build (f : Axis → α) (axis : Axis) : (build f).get axis = f axis := by
  cases axis <;> rfl

@[simp] theorem get_map (f : α → β) (v : PerAxis α) (axis : Axis) :
    (v.map f).get axis = f (v.get axis) := get_build _ _

@[simp] theorem get_const (a : α) (axis : Axis) : (const a).get axis = a := get_build _ _

theorem get_set_self (v : PerAxis α) (axis : Axis) (a : α) : (v.set axis a).get axis = a := by
  rw [set, get_build, if_pos rfl]

theorem get_set_other (v : PerAxis α) {axis other : Axis} (a : α) (h : other ≠ axis) :
    (v.set axis a).get other = v.get other := by
  rw [set, get_build, if_neg h]

@[simp] theorem build_get (v : PerAxis α) : build v.get = v := rfl

theorem ofList?_toList (v : PerAxis α) : ofList? v.toList = some v := rfl

theorem ofList?_eq_some {as : List α} {v : PerAxis α} : ofList? as = some v ↔ v.toList = as := by
  constructor
  · intro h
    unfold ofList? at h
    split at h
    · cases h
      rfl
    · cases h
  · rintro rfl
    exact ofList?_toList v

/-- Eight values make a vector. -/
theorem exists_toList_eq {as : List α} (h : as.length = 8) : ∃ v : PerAxis α, v.toList = as :=
  match as, h with
  | [a0, a1, a2, a3, a4, a5, a6, a7], _ => ⟨⟨a0, a1, a2, a3, a4, a5, a6, a7⟩, rfl⟩

/-- A build that succeeds met no failure on any axis. -/
theorem get_buildM {ε : Type} {f : Axis → Except ε α} {v : PerAxis α} (h : buildM f = .ok v)
    (axis : Axis) : f axis = .ok (v.get axis) := by
  obtain ⟨_, h0, h⟩ := bind_eq_ok.1 h
  obtain ⟨_, h1, h⟩ := bind_eq_ok.1 h
  obtain ⟨_, h2, h⟩ := bind_eq_ok.1 h
  obtain ⟨_, h3, h⟩ := bind_eq_ok.1 h
  obtain ⟨_, h4, h⟩ := bind_eq_ok.1 h
  obtain ⟨_, h5, h⟩ := bind_eq_ok.1 h
  obtain ⟨_, h6, h⟩ := bind_eq_ok.1 h
  obtain ⟨_, h7, h⟩ := bind_eq_ok.1 h
  cases h
  cases axis <;> assumption

/-- A build in which no axis fails succeeds. -/
theorem buildM_of_get {ε : Type} {f : Axis → Except ε α} {v : PerAxis α}
    (h : ∀ axis, f axis = .ok (v.get axis)) : buildM f = .ok v := by
  simp only [buildM, h]
  rfl

theorem buildM_eq_ok {ε : Type} {f : Axis → Except ε α} {v : PerAxis α} :
    buildM f = .ok v ↔ ∀ axis, f axis = .ok (v.get axis) := ⟨get_buildM, buildM_of_get⟩

/-- No axis below a place of the basis fails. -/
def SoundBelow {ε : Type} (f : Axis → Except ε α) (place : Nat) : Prop :=
  ∀ axis : Axis, axis.index < place → ∃ a, f axis = .ok a

theorem SoundBelow.succ {ε : Type} {f : Axis → Except ε α} {axis : Axis} {a : α}
    (below : SoundBelow f axis.index) (h : f axis = .ok a) : SoundBelow f (axis.index + 1) := by
  intro other hother
  rcases Nat.lt_succ_iff_lt_or_eq.1 hother with hless | hsame
  · exact below other hless
  · rw [Axis.index_injective hsame]
    exact ⟨a, h⟩

/-- The first failure of a build, its axis and the axes before it. -/
theorem first_of_buildM {ε : Type} {f : Axis → Except ε α} {e : ε} (h : buildM f = .error e) :
    ∃ axis, f axis = .error e ∧ SoundBelow f axis.index := by
  have below : SoundBelow f Axis.time.index := fun axis hless => absurd hless (Nat.not_lt_zero _)
  rcases bind_eq_error.1 h with fails | ⟨_, sound, h⟩
  · exact ⟨.time, fails, below⟩
  replace below : SoundBelow f Axis.mass.index := below.succ sound
  rcases bind_eq_error.1 h with fails | ⟨_, sound, h⟩
  · exact ⟨.mass, fails, below⟩
  replace below : SoundBelow f Axis.length.index := below.succ sound
  rcases bind_eq_error.1 h with fails | ⟨_, sound, h⟩
  · exact ⟨.length, fails, below⟩
  replace below : SoundBelow f Axis.angle.index := below.succ sound
  rcases bind_eq_error.1 h with fails | ⟨_, sound, h⟩
  · exact ⟨.angle, fails, below⟩
  replace below : SoundBelow f Axis.reserved0.index := below.succ sound
  rcases bind_eq_error.1 h with fails | ⟨_, sound, h⟩
  · exact ⟨.reserved0, fails, below⟩
  replace below : SoundBelow f Axis.reserved1.index := below.succ sound
  rcases bind_eq_error.1 h with fails | ⟨_, sound, h⟩
  · exact ⟨.reserved1, fails, below⟩
  replace below : SoundBelow f Axis.reserved2.index := below.succ sound
  rcases bind_eq_error.1 h with fails | ⟨_, sound, h⟩
  · exact ⟨.reserved2, fails, below⟩
  replace below : SoundBelow f Axis.reserved3.index := below.succ sound
  rcases bind_eq_error.1 h with fails | ⟨_, _, h⟩
  · exact ⟨.reserved3, fails, below⟩
  cases h

/-- A build fails as the first axis that fails. -/
theorem buildM_eq_error {ε : Type} {f : Axis → Except ε α} {e : ε} :
    buildM f = .error e ↔ ∃ axis, f axis = .error e ∧ SoundBelow f axis.index := by
  refine ⟨first_of_buildM, fun ⟨axis, fails, below⟩ => ?_⟩
  cases h : buildM f with
  | ok v => exact nomatch fails.symm.trans (get_buildM h axis)
  | error e' =>
    -- of two first failures neither comes before the other
    obtain ⟨first, fails', below'⟩ := first_of_buildM h
    rcases Nat.lt_trichotomy axis.index first.index with hless | hsame | hless
    · obtain ⟨_, sound⟩ := below' axis hless
      exact nomatch fails.symm.trans sound
    · cases Axis.index_injective hsame
      exact congrArg _ (Except.error.inj (fails'.symm.trans fails))
    · obtain ⟨_, sound⟩ := below first hless
      exact nomatch fails'.symm.trans sound

end PerAxis

end Dimensional
