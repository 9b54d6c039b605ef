import Dimensional.Proofs.Program.Conversions
import Dimensional.Proofs.Quantity.Integers
import Mathlib.Data.List.Basic

/-!
# Updates in place

An update changes the quantity in a register by another quantity of its type or by a bare scalar.  It is
refused exactly where the operation is that makes a new quantity of the same operands, and with the same
refusal; it then leaves all registers alone, since it writes its register only once the result is there.
Otherwise its register holds afterwards what that operation makes, of the type that it had before, and the other
registers what they held.

* `step_eq_compute`, `step_byValue` — both forms in terms of one computation;
* `compute_type`, `joint_illTyped_iff`, `scaling_illTyped_iff` — the types of operands and result;
* `joint_fault_iff`, `scaling_fault_iff`, `compute_float` — where the arithmetic stops;
* `perform_of_refused`, `perform_of_computed` — what an update does to the registers;
* `run_types`, `run_untouched` — and what a whole run of them does;
* `run_inFull` — it does the same with every update written in full;
* `updates_in_place` — all of this together.
-/

namespace Dimensional

/-! ### Where the arithmetic on integers stops -/

theorem IntKind.one_lt_max (k : IntKind) : 1 < k.max := by
  obtain ⟨signed, width⟩ := k
  cases signed <;> cases width <;> decide

theorem IntKind.min_of_signed {k : IntKind} (h : k.signed = true) : k.min = -k.max - 1 := by
  simp only [IntKind.min, IntKind.max, h, if_true]
  omega

/-- A quotient leaves the range only where the least value with a sign is divided by `-1`. -/
theorem Fixed.not_holds_tdiv_iff {k : IntKind} (a b : Fixed k) (hb : b.toInt ≠ 0) :
    ¬ k.Holds (a.toInt.tdiv b.toInt) ↔ k.signed = true ∧ a.toInt = k.min ∧ b.toInt = -1 := by
  have hmax := k.one_lt_max
  have hzero : k.min ≤ 0 := k.holds_zero.1
  obtain ⟨amin, amax⟩ := a.holds
  obtain ⟨bmin, bmax⟩ := b.holds
  have hle : (a.toInt.tdiv b.toInt).natAbs ≤ a.toInt.natAbs := Int.natAbs_tdiv_le_natAbs _ _
  cases hsign : k.signed with
  | false =>
    have hmin : k.min = 0 := by simp [IntKind.min, hsign]
    have hnonneg : 0 ≤ a.toInt.tdiv b.toInt := Int.tdiv_nonneg (by omega) (by omega)
    refine ⟨fun h => absurd ⟨?_, ?_⟩ h, fun h => nomatch h.1⟩ <;> omega
  | true =>
    have hmin := IntKind.min_of_signed hsign
    by_cases hminus : b.toInt = -1
    · have hneg : a.toInt.tdiv b.toInt = -a.toInt := by simp [hminus]
      rw [hneg]
      simp only [IntKind.Holds, hminus, true_and, and_true]
      omega
    · by_cases hone : b.toInt = 1
      · have hsame : a.toInt.tdiv b.toInt = a.toInt := by simp [hone]
        rw [hsame]
        exact ⟨fun h => absurd a.holds h, fun h => absurd h.2.2 hminus⟩
      · -- two at least in magnitude, so that half of the range is enough
        have htwo : 2 ≤ b.toInt.natAbs := by omega
        have hhalf : (a.toInt.tdiv b.toInt).natAbs ≤ a.toInt.natAbs / 2 := by
          rw [Int.natAbs_tdiv]
          exact Nat.div_le_div_left htwo (by omega)
        refine ⟨fun h => absurd ⟨?_, ?_⟩ h, fun h => absurd h.2.2 hminus⟩ <;> omega

namespace Program

variable {d : Dimension} {k : ScalarKind} {l : IntKind}

/-- The update of an integer by another stops with this fault. -/
def JointUpdate.FailsWith (op : JointUpdate) (l : IntKind) (a b : Int) (fault : Fault) : Prop :=
  match op with
  | .add => ¬ l.Holds (a + b) ∧ fault = .addOverflow
  | .sub => ¬ l.Holds (a - b) ∧ fault = .subOverflow

/-- The update of an integer by a bare one stops with this fault. -/
def ScalingUpdate.FailsWith (op : ScalingUpdate) (l : IntKind) (a b : Int) (fault : Fault) : Prop :=
  match op with
  | .mul => ¬ l.Holds (a * b) ∧ fault = .mulOverflow
  | .div => (b = 0 ∧ fault = .divideByZero) ∨
      (l.signed = true ∧ a = l.min ∧ b = -1 ∧ fault = .divOverflow)

theorem JointUpdate.apply_eq_error (op : JointUpdate) (q q' : Quantity d (.int l)) (fault : Fault) :
    op.byValue.apply q q' = .error fault ↔ op.FailsWith l q.toInt q'.toInt fault := by
  cases op with
  | add => exact Quantity.add_eq_error
  | sub => exact Quantity.sub_eq_error

theorem ScalingUpdate.apply_eq_error (op : ScalingUpdate) (q : Quantity d (.int l)) (s : Fixed l)
    (fault : Fault) : op.byValue.apply q s = .error fault ↔ op.FailsWith l q.toInt s.toInt fault := by
  cases op with
  | mul => exact Quantity.scale_eq_error
  | div =>
    have hdiv : ScalingUpdate.div.byValue.apply q s = .error fault ↔ _ := Quantity.unscale_eq_error
    rw [hdiv, ScalingUpdate.FailsWith]
    by_cases hzero : s.toInt = 0
    · simp [hzero]
    · have hrange := Fixed.not_holds_tdiv_iff q.value s hzero
      simp [hzero, hrange, and_assoc]

/-- Arithmetic in floating point does not stop. -/
theorem JointUpdate.apply_float (op : JointUpdate) {p : Precision} (q q' : Quantity d (.float p)) :
    ∃ s, op.byValue.apply q q' = .ok s := by
  cases op <;> exact ⟨_, rfl⟩

theorem ScalingUpdate.apply_float (op : ScalingUpdate) {p : Precision} (q : Quantity d (.float p))
    (s : Binary p) : ∃ t, op.byValue.apply q s = .ok t := by
  cases op <;> exact ⟨_, rfl⟩

/-! ### One computation for both forms -/

/-- A step that changes the quantity in a register. -/
inductive Update where
  /-- By the quantity in another register, or in the same one. -/
  | joint (op : JointUpdate) (register other : String)
  | scaling (op : ScalingUpdate) (register : String) (scalar : AnyScalar)

namespace Update

/-- The register that is changed. -/
def register : Update → String
  | joint _ a _ => a
  | scaling _ a _ => a

def step : Update → Step
  | joint op a b => .jointUpdate op a b
  | scaling op a s => .scalingUpdate op a s

/-- The operation that makes a new quantity of the same operands. -/
def byValue (target : Option String) : Update → Step
  | joint op a b => .joint op.byValue a b target
  | scaling op a s => .scaling op.byValue a s target

/-- What either form computes. -/
def compute (r : Registers) : Update → Except Refusal Held
  | joint op a b => do
    let h ← r.fetch a
    let q ← (← r.fetch b).as h.dimension h.kind
    return .of (← orFault (op.byValue.apply h.quantity q))
  | scaling op a s => do
    let h ← r.fetch a
    let s ← s.as h.kind
    return .of (← orFault (op.byValue.apply h.quantity s))

variable {r : Registers} {u : Update}

theorem step_byValue (r : Registers) (u : Update) (target : Option String) :
    r.step (u.byValue target) = r.give target <$> u.compute r := by
  cases u with
  | joint op a b => simp [byValue, Registers.step, compute, map_bind]
  | scaling op a s => simp [byValue, Registers.step, compute, map_bind]

/-- A change in place is the operation that keeps its result in the register. -/
theorem step_eq_byValue (r : Registers) (u : Update) : r.step u.step = r.step (u.byValue (some u.register)) := by
  cases u with
  | joint op a b => exact r.step_jointUpdate op a b
  | scaling op a s => exact r.step_scalingUpdate op a s

theorem step_eq_compute (r : Registers) (u : Update) :
    r.step u.step = r.give (some u.register) <$> u.compute r := by
  rw [step_eq_byValue, step_byValue]

/-- What is computed has the type of the quantity in the register. -/
theorem compute_type {q : Held} (h : u.compute r = .ok q) :
    ∃ old, r u.register = some old ∧ q.kind = old.kind ∧ q.dimension = old.dimension := by
  have hfetch : ∀ {name : String} {old : Held}, r.fetch name = .ok old → r name = some old := by
    intro name old hold
    unfold Registers.fetch at hold
    split at hold
    · next found hname => rw [hname, Except.ok.inj hold]
    · cases hold
  cases u with
  | joint op a b =>
    obtain ⟨old, hold, h⟩ := bind_eq_ok.1 h
    obtain ⟨g, -, h⟩ := bind_eq_ok.1 h
    obtain ⟨q', -, h⟩ := bind_eq_ok.1 h
    obtain ⟨result, -, h⟩ := bind_eq_ok.1 h
    cases h
    exact ⟨old, hfetch hold, rfl, rfl⟩
  | scaling op a s =>
    obtain ⟨old, hold, h⟩ := bind_eq_ok.1 h
    obtain ⟨t, -, h⟩ := bind_eq_ok.1 h
    obtain ⟨result, -, h⟩ := bind_eq_ok.1 h
    cases h
    exact ⟨old, hfetch hold, rfl, rfl⟩

theorem compute_joint {h g : Held} {a b : String} (op : JointUpdate) (ha : r a = some h) (hb : r b = some g) :
    (joint op a b).compute r = do
      let q ← g.as h.dimension h.kind
      return .of (← orFault (op.byValue.apply h.quantity q)) := by
  rw [compute, bind_of_ok (fetch_of_eq_some ha), bind_of_ok (fetch_of_eq_some hb)]

theorem compute_scaling {h : Held} {a : String} (op : ScalingUpdate) (s : AnyScalar) (ha : r a = some h) :
    (scaling op a s).compute r = do
      let t ← s.as h.kind
      return .of (← orFault (op.byValue.apply h.quantity t)) := by
  rw [compute, bind_of_ok (fetch_of_eq_some ha)]

/-! ### What is refused -/

theorem orFault_eq_error {α : Type} {x : Except Fault α} {refusal : Refusal} :
    orFault x = .error refusal ↔ ∃ fault, x = .error fault ∧ refusal = .fault fault := by
  cases x with
  | error fault =>
    exact ⟨fun h => ⟨fault, rfl, (Except.error.inj h).symm⟩, fun ⟨_, h, e⟩ => by cases h; rw [e]; rfl⟩
  | ok a => exact ⟨nofun, fun ⟨_, h, _⟩ => nomatch h⟩

/-- Where the operands are in order, only the arithmetic is left to stop. -/
theorem keep_eq_error {x : Except Fault (Quantity d k)} {refusal : Refusal} :
    (do return Held.of (← orFault x) : Except Refusal Held) = .error refusal ↔
      ∃ fault, x = .error fault ∧ refusal = .fault fault := by
  rw [← orFault_eq_error]
  cases orFault x with
  | error other => exact ⟨fun h => by cases h; rfl, fun h => by cases h; rfl⟩
  | ok a => exact ⟨nofun, nofun⟩

theorem joint_eq_error {op : JointUpdate} {a b : String} {q q' : Quantity d k} {refusal : Refusal}
    (ha : r a = some (.of q)) (hb : r b = some (.of q')) :
    (joint op a b).compute r = .error refusal ↔
      ∃ fault, op.byValue.apply q q' = .error fault ∧ refusal = .fault fault := by
  rw [compute_joint op ha hb, bind_of_ok (Held.as_self q')]
  exact keep_eq_error

theorem scaling_eq_error {op : ScalingUpdate} {a : String} {q : Quantity d k} {s : Scalar k} {refusal : Refusal}
    (ha : r a = some (.of q)) :
    (scaling op a ⟨k, s⟩).compute r = .error refusal ↔
      ∃ fault, op.byValue.apply q s = .error fault ∧ refusal = .fault fault := by
  rw [compute_scaling op _ ha, bind_of_ok (AnyScalar.as_self s)]
  exact keep_eq_error

/-- The types refuse an update by a quantity of another type, and only such a one. -/
theorem joint_illTyped_iff {op : JointUpdate} {a b : String} {h g : Held} (ha : r a = some h) (hb : r b = some g) :
    (joint op a b).compute r = .error .illTyped ↔ ¬ (g.kind = h.kind ∧ g.dimension = h.dimension) := by
  obtain ⟨k, d, q⟩ := h
  obtain ⟨l, e, q'⟩ := g
  by_cases hsame : l = k ∧ e = d
  · obtain ⟨rfl, rfl⟩ := hsame
    rw [joint_eq_error ha hb]
    exact ⟨fun ⟨_, _, h⟩ => (nomatch h), fun h => absurd ⟨rfl, rfl⟩ h⟩
  · rw [compute_joint op ha hb, bind_of_error (Held.as_other hsame)]
    exact ⟨fun _ => hsame, fun _ => rfl⟩

theorem scaling_illTyped_iff {op : ScalingUpdate} {a : String} {s : AnyScalar} {h : Held} (ha : r a = some h) :
    (scaling op a s).compute r = .error .illTyped ↔ s.kind ≠ h.kind := by
  obtain ⟨k, d, q⟩ := h
  obtain ⟨l, t⟩ := s
  by_cases hsame : l = k
  · subst hsame
    rw [scaling_eq_error ha]
    exact ⟨fun ⟨_, _, h⟩ => (nomatch h), fun h => absurd rfl h⟩
  · rw [compute_scaling op _ ha, bind_of_error (AnyScalar.as_other hsame)]
    exact ⟨fun _ => hsame, fun _ => rfl⟩

theorem joint_fault_iff {op : JointUpdate} {a b : String} {q q' : Quantity d (.int l)} {fault : Fault}
    (ha : r a = some (.of q)) (hb : r b = some (.of q')) :
    (joint op a b).compute r = .error (.fault fault) ↔ op.FailsWith l q.toInt q'.toInt fault := by
  rw [joint_eq_error ha hb, ← op.apply_eq_error]
  exact ⟨fun ⟨_, h, e⟩ => by cases e; exact h, fun h => ⟨fault, h, rfl⟩⟩

theorem scaling_fault_iff {op : ScalingUpdate} {a : String} {q : Quantity d (.int l)} {s : Fixed l} {fault : Fault}
    (ha : r a = some (.of q)) :
    (scaling op a ⟨.int l, s⟩).compute r = .error (.fault fault) ↔ op.FailsWith l q.toInt s.toInt fault := by
  rw [scaling_eq_error ha, ← op.apply_eq_error]
  exact ⟨fun ⟨_, h, e⟩ => by cases e; exact h, fun h => ⟨fault, h, rfl⟩⟩

/-- The arithmetic on floating-point values stops nothing. -/
theorem compute_float {p : Precision} {q : Quantity d (.float p)} (ha : r u.register = some (.of q))
    (fault : Fault) : u.compute r ≠ .error (.fault fault) := by
  intro hstops
  cases u with
  | joint op a b =>
    have ha : r a = some (.of q) := ha
    cases hb : r b with
    | none =>
      rw [compute, bind_of_ok (fetch_of_eq_some ha), Registers.fetch, hb] at hstops
      cases hstops
    | some g =>
      obtain ⟨l, e, q'⟩ := g
      by_cases hsame : l = .float p ∧ e = d
      · obtain ⟨rfl, rfl⟩ := hsame
        obtain ⟨s, hs⟩ := op.apply_float q q'
        obtain ⟨other, hother, -⟩ := (joint_eq_error ha hb).1 hstops
        rw [hs] at hother
        cases hother
      · rw [(joint_illTyped_iff ha hb).2 hsame] at hstops
        cases hstops
  | scaling op a s =>
    have ha : r a = some (.of q) := ha
    obtain ⟨l, t⟩ := s
    by_cases hsame : l = .float p
    · subst hsame
      obtain ⟨t', ht'⟩ := op.apply_float q t
      obtain ⟨other, hother, -⟩ := (scaling_eq_error ha).1 hstops
      rw [ht'] at hother
      cases hother
    · have htype : (scaling op a ⟨l, t⟩).compute r = .error .illTyped := (scaling_illTyped_iff ha).2 hsame
      rw [htype] at hstops
      cases hstops

/-! ### What an update does to the registers -/

theorem step_eq_error {refusal : Refusal} : r.step u.step = .error refusal ↔ u.compute r = .error refusal := by
  rw [step_eq_compute]
  cases u.compute r with
  | error other => exact ⟨fun h => by cases h; rfl, fun h => by cases h; rfl⟩
  | ok q => exact ⟨nofun, nofun⟩

theorem byValue_eq_error {refusal : Refusal} (target : Option String) :
    r.step (u.byValue target) = .error refusal ↔ u.compute r = .error refusal := by
  rw [step_byValue]
  cases u.compute r with
  | error other => exact ⟨fun h => by cases h; rfl, fun h => by cases h; rfl⟩
  | ok q => exact ⟨nofun, nofun⟩

theorem byValue_eq_ok {answer : Answer} {after : Registers} (target : Option String) :
    r.step (u.byValue target) = .ok (answer, after) ↔
      ∃ q, u.compute r = .ok q ∧ r.give target q = (answer, after) := by
  rw [step_byValue, map_eq_ok]

/-- **A refused update changes nothing.**  Each of the changes of a scalar is one operation on it: this checks its
result first and stores it last, so that there is no moment at which it is refused and has stored something.  A
step says so by its type, as one that is refused has no registers to hand on; what is proved here is that it is
refused where the computation is. -/
theorem perform_of_refused {refusal : Refusal} (h : u.compute r = .error refusal) :
    r.perform u.step = (.error refusal, r) := by
  rw [Registers.perform, step_eq_error.2 h]

/-- **An update that is not refused changes its register**, and no other. -/
theorem perform_of_computed {q : Held} (h : u.compute r = .ok q) :
    r.perform u.step = (.ok (.quantity q), r.store u.register q) := by
  rw [Registers.perform, step_eq_compute, h]
  rfl

/-! ### Runs of updates -/

/-- The type of what a register holds, if it holds something. -/
def typeIn (r : Registers) (name : String) : Option (ScalarKind × Dimension) :=
  (r name).map fun h => (h.kind, h.dimension)

/-- One update keeps the types of all registers. -/
theorem perform_types (r : Registers) (u : Update) (name : String) :
    typeIn (r.perform u.step).2 name = typeIn r name := by
  cases h : u.compute r with
  | error refusal => rw [perform_of_refused h]
  | ok q =>
    obtain ⟨old, hold, hkind, hdimension⟩ := compute_type h
    rw [perform_of_computed h]
    by_cases hname : name = u.register
    · subst hname
      simp [typeIn, Registers.store_self, hold, hkind, hdimension]
    · simp [typeIn, Registers.store_other hname]

/-- One update keeps what is in the other registers. -/
theorem perform_untouched (r : Registers) (u : Update) {name : String} (h : u.register ≠ name) :
    (r.perform u.step).2 name = r name := by
  cases hcompute : u.compute r with
  | error refusal => rw [perform_of_refused hcompute]
  | ok q =>
    rw [perform_of_computed hcompute]
    exact Registers.store_other (Ne.symm h)

theorem run_cons (r : Registers) (s : Step) (steps : List Step) :
    (r.run (s :: steps)).2 = ((r.perform s).2.run steps).2 := rfl

/-- **A run of updates keeps the types of all registers.** -/
theorem run_types (r : Registers) (us : List Update) (name : String) :
    typeIn (r.run (us.map step)).2 name = typeIn r name := by
  induction us generalizing r with
  | nil => rfl
  | cons u us ih =>
    have hfirst := perform_types r u name
    rw [List.map_cons, run_cons, ih, hfirst]

/-- **A run of updates keeps what is in the registers that it does not change.** -/
theorem run_untouched (r : Registers) (us : List Update) {name : String} (h : ∀ u ∈ us, u.register ≠ name) :
    (r.run (us.map step)).2 name = r name := by
  induction us generalizing r with
  | nil => rfl
  | cons u us ih =>
    have hfirst := perform_untouched r u (h u List.mem_cons_self)
    rw [List.map_cons, run_cons, ih _ fun v hv => h v (List.mem_cons_of_mem _ hv), hfirst]

end Update

/-- The step with a change in place made into an operation that keeps its result in the same register. -/
def Step.inFull : Step → Step
  | .jointUpdate op a b => .joint op.byValue a b (some a)
  | .scalingUpdate op a s => .scaling op.byValue a s (some a)
  | s => s

theorem Registers.step_inFull (r : Registers) (s : Step) : r.step s.inFull = r.step s := by
  cases s
  case jointUpdate op a b => exact (r.step_jointUpdate op a b).symm
  case scalingUpdate op a s => exact (r.step_scalingUpdate op a s).symm
  all_goals rfl

/-- **A program is run as well with every change in place written in full.** -/
theorem Registers.run_inFull (r : Registers) (steps : List Step) : r.run (steps.map Step.inFull) = r.run steps := by
  induction steps generalizing r with
  | nil => rfl
  | cons s steps ih =>
    have hfirst : r.perform s.inFull = r.perform s := by
      rw [Registers.perform, Registers.step_inFull, Registers.perform]
    simp only [List.map_cons, Registers.run, hfirst, ih]

/-! ### A new scalar -/

/-- A new scalar of the same kind is put into the register, and nothing else changes. -/
theorem perform_set {r : Registers} {a : String} (q : Quantity d k) (t : Scalar k) (ha : r a = some (.of q)) :
    r.perform (.set a ⟨k, t⟩) =
      (.ok (.quantity ⟨k, d, ⟨t⟩⟩), r.store a ⟨k, d, ⟨t⟩⟩) := by
  have hstep : r.step (.set a ⟨k, t⟩) = .ok (.quantity ⟨k, d, ⟨t⟩⟩, r.store a ⟨k, d, ⟨t⟩⟩) := by
    rw [Registers.step, bind_of_ok (fetch_of_eq_some ha), bind_of_ok (AnyScalar.as_self t)]
    rfl
  rw [Registers.perform, hstep]

/-- A scalar of another kind is refused. -/
theorem perform_set_other {r : Registers} {a : String} {h : Held} {s : AnyScalar} (ha : r a = some h)
    (hkind : s.kind ≠ h.kind) : r.perform (.set a s) = (.error .illTyped, r) := by
  have hstep : r.step (.set a s) = .error .illTyped := by
    rw [Registers.step, bind_of_ok (fetch_of_eq_some ha), bind_of_error (AnyScalar.as_other hkind)]
  rw [Registers.perform, hstep]

/-! ### All together -/

/-- The register holds this quantity now, and the others hold what they held. -/
def Registers.Changed (r : Registers) (name : String) (q : Held) (after : Registers) : Prop :=
  after name = some q ∧ ∀ other, other ≠ name → after other = r other

theorem Registers.changed_store (r : Registers) (name : String) (q : Held) : r.Changed name q (r.store name q) :=
  ⟨r.store_self name q, fun _ h => store_other h⟩

/-- **Updates are atomic, and keep the type.**  In any registers an update is refused as the operation is
that makes a new quantity of the same operands, and then leaves the registers as they are; otherwise its
register, and no other, holds what that operation makes, in the type that it had.  The types refuse exactly
the operands of another type or kind.  On integers the arithmetic stops at an overflow, at zero as a divisor,
and at the least value over `-1`; in floating point it does not stop.  A run of updates keeps the types of
all registers, and leaves alone those that it does not change; and a program is run as well with every update
written in full.  Putting a new scalar into a register changes the scalar alone. -/
theorem updates_in_place :
    (∀ (r : Registers) (u : Update),
      (∀ refusal, r.step u.step = .error refusal ↔ r.step (u.byValue none) = .error refusal) ∧
      (∀ refusal, r.step (u.byValue none) = .error refusal → r.perform u.step = (.error refusal, r)) ∧
      (∀ answer same, r.step (u.byValue none) = .ok (answer, same) →
        ∃ old q after, r u.register = some old ∧ answer = .quantity q ∧ same = r ∧
          q.kind = old.kind ∧ q.dimension = old.dimension ∧
          r.perform u.step = (.ok (.quantity q), after) ∧ r.Changed u.register q after)) ∧
    (∀ (r : Registers) (op : JointUpdate) (a b : String) (h g : Held), r a = some h → r b = some g →
      (r.step (.jointUpdate op a b) = .error .illTyped ↔ ¬ (g.kind = h.kind ∧ g.dimension = h.dimension))) ∧
    (∀ (r : Registers) (op : ScalingUpdate) (a : String) (s : AnyScalar) (h : Held), r a = some h →
      (r.step (.scalingUpdate op a s) = .error .illTyped ↔ s.kind ≠ h.kind)) ∧
    (∀ (r : Registers) (d : Dimension) (l : IntKind) (q : Quantity d (.int l)) (a : String) (fault : Fault),
      r a = some (.of q) →
        (∀ op b q', r b = some (Held.of (q' : Quantity d (.int l))) →
          (r.step (.jointUpdate op a b) = .error (.fault fault) ↔ op.FailsWith l q.toInt q'.toInt fault)) ∧
        (∀ op (s : Fixed l), r.step (.scalingUpdate op a ⟨.int l, s⟩) = .error (.fault fault) ↔
          op.FailsWith l q.toInt s.toInt fault)) ∧
    (∀ (r : Registers) (u : Update) (d : Dimension) (p : Precision) (q : Quantity d (.float p)) (fault : Fault),
      r u.register = some (.of q) → r.step u.step ≠ .error (.fault fault)) ∧
    (∀ (r : Registers) (us : List Update) (name : String),
      Update.typeIn (r.run (us.map Update.step)).2 name = Update.typeIn r name ∧
      ((∀ u ∈ us, u.register ≠ name) → (r.run (us.map Update.step)).2 name = r name)) ∧
    (∀ (r : Registers) (steps : List Step), r.run (steps.map Step.inFull) = r.run steps) ∧
    (∀ (r : Registers) (a : String) (h : Held), r a = some h →
      (∀ s : AnyScalar, s.kind ≠ h.kind → r.perform (.set a s) = (.error .illTyped, r)) ∧
      (∀ t : Scalar h.kind, ∃ after, r.perform (.set a ⟨h.kind, t⟩) =
        (.ok (.quantity ⟨h.kind, h.dimension, ⟨t⟩⟩), after) ∧
          r.Changed a ⟨h.kind, h.dimension, ⟨t⟩⟩ after)) := by
  refine ⟨?_, ?_, ?_, ?_, ?_, ?_, Registers.run_inFull, ?_⟩
  · intro r u
    refine ⟨fun refusal => ?_, fun refusal hrefused => ?_, fun answer same hanswer => ?_⟩
    · rw [Update.step_eq_error, Update.byValue_eq_error]
    · exact Update.perform_of_refused ((Update.byValue_eq_error none).1 hrefused)
    · obtain ⟨q, hq, hgive⟩ := (Update.byValue_eq_ok none).1 hanswer
      obtain ⟨old, hold, hkind, hdimension⟩ := Update.compute_type hq
      cases hgive
      exact ⟨old, q, _, hold, rfl, rfl, hkind, hdimension, Update.perform_of_computed hq,
        r.changed_store u.register q⟩
  · intro r op a b h g ha hb
    exact (Update.step_eq_error (u := .joint op a b)).trans (Update.joint_illTyped_iff ha hb)
  · intro r op a s h ha
    exact (Update.step_eq_error (u := .scaling op a s)).trans (Update.scaling_illTyped_iff ha)
  · intro r d l q a fault ha
    refine ⟨fun op b q' hb => ?_, fun op s => ?_⟩
    · exact (Update.step_eq_error (u := .joint op a b)).trans (Update.joint_fault_iff ha hb)
    · exact (Update.step_eq_error (u := .scaling op a ⟨.int l, s⟩)).trans (Update.scaling_fault_iff ha)
  · intro r u d p q fault ha hstops
    exact Update.compute_float ha fault (Update.step_eq_error.1 hstops)
  · intro r us name
    exact ⟨Update.run_types r us name, Update.run_untouched r us⟩
  · intro r a h ha
    refine ⟨fun s hkind => perform_set_other ha hkind, fun t => ?_⟩
    exact ⟨_, perform_set h.quantity t ha, r.changed_store a _⟩

/-- The least time in eight bits, in one register. -/
def leastTime : Registers :=
  Registers.empty.store "t" ⟨.int ⟨true, .w8⟩, .vector Catalogue.time.exponents, ⟨⟨-128, by decide, by decide⟩⟩⟩

/-- Adding the least value to itself overflows, and so does dividing it by `-1`; half of it is kept. -/
theorem updates_in_place_leastTime :
    leastTime.perform (.jointUpdate .add "t" "t") = (.error (.fault .addOverflow), leastTime) ∧
    leastTime.perform (.scalingUpdate .div "t" ⟨.int ⟨true, .w8⟩, ⟨-1, by decide, by decide⟩⟩) =
      (.error (.fault .divOverflow), leastTime) ∧
    ∃ q after, leastTime.perform (.scalingUpdate .div "t" ⟨.int ⟨true, .w8⟩, ⟨2, by decide, by decide⟩⟩) =
        (.ok (.quantity q), after) ∧ leastTime.Changed "t" q after ∧
          q.dimension = .vector Catalogue.time.exponents := by
  obtain ⟨hone, -, -, hfault, -⟩ := updates_in_place
  have hleast : leastTime "t" = some (Held.of (k := .int ⟨true, .w8⟩) (d := .vector Catalogue.time.exponents)
      ⟨⟨-128, by decide, by decide⟩⟩) := rfl
  have hadd := ((hfault leastTime _ _ _ "t" .addOverflow hleast).1 .add "t" _ hleast).2 ⟨by decide, rfl⟩
  have hdiv := ((hfault leastTime _ _ _ "t" .divOverflow hleast).2 .div ⟨-1, by decide, by decide⟩).2
    (.inr ⟨rfl, rfl, rfl, rfl⟩)
  obtain ⟨hiff, hrefused, -⟩ := hone leastTime (.joint .add "t" "t")
  obtain ⟨hiff', hrefused', -⟩ :=
    hone leastTime (.scaling .div "t" ⟨.int ⟨true, .w8⟩, ⟨-1, by decide, by decide⟩⟩)
  obtain ⟨-, -, hcomputed⟩ := hone leastTime (.scaling .div "t" ⟨.int ⟨true, .w8⟩, ⟨2, by decide, by decide⟩⟩)
  refine ⟨hrefused _ ((hiff _).1 hadd), hrefused' _ ((hiff' _).1 hdiv), ?_⟩
  obtain ⟨old, q, after, hold, -, -, -, hdimension, hperform, hchanged⟩ := hcomputed _ _ rfl
  have hsame : some old = leastTime "t" := hold.symm
  rw [hleast] at hsame
  cases hsame
  exact ⟨q, after, hperform, hchanged, hdimension⟩

end Program

end Dimensional
