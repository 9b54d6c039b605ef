import Dimensional.Program.Step
import Mathlib.Data.List.Forall2
import Mathlib.Data.Option.Basic

/-!
# Two runs side by side

The same step is taken from two register files whose quantities correspond.  `Parallel rel x y` says that
both sides are refused for the same reason, or that both come to related results, unless the arithmetic
stops one of them.  `Follows excused rel x y` says this of one side only: the second one goes as the first
one does, unless that is refused for a reason that is excused.

* `Parallel.bind`, `Parallel.orFault` — a step goes in parallel when its parts do;
* `Parallel.fetch`, `Parallel.give` — the registers correspond before and after;
* `Follows.bind`, `Follows.require`, `Follows.fetch` — the same for one side that follows another;
* `Lockstep.of_performed`, `Lockstep.of_steps`, `Lockstep.of_follows` — what every step keeps, a run keeps;
* `Lockstep.take`, `Lockstep.answers`, `Lockstep.answers_eq` — what that says after so many steps;
* `Lockstep.proceeds` — and of what stops the second run.
-/

namespace Dimensional.Program

variable {α α' β β' : Type}

/-- The two sides go the same way, unless the arithmetic stops one of them. -/
inductive Parallel (rel : α → α' → Prop) : Except Refusal α → Except Refusal α' → Prop where
  | ok {a : α} {a' : α'} (related : rel a a') : Parallel rel (.ok a) (.ok a')
  | refused {e : Refusal} : Parallel rel (.error e) (.error e)
  | faultLeft (fault : Fault) (y : Except Refusal α') : Parallel rel (.error (.fault fault)) y
  | faultRight (x : Except Refusal α) (fault : Fault) : Parallel rel x (.error (.fault fault))

namespace Parallel

variable {rel : α → α' → Prop} {rel' : β → β' → Prop} {x : Except Refusal α} {y : Except Refusal α'}

/-- One part after the other. -/
theorem bind {f : α → Except Refusal β} {g : α' → Except Refusal β'} (h : Parallel rel x y)
    (hnext : ∀ a a', x = .ok a → y = .ok a' → rel a a' → Parallel rel' (f a) (g a')) :
    Parallel rel' (x >>= f) (y >>= g) := by
  cases h with
  | ok related => exact hnext _ _ rfl rfl related
  | refused => exact .refused
  | faultLeft fault => exact .faultLeft fault _
  | faultRight x fault => exact .faultRight _ fault

/-- Arithmetic goes in parallel where it succeeds on both sides. -/
theorem orFault {x : Except Fault α} {y : Except Fault α'}
    (h : ∀ a a', x = .ok a → y = .ok a' → rel a a') :
    Parallel rel (Program.orFault x) (Program.orFault y) := by
  cases x with
  | error fault => exact .faultLeft fault _
  | ok a =>
    cases y with
    | error fault => exact .faultRight _ fault
    | ok a' => exact .ok (h a a' rfl rfl)

/-- A condition on types holds on both sides or on neither. -/
theorem require {p p' : Prop} [Decidable p] [Decidable p'] (h : p ↔ p') :
    Parallel (fun _ _ => True) (Program.require p) (Program.require p') := by
  unfold Program.require
  by_cases hp : p
  · rw [dif_pos hp, dif_pos (h.1 hp)]
    exact .ok trivial
  · rw [dif_neg hp, dif_neg (mt h.2 hp)]
    exact .refused

/-- Element by element. -/
theorem mapM {items : List β} {f : β → Except Refusal α} {g : β → Except Refusal α'}
    (h : ∀ item ∈ items, Parallel rel (f item) (g item)) :
    Parallel (List.Forall₂ rel) (items.mapM f) (items.mapM g) := by
  induction items with
  | nil => exact .ok .nil
  | cons item items ih =>
    rw [List.mapM_cons, List.mapM_cons]
    refine (h item List.mem_cons_self).bind ?_
    intro a a' _ _ ha
    refine (ih fun other hother => h other (List.mem_cons_of_mem _ hother)).bind ?_
    intro as as' _ _ has
    exact .ok (.cons ha has)

end Parallel

/-- The second side goes as the first one does, unless the first one is refused for a reason that is
excused. -/
inductive Follows (excused : Refusal → Prop) (rel : α → α' → Prop) :
    Except Refusal α → Except Refusal α' → Prop where
  | ok {a : α} {a' : α'} (related : rel a a') : Follows excused rel (.ok a) (.ok a')
  | refused (e : Refusal) : Follows excused rel (.error e) (.error e)
  | excused {e : Refusal} (h : excused e) (y : Except Refusal α') : Follows excused rel (.error e) y

namespace Follows

variable {excused : Refusal → Prop} {rel : α → α' → Prop} {rel' : β → β' → Prop} {x : Except Refusal α}
  {y : Except Refusal α'}

/-- One part after the other. -/
theorem bind {f : α → Except Refusal β} {g : α' → Except Refusal β'} (h : Follows excused rel x y)
    (hnext : ∀ a a', rel a a' → Follows excused rel' (f a) (g a')) :
    Follows excused rel' (x >>= f) (y >>= g) := by
  cases h with
  | ok related => exact hnext _ _ related
  | refused e => exact .refused e
  | excused h => exact .excused h _

/-- A condition on the first side that gives the one on the second. -/
theorem require {p p' : Prop} [Decidable p] [Decidable p'] (htype : excused .illTyped) (h : p → p') :
    Follows excused (fun _ _ => True) (Program.require p) (Program.require p') := by
  unfold Program.require
  by_cases hp : p
  · rw [dif_pos hp, dif_pos (h hp)]
    exact .ok trivial
  · rw [dif_neg hp]
    exact .excused htype _

/-- A condition on the first side alone. -/
theorem require_left {p : Prop} [Decidable p] {f : PLift p → Except Refusal α} (htype : excused .illTyped)
    (h : ∀ hp, Follows excused rel (f ⟨hp⟩) y) : Follows excused rel (Program.require p >>= f) y := by
  unfold Program.require
  by_cases hp : p
  · rw [dif_pos hp]
    exact h hp
  · rw [dif_neg hp]
    exact .excused htype _

/-- Element by element, where the second side computes an image of the first. -/
theorem mapM_map {image : α → α'} {items : List β} {f : β → Except Refusal α} {g : β → Except Refusal α'}
    (h : ∀ item ∈ items, Follows excused (fun a a' => image a = a') (f item) (g item)) :
    Follows excused (fun as as' => as.map image = as') (items.mapM f) (items.mapM g) := by
  induction items with
  | nil => exact .ok rfl
  | cons item items ih =>
    rw [List.mapM_cons, List.mapM_cons]
    refine (h item List.mem_cons_self).bind ?_
    rintro a _ rfl
    refine (ih fun other hother => h other (List.mem_cons_of_mem _ hother)).bind ?_
    rintro as _ rfl
    exact .ok rfl

end Follows

/-! ### Registers -/

section Registers

variable (R : Held → Held → Prop)

/-- The registers of two files correspond, each to the one of the same name. -/
def RegistersRel (r r' : Registers) : Prop := ∀ name, Option.Rel R (r name) (r' name)

variable {R} {r r' : Registers}

theorem Parallel.fetch (hr : RegistersRel R r r') (name : String) :
    Parallel R (r.fetch name) (r'.fetch name) := by
  unfold Registers.fetch
  have hname := hr name
  generalize r name = h at hname ⊢
  generalize r' name = h' at hname ⊢
  cases hname with
  | some related => exact .ok related
  | none => exact .refused

theorem Follows.fetch {excused : Refusal → Prop} (hr : RegistersRel R r r') (name : String) :
    Follows excused R (r.fetch name) (r'.fetch name) := by
  unfold Registers.fetch
  have hname := hr name
  generalize r name = h at hname ⊢
  generalize r' name = h' at hname ⊢
  cases hname with
  | some related => exact .ok related
  | none => exact .refused _

theorem RegistersRel.store (hr : RegistersRel R r r') (name : String) {h h' : Held} (hh : R h h') :
    RegistersRel R (r.store name h) (r'.store name h') := by
  intro other
  unfold Registers.store
  by_cases hsame : other = name
  · rw [if_pos hsame, if_pos hsame]
    exact .some hh
  · rw [if_neg hsame, if_neg hsame]
    exact hr other

theorem RegistersRel.keep (hr : RegistersRel R r r') (target : Option String) {h h' : Held}
    (hh : R h h') : RegistersRel R (r.keep target h) (r'.keep target h') := by
  cases target with
  | none => exact hr
  | some name => exact hr.store name hh

/-- The outcomes of a step correspond: the answers, and the registers after it. -/
def OutcomeRel (R : Held → Held → Prop) (A : Answer → Answer → Prop) (p p' : Answer × Registers) : Prop :=
  A p.1 p'.1 ∧ RegistersRel R p.2 p'.2

theorem Parallel.give {A : Answer → Answer → Prop} (hr : RegistersRel R r r') (target : Option String)
    {h h' : Held} (hh : R h h') (ha : A (.quantity h) (.quantity h')) :
    Parallel (OutcomeRel R A) (.ok (r.give target h)) (.ok (r'.give target h')) :=
  .ok ⟨ha, hr.keep target hh⟩

theorem Parallel.answer {A : Answer → Answer → Prop} (hr : RegistersRel R r r') {a a' : Answer}
    (ha : A a a') : Parallel (OutcomeRel R A) (.ok (a, r)) (.ok (a', r')) :=
  .ok ⟨ha, hr⟩

theorem Follows.give {excused : Refusal → Prop} {A : Answer → Answer → Prop} (hr : RegistersRel R r r')
    (target : Option String) {h h' : Held} (hh : R h h') (ha : A (.quantity h) (.quantity h')) :
    Follows excused (OutcomeRel R A) (.ok (r.give target h)) (.ok (r'.give target h')) :=
  .ok ⟨ha, hr.keep target hh⟩

/-- The two sides are refused for the same reason, or come to related results. -/
inductive Matched (rel : α → α' → Prop) : Except Refusal α → Except Refusal α' → Prop where
  | ok {a : α} {a' : α'} (related : rel a a') : Matched rel (.ok a) (.ok a')
  | refused (e : Refusal) : Matched rel (.error e) (.error e)

/-- A step that no fault stops is performed in parallel. -/
theorem Parallel.perform {A : Answer → Answer → Prop} {s s' : Step} (hr : RegistersRel R r r')
    (h : Parallel (OutcomeRel R A) (r.step s) (r'.step s'))
    (hleft : ∀ fault, (r.perform s).1 ≠ .error (.fault fault))
    (hright : ∀ fault, (r'.perform s').1 ≠ .error (.fault fault)) :
    Matched A (r.perform s).1 (r'.perform s').1 ∧ RegistersRel R (r.perform s).2 (r'.perform s').2 := by
  unfold Registers.perform at hleft hright ⊢
  generalize r.step s = x at h hleft ⊢
  generalize r'.step s' = y at h hright ⊢
  cases h with
  | ok related => exact ⟨.ok related.1, related.2⟩
  | refused => exact ⟨.refused _, hr⟩
  | faultLeft fault => exact absurd rfl (hleft fault)
  | faultRight x fault => exact absurd rfl (hright fault)

/-- A step that is not refused for an excused reason is performed as the other one is. -/
theorem Follows.perform {excused : Refusal → Prop} {A : Answer → Answer → Prop} {s s' : Step}
    (hr : RegistersRel R r r') (h : Follows excused (OutcomeRel R A) (r.step s) (r'.step s'))
    (hallowed : ∀ e, excused e → (r.perform s).1 ≠ .error e) :
    Matched A (r.perform s).1 (r'.perform s').1 ∧ RegistersRel R (r.perform s).2 (r'.perform s').2 := by
  unfold Registers.perform at hallowed ⊢
  generalize r.step s = x at h hallowed ⊢
  generalize r'.step s' = y at h ⊢
  cases h with
  | ok related => exact ⟨.ok related.1, related.2⟩
  | refused e => exact ⟨.refused e, hr⟩
  | excused he => exact absurd rfl (hallowed _ he)

end Registers

/-! ### Runs -/

/-- The condition holds at every step of the run. -/
def Registers.Along (P : Registers → Step → Prop) : Registers → List Step → Prop
  | _, [] => True
  | r, s :: steps => P r s ∧ Along P (r.perform s).2 steps

instance Registers.decidableAlong (P : Registers → Step → Prop) [∀ r s, Decidable (P r s)] :
    ∀ (r : Registers) (steps : List Step), Decidable (r.Along P steps)
  | _, [] => .isTrue trivial
  | r, s :: steps =>
    have := Registers.decidableAlong P (r.perform s).2 steps
    inferInstanceAs (Decidable (P r s ∧ Along P (r.perform s).2 steps))

theorem Registers.along_trivial (r : Registers) (steps : List Step) : r.Along (fun _ _ => True) steps := by
  induction steps generalizing r with
  | nil => exact trivial
  | cons s steps ih => exact ⟨trivial, ih _⟩

/-- No fault stops the step. -/
def Registers.Unstopped (r : Registers) (s : Step) : Prop :=
  ∀ fault, (r.perform s).1 ≠ .error (.fault fault)

instance (r : Registers) (s : Step) : Decidable (r.Unstopped s) :=
  match h : (r.perform s).1 with
  | .error (.fault fault) => .isFalse fun free => free fault h
  | .ok _ | .error .noRegister | .error .illTyped | .error (.json _) => .isTrue fun _ e => nomatch h.symm.trans e

/-- The types of the operands allow the step. -/
def Registers.WellTyped (r : Registers) (s : Step) : Prop := (r.perform s).1 ≠ .error .illTyped

instance (r : Registers) (s : Step) : Decidable (r.WellTyped s) :=
  match h : (r.perform s).1 with
  | .error .illTyped => .isFalse fun typed => typed h
  | .ok _ | .error .noRegister | .error (.fault _) | .error (.json _) =>
    .isTrue fun e => nomatch h.symm.trans e

/-- The reasons for which a type checker or a fault stops a step. -/
def Stops (e : Refusal) : Prop := e = .illTyped ∨ ∃ fault, e = .fault fault

/-- The types allow the step, and no fault stops it. -/
def Registers.Proceeds (r : Registers) (s : Step) : Prop := r.WellTyped s ∧ r.Unstopped s

instance (r : Registers) (s : Step) : Decidable (r.Proceeds s) := inferInstanceAs (Decidable (_ ∧ _))

theorem Registers.proceeds_iff {r : Registers} {s : Step} :
    r.Proceeds s ↔ ∀ e, Stops e → (r.perform s).1 ≠ .error e := by
  constructor
  · rintro ⟨htyped, hfree⟩ e (rfl | ⟨fault, rfl⟩)
    · exact htyped
    · exact hfree fault
  · intro h
    exact ⟨h _ (.inl rfl), fun fault => h _ (.inr ⟨fault, rfl⟩)⟩

theorem Matched.proceeds {A : Answer → Answer → Prop} {r r' : Registers} {s s' : Step}
    (h : Matched A (r.perform s).1 (r'.perform s').1) (hproceeds : r.Proceeds s) : r'.Proceeds s' := by
  rw [Registers.proceeds_iff] at hproceeds ⊢
  generalize (r.perform s).1 = x at h hproceeds
  generalize (r'.perform s').1 = y at h ⊢
  cases h with
  | ok related =>
    intro e _ hanswer
    cases hanswer
  | refused e => exact hproceeds

/-- At every step the registers correspond, and so do the answers. -/
inductive Lockstep (R : Held → Held → Prop) (A : Step → Answer → Answer → Prop) :
    Registers → Registers → List Step → List Step → Prop where
  | nil {r r' : Registers} (before : RegistersRel R r r') : Lockstep R A r r' [] []
  | cons {r r' : Registers} {s s' : Step} {steps steps' : List Step} (before : RegistersRel R r r')
      (answers : Matched (A s) (r.perform s).1 (r'.perform s').1)
      (after : Lockstep R A (r.perform s).2 (r'.perform s').2 steps steps') :
      Lockstep R A r r' (s :: steps) (s' :: steps')

namespace Lockstep

variable {R : Held → Held → Prop} {A : Step → Answer → Answer → Prop} {S : Step → Step → Prop}
  {P P' : Registers → Step → Prop}

/-- **What every step keeps, a run keeps.** -/
theorem of_performed
    (hstep : ∀ {r r' s s'}, RegistersRel R r r' → S s s' → P r s → P' r' s' →
      Matched (A s) (r.perform s).1 (r'.perform s').1 ∧ RegistersRel R (r.perform s).2 (r'.perform s').2)
    {steps steps' : List Step} (hsteps : List.Forall₂ S steps steps') :
    ∀ {r r' : Registers}, RegistersRel R r r' → r.Along P steps → r'.Along P' steps' →
      Lockstep R A r r' steps steps' := by
  induction hsteps with
  | nil =>
    intro r r' hr _ _
    exact .nil hr
  | cons hs _ ih =>
    intro r r' hr hP hP'
    obtain ⟨hanswers, hregisters⟩ := hstep hr hs hP.1 hP'.1
    exact .cons hr hanswers (ih hregisters hP.2 hP'.2)

/-- Steps that go in parallel, where no fault stops them. -/
theorem of_steps
    (hstep : ∀ {r r' s s'}, RegistersRel R r r' → S s s' → P r s → P' r' s' →
      Parallel (OutcomeRel R (A s)) (r.step s) (r'.step s'))
    (hleft : ∀ {r s}, P r s → r.Unstopped s) (hright : ∀ {r s}, P' r s → r.Unstopped s)
    {steps steps' : List Step} (hsteps : List.Forall₂ S steps steps') {r r' : Registers}
    (hr : RegistersRel R r r') (hP : r.Along P steps) (hP' : r'.Along P' steps') :
    Lockstep R A r r' steps steps' := by
  refine of_performed ?_ hsteps hr hP hP'
  intro r r' s s' hr hs hP hP'
  exact (hstep hr hs hP hP').perform hr (hleft hP) (hright hP')

/-- Steps of which the second one follows the first, where nothing stops that. -/
theorem of_follows
    (hstep : ∀ {r r' s s'}, RegistersRel R r r' → S s s' →
      Follows Stops (OutcomeRel R (A s)) (r.step s) (r'.step s'))
    {steps steps' : List Step} (hsteps : List.Forall₂ S steps steps') {r r' : Registers}
    (hr : RegistersRel R r r') (hrun : r.Along Registers.Proceeds steps) : Lockstep R A r r' steps steps' := by
  refine of_performed ?_ hsteps hr hrun (r'.along_trivial steps')
  intro r r' s s' hr hs hproceeds _
  exact (hstep hr hs).perform hr (Registers.proceeds_iff.1 hproceeds)

/-- Where nothing stops the first run, nothing stops the second one. -/
theorem proceeds {r r' : Registers} {steps steps' : List Step} (h : Lockstep R A r r' steps steps')
    (hrun : r.Along Registers.Proceeds steps) : r'.Along Registers.Proceeds steps' := by
  induction h with
  | nil before => exact trivial
  | cons before answers after ih => exact ⟨answers.proceeds hrun.1, ih hrun.2⟩

/-- The registers correspond after every number of steps. -/
theorem take {r r' : Registers} {steps steps' : List Step} (h : Lockstep R A r r' steps steps') (n : Nat) :
    RegistersRel R (r.run (steps.take n)).2 (r'.run (steps'.take n)).2 := by
  induction h generalizing n with
  | nil before =>
    rw [List.take_nil]
    exact before
  | cons before _ _ ih =>
    cases n with
    | zero => exact before
    | succ n => exact ih n

/-- The answers of a step correspond, whatever its place in the run. -/
theorem answers {r r' : Registers} {steps steps' : List Step} (h : Lockstep R A r r' steps steps') {n : Nat}
    {s : Step} (hs : steps[n]? = some s) :
    ∃ x x', (r.run steps).1[n]? = some x ∧ (r'.run steps').1[n]? = some x' ∧ Matched (A s) x x' := by
  induction h generalizing n with
  | nil before => cases hs
  | cons before answers _ ih =>
    cases n with
    | zero =>
      cases hs
      exact ⟨_, _, rfl, rfl, answers⟩
    | succ n => exact ih hs

/-- A step whose answers correspond only if they are equal. -/
theorem answers_eq {r r' : Registers} {steps steps' : List Step} (h : Lockstep R A r r' steps steps') {n : Nat}
    {s : Step} (hs : steps[n]? = some s) (hequal : A s = Eq) :
    (r.run steps).1[n]? = (r'.run steps').1[n]? := by
  obtain ⟨x, x', hx, hx', hmatched⟩ := h.answers hs
  rw [hx, hx']
  rw [hequal] at hmatched
  cases hmatched with
  | ok related => rw [related]
  | refused e => rfl

end Lockstep

end Dimensional.Program
