import Dimensional.Proofs.Exponents.Runs

/-!
# Roots of exponents

A root halves every exponent, and there is one where all of them are even.  This is the inverse of squaring,
on the whole range of 32 bits; the first odd axis is what is reported where there is no root.

* `checkedSqrt_eq_ok`, `checkedSqrt_eq_error` — what a root is, and why there is none;
* `onConstants_roots` — products and quotients of roots never overflow, and are roots;
* `exists_rootTimes_iff` — how often a root can be taken;
* `roots_undo_squares` — all of this together.
-/

namespace Dimensional.Exponents

/-! ### Halves -/

/-- An integer is twice another one exactly when division by two, rounded toward zero, is exact. -/
theorem eq_two_mul_iff {n m : Int} : n = 2 * m ↔ n.tmod 2 = 0 ∧ m = n.tdiv 2 := by
  constructor
  · rintro rfl
    exact ⟨Int.mul_tmod_right 2 m, (Int.mul_tdiv_cancel_left m (by decide)).symm⟩
  · rintro ⟨heven, rfl⟩
    exact (Int.mul_tdiv_cancel' (Int.dvd_of_tmod_eq_zero heven)).symm

theorem tmod_two_eq_zero_iff {n : Int} : n.tmod 2 = 0 ↔ n % 2 = 0 :=
  ⟨fun h => Int.emod_eq_zero_of_dvd (Int.dvd_of_tmod_eq_zero h),
    fun h => Int.tmod_eq_zero_of_dvd (Int.dvd_of_emod_eq_zero h)⟩

/-- Only zero can be halved more often than the range has bits. -/
theorem eq_zero_of_dvd {n : Int} (hholds : IntKind.i32.Holds n) (h : (2 : Int) ^ 32 ∣ n) : n = 0 := by
  obtain ⟨hmin, hmax⟩ := IntKind.i32_holds.1 hholds
  have hpower : (2 : Int) ^ 32 = 4294967296 := by decide
  rw [hpower] at h
  omega

/-! ### One root -/

variable {e r : Exponents}

theorem checkedSqrt_eq_ok : e.checkedSqrt = .ok r ↔ ∀ axis, (e.get axis).toInt = 2 * (r.get axis).toInt := by
  constructor
  · exact get_checkedSqrt
  · intro h
    have hsquare : e.powers.IsSquare := by
      intro axis
      rw [get_powers, h axis]
      exact Int.mul_emod_right 2 _
    rw [checkedSqrt_of_isSquare hsquare]
    refine congrArg _ (ext_toInt fun axis => ?_)
    rw [PerAxis.get_map]
    show (e.get axis).toInt / 2 = _
    rw [h axis, Int.mul_ediv_cancel_left _ (by decide)]

/-- **Roots are the inverse of squares.** -/
theorem checkedSqrt_eq_ok_iff_square : e.checkedSqrt = .ok r ↔ r.multiply r = .ok e := by
  rw [checkedSqrt_eq_ok, multiply_eq_ok]
  refine forall_congr' fun axis => ?_
  rw [Int.two_mul]

theorem exists_checkedSqrt_iff : (∃ r, e.checkedSqrt = .ok r) ↔ ∀ axis, (e.get axis).toInt.tmod 2 = 0 := by
  constructor
  · rintro ⟨r, h⟩ axis
    exact (eq_two_mul_iff.1 (checkedSqrt_eq_ok.1 h axis)).1
  · intro heven
    refine ⟨_, checkedSqrt_of_isSquare fun axis => ?_⟩
    rw [get_powers]
    exact tmod_two_eq_zero_iff.1 (heven axis)

/-- **The first odd axis is reported**, with the exponent that stands on it. -/
theorem checkedSqrt_eq_error {error : Error} :
    e.checkedSqrt = .error error ↔ ∃ axis, error = .oddExponent axis (e.get axis) ∧
      (e.get axis).toInt.tmod 2 ≠ 0 ∧
        ∀ earlier : Axis, earlier.index < axis.index → (e.get earlier).toInt.tmod 2 = 0 := by
  rw [checkedSqrt, PerAxis.buildM_eq_error]
  refine exists_congr fun axis => ?_
  have hodd : ∀ other : Axis, (e.get other).toInt.tmod 2 = 0 ↔ ¬ (e.get other).toInt % 2 ≠ 0 := fun other =>
    tmod_two_eq_zero_iff.trans Decidable.not_not.symm
  rw [← and_assoc]
  refine and_congr ?_ (forall_congr' fun other => imp_congr_right fun _ => ?_)
  · by_cases h : (e.get axis).toInt % 2 ≠ 0
    · rw [if_pos h]
      refine ⟨fun herror => ⟨(Except.error.inj herror).symm, fun heven => (hodd axis).1 heven h⟩, ?_⟩
      rintro ⟨rfl, -⟩
      rfl
    · rw [if_neg h]
      exact ⟨nofun, fun ⟨_, hnot⟩ => absurd ((hodd axis).2 h) hnot⟩
  · rw [hodd]
    by_cases h : (e.get other).toInt % 2 ≠ 0
    · exact ⟨fun ⟨_, hok⟩ => (nomatch (if_pos h).symm.trans hok), fun hnot => absurd h hnot⟩
    · exact ⟨fun _ => h, fun _ => ⟨_, if_neg h⟩⟩

theorem sqrt_eq_ok : e.sqrt = .ok r ↔ e.checkedSqrt = .ok r := by
  unfold sqrt
  cases e.checkedSqrt with
  | ok root => exact ⟨fun h => congrArg _ (Except.ok.inj h), fun h => congrArg _ (Except.ok.inj h)⟩
  | error error => exact ⟨nofun, nofun⟩

theorem sqrt_eq_error {fault : Fault} :
    e.sqrt = .error fault ↔ fault = .oddSquareRoot ∧ ∃ error, e.checkedSqrt = .error error := by
  unfold sqrt
  cases e.checkedSqrt with
  | ok root => exact ⟨nofun, fun ⟨_, _, h⟩ => (nomatch h)⟩
  | error error => exact ⟨fun h => ⟨(Except.error.inj h).symm, error, rfl⟩, fun h => by rw [h.1]⟩

/-! ### Roots of products and quotients -/

/-- The share of a factor is twice that of its root. -/
theorem share_of_checkedSqrt {op : Operator} (h : e.checkedSqrt = .ok r) (axis : Axis) :
    Factor.share ⟨op, e⟩ axis = 2 * Factor.share ⟨op, r⟩ axis := by
  have here := checkedSqrt_eq_ok.1 h axis
  cases op with
  | product => exact here
  | quotient =>
    show -(e.get axis).toInt = 2 * -(r.get axis).toInt
    omega

/-- **Roots are joined without an overflow**, and make the root of what is joined. -/
theorem onConstants_roots (op : Operator) {a b ra rb : Exponents} (ha : a.checkedSqrt = .ok ra)
    (hb : b.checkedSqrt = .ok rb) :
    ∃ p, op.onConstants ra rb = .ok p ∧ ∀ c, op.onConstants a b = .ok c → c.checkedSqrt = .ok p := by
  have hholds : ∀ axis, IntKind.i32.Holds ((ra.get axis).toInt + Factor.share ⟨op, rb⟩ axis) := by
    intro axis
    have hra := checkedSqrt_eq_ok.1 ha axis
    have hrb := checkedSqrt_eq_ok.1 hb axis
    obtain ⟨hamin, hamax⟩ := IntKind.i32_holds.1 (a.get axis).holds
    obtain ⟨hbmin, hbmax⟩ := IntKind.i32_holds.1 (b.get axis).holds
    rw [IntKind.i32_holds]
    cases op with
    | product =>
      show _ ≤ (ra.get axis).toInt + (rb.get axis).toInt ∧ (ra.get axis).toInt + (rb.get axis).toInt ≤ _
      omega
    | quotient =>
      show _ ≤ (ra.get axis).toInt + -(rb.get axis).toInt ∧ (ra.get axis).toInt + -(rb.get axis).toInt ≤ _
      omega
  obtain ⟨p, hp⟩ := Factor.exists_apply hholds
  refine ⟨p, hp, fun c hc => checkedSqrt_eq_ok.2 fun axis => ?_⟩
  have hjoined : Factor.apply ⟨op, b⟩ a = .ok c := hc
  rw [Factor.apply_eq_ok.1 hjoined axis, Factor.apply_eq_ok.1 hp axis, checkedSqrt_eq_ok.1 ha axis,
    share_of_checkedSqrt hb axis, Int.mul_add]

/-! ### One root after the other -/

/-- Take the root so many times. -/
def rootTimes : Nat → Exponents → Except Error Exponents
  | 0, e => .ok e
  | k + 1, e => e.checkedSqrt >>= rootTimes k

/-- **A root can be taken `k` times** exactly where `2 ^ k` divides every exponent. -/
theorem exists_rootTimes_iff {k : Nat} :
    (∃ r, rootTimes k e = .ok r) ↔ ∀ axis, (2 : Int) ^ k ∣ (e.get axis).toInt := by
  induction k generalizing e with
  | zero => exact ⟨fun _ axis => ⟨_, (Int.one_mul _).symm⟩, fun _ => ⟨e, rfl⟩⟩
  | succ k ih =>
    have hpower : (2 : Int) ^ (k + 1) = 2 * 2 ^ k := (Int.pow_succ 2 k).trans (Int.mul_comm _ _)
    constructor
    · rintro ⟨r, h⟩ axis
      obtain ⟨m, hm, h⟩ := bind_eq_ok.1 h
      rw [checkedSqrt_eq_ok.1 hm axis, hpower]
      exact Int.mul_dvd_mul_left 2 (ih.1 ⟨r, h⟩ axis)
    · intro hdvd
      have heven : ∀ axis, (e.get axis).toInt.tmod 2 = 0 := fun axis =>
        Int.tmod_eq_zero_of_dvd (Int.dvd_trans ⟨_, hpower⟩ (hdvd axis))
      obtain ⟨m, hm⟩ := exists_checkedSqrt_iff.2 heven
      have hrest : ∀ axis, (2 : Int) ^ k ∣ (m.get axis).toInt := by
        intro axis
        have h := hdvd axis
        rw [checkedSqrt_eq_ok.1 hm axis, hpower] at h
        exact Int.dvd_of_mul_dvd_mul_left (by decide) h
      obtain ⟨r, hr⟩ := ih.2 hrest
      exact ⟨r, bind_eq_ok.2 ⟨m, hm, hr⟩⟩

/-- Only the dimensionless vector has a root that has a root, and so on without end. -/
theorem forall_rootTimes_iff : (∀ k, ∃ r, rootTimes k e = .ok r) ↔ e = one := by
  constructor
  · intro h
    refine ext_toInt fun axis => ?_
    rw [eq_zero_of_dvd (e.get axis).holds (exists_rootTimes_iff.1 (h 32) axis), one, PerAxis.get_const]
    rfl
  · rintro rfl k
    refine exists_rootTimes_iff.2 fun axis => ?_
    rw [one, PerAxis.get_const]
    exact Int.dvd_zero _

/-- **Roots undo squares.**  A vector has a root exactly when all its exponents are even.  The root halves
them, and is the one vector whose square this is; so the root of a square is what was squared.  Otherwise
the first odd axis is reported, with its exponent, and where only a result is asked for this is a fault.
Roots of products and quotients are the products and quotients of the roots, and these never overflow.
A root can be taken `k` times exactly where `2 ^ k` divides every exponent, and without end only where all
are zero. -/
theorem roots_undo_squares :
    (∀ e : Exponents, (∃ r, e.checkedSqrt = .ok r) ↔ ∀ axis, (e.get axis).toInt.tmod 2 = 0) ∧
    (∀ e r : Exponents, e.checkedSqrt = .ok r ↔ r.multiply r = .ok e) ∧
    (∀ e r : Exponents, e.checkedSqrt = .ok r →
      (∀ axis, (r.get axis).toInt = (e.get axis).toInt.tdiv 2) ∧ ∀ s, s.multiply s = .ok e → s = r) ∧
    (∀ (e : Exponents) (error : Error), e.checkedSqrt = .error error ↔
      ∃ axis, error = .oddExponent axis (e.get axis) ∧ (e.get axis).toInt.tmod 2 ≠ 0 ∧
        ∀ earlier : Axis, earlier.index < axis.index → (e.get earlier).toInt.tmod 2 = 0) ∧
    (∀ e r : Exponents, e.sqrt = .ok r ↔ e.checkedSqrt = .ok r) ∧
    (∀ (e : Exponents) (fault : Fault), e.sqrt = .error fault ↔
      fault = .oddSquareRoot ∧ ∃ error, e.checkedSqrt = .error error) ∧
    (∀ (op : Operator) (a b ra rb : Exponents), a.checkedSqrt = .ok ra → b.checkedSqrt = .ok rb →
      ∃ p, op.onConstants ra rb = .ok p ∧ ∀ c, op.onConstants a b = .ok c → c.checkedSqrt = .ok p) ∧
    (∀ (k : Nat) (e : Exponents), (∃ r, rootTimes k e = .ok r) ↔ ∀ axis, (2 : Int) ^ k ∣ (e.get axis).toInt) ∧
    (∀ e : Exponents, (∀ k, ∃ r, rootTimes k e = .ok r) ↔ e = one) := by
  refine ⟨fun _ => exists_checkedSqrt_iff, fun _ _ => checkedSqrt_eq_ok_iff_square, ?_,
    fun _ _ => checkedSqrt_eq_error, fun _ _ => sqrt_eq_ok, fun _ _ => sqrt_eq_error,
    fun op _ _ _ _ ha hb => onConstants_roots op ha hb, fun _ _ => exists_rootTimes_iff,
    fun _ => forall_rootTimes_iff⟩
  intro e r h
  refine ⟨fun axis => (eq_two_mul_iff.1 (checkedSqrt_eq_ok.1 h axis)).2, fun s hs => ?_⟩
  have hroot := checkedSqrt_eq_ok_iff_square.2 hs
  rw [h] at hroot
  exact (Except.ok.inj hroot).symm

/-- The least exponent of time and an odd one of mass. -/
def earliest (mass : Fixed .i32) : Exponents :=
  PerAxis.set (PerAxis.set one .time ⟨-2147483648, by decide, by decide⟩) .mass mass

theorem roots_undo_squares_earliest :
    (∃ r, (earliest Fixed.zero).checkedSqrt = .ok r ∧ (r.get .time).toInt = -1073741824 ∧
      r.multiply r = .ok (earliest Fixed.zero)) ∧
    (earliest ⟨-3, by decide, by decide⟩).sqrt = .error .oddSquareRoot ∧
    ∃ error, (earliest ⟨-3, by decide, by decide⟩).checkedSqrt = .error error ∧
      error = .oddExponent .mass ⟨-3, by decide, by decide⟩ := by
  obtain ⟨hexists, hsquare, hhalf, herror, -, hfault, -⟩ := roots_undo_squares
  have heven : ∀ axis, ((earliest Fixed.zero).get axis).toInt.tmod 2 = 0 := by
    intro axis
    cases axis <;> decide
  have hodd : (earliest ⟨-3, by decide, by decide⟩).checkedSqrt =
      .error (.oddExponent .mass ⟨-3, by decide, by decide⟩) := by
    refine (herror _ _).2 ⟨.mass, by decide, by decide, fun earlier hless => ?_⟩
    cases earlier with
    | time => decide
    | _ => exact absurd hless (by decide)
  obtain ⟨r, hr⟩ := (hexists _).2 heven
  refine ⟨⟨r, hr, ?_, (hsquare _ _).1 hr⟩, (hfault _ _).2 ⟨rfl, _, hodd⟩, _, hodd, rfl⟩
  rw [(hhalf _ _ hr).1 .time]
  decide

end Dimensional.Exponents
