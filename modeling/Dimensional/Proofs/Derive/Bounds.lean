import Dimensional.Proofs.Derive.Entries
import Dimensional.Proofs.Derive.Items

/-!
# The bound on written exponents

An exponent is meant to have a magnitude of `greatestExponent` at most.  The literal is held against the
bound with its own sign, and from above only; the sign in front is applied afterwards.  A second minus
sign therefore carries a number past the bound:

* `exponent_eq_ok`, `exponent_eq_fault` — what a written exponent comes to;
* `exponents_bounded_iff` — an attribute or an item goes past the bound exactly where an entry doubles the
  minus sign, and the arithmetic stops exactly at the doubled least value.
-/

namespace Dimensional.Derive

open Source

/-- The exponent is one that may be written. -/
def Bounded (n : Int) : Prop := -(greatestExponent : Int) ≤ n ∧ n ≤ greatestExponent

instance (n : Int) : Decidable (Bounded n) := inferInstanceAs (Decidable (_ ∧ _))

/-- The number behind two minus signs. -/
def doubled? : List Tree → Option Nat
  | .punct '-' _ _ :: .punct '-' _ _ :: .literal text _ :: _ => Literal.wholeValue? text
  | _ => none

/-! ### A written exponent -/

theorem limited_eq_ok {negative : Bool} {value : Int} {span : Span} {c after : Cursor} {n : Fixed .i32} :
    (limited negative value span).run c = .ok (n, after) ↔
      IntKind.i32.Holds value ∧ value ≤ greatestExponent ∧
        n.toInt = (if negative = true then -value else value) ∧ after = c := by
  unfold limited
  cases hvalue : Fixed.ofInt? .i32 value with
  | none =>
    refine ⟨nofun, fun ⟨hholds, _⟩ => ?_⟩
    rw [Fixed.ofInt?, dif_pos hholds] at hvalue
    cases hvalue
  | some a =>
    have ha : a.toInt = value := Fixed.ofInt?_eq_some.1 hvalue
    have hholds : IntKind.i32.Holds value := ha ▸ a.holds
    by_cases hlarge : (greatestExponent : Int) < value
    · simp only [if_pos hlarge]
      exact ⟨nofun, fun ⟨_, hle, _⟩ => absurd hle (by omega)⟩
    · have hle : value ≤ greatestExponent := by omega
      simp only [if_neg hlarge]
      cases negative with
      | true =>
        rw [if_pos rfl, if_pos rfl, Reading.ofArithmetic_eq_ok, Fixed.neg, Fixed.checked_eq_ok, ha]
        exact ⟨fun ⟨hn, hafter⟩ => ⟨hholds, hle, hn, hafter⟩, fun ⟨_, _, hn, hafter⟩ => ⟨hn, hafter⟩⟩
      | false =>
        simp only [Bool.false_eq_true, if_false]
        rw [← ha]
        constructor
        · intro h
          cases h
          exact ⟨ha ▸ hholds, ha ▸ hle, rfl, rfl⟩
        · rintro ⟨-, -, hn, rfl⟩
          rw [Fixed.ext hn]
          rfl

theorem limited_eq_fault {negative : Bool} {value : Int} {span : Span} {c : Cursor} {fault : Fault} :
    (limited negative value span).run c = .error (.fault fault) ↔
      fault = .negOverflow ∧ negative = true ∧ value = -2147483648 := by
  unfold limited
  cases hvalue : Fixed.ofInt? .i32 value with
  | none =>
    refine ⟨nofun, fun ⟨_, _, hleast⟩ => ?_⟩
    rw [hleast] at hvalue
    cases hvalue
  | some a =>
    have ha : a.toInt = value := Fixed.ofInt?_eq_some.1 hvalue
    have hholds : -2147483648 ≤ value ∧ value ≤ 2147483647 := IntKind.i32_holds.1 (ha ▸ a.holds)
    by_cases hlarge : (greatestExponent : Int) < value
    · simp only [if_pos hlarge]
      refine ⟨nofun, fun ⟨_, _, hleast⟩ => ?_⟩
      rw [hleast] at hlarge
      cases hlarge
    · simp only [if_neg hlarge]
      cases negative with
      | true =>
        rw [if_pos rfl, Reading.ofArithmetic_eq_error]
        constructor
        · rintro ⟨other, hneg, hother⟩
          cases hother
          obtain ⟨hout, hfault⟩ := Fixed.checked_eq_error.1 hneg
          rw [ha, IntKind.i32_holds] at hout
          exact ⟨hfault, rfl, by omega⟩
        · rintro ⟨rfl, -, hleast⟩
          refine ⟨.negOverflow, Fixed.checked_eq_error.2 ⟨?_, rfl⟩, rfl⟩
          rw [ha, IntKind.i32_holds]
          omega
      | false =>
        simp only [Bool.false_eq_true, if_false]
        exact ⟨nofun, fun ⟨_, hfalse, _⟩ => nomatch hfalse⟩

/-- A literal counts up from zero, or down from it behind a minus sign of its own. -/
theorem integerLiteral?_eq_some {ts rest : List Tree} {value : Int} {span : Span}
    (h : integerLiteral? ts = some (value, span, rest)) :
    0 ≤ value ∨
      ∃ (m : Nat) (joint : Bool) (sign : Span) (text : Text) (at_ : Span), value = -(m : Int) ∧
        ts = .punct '-' joint sign :: .literal text at_ :: rest ∧ Literal.wholeValue? text = some m := by
  unfold integerLiteral? at h
  split at h
  · obtain ⟨m, -, hresult⟩ := Option.map_eq_some_iff.1 h
    cases hresult
    exact .inl (Int.natCast_nonneg m)
  · obtain ⟨m, hvalue, hresult⟩ := Option.map_eq_some_iff.1 h
    cases hresult
    exact .inr ⟨m, _, _, _, _, rfl, rfl, hvalue⟩
  · cases h

theorem integer_eq_ok {c after : Cursor} {value : Int} {span : Span} :
    integer.run c = .ok ((value, span), after) ↔
      ∃ rest, integerLiteral? c.tokens = some (value, span, rest) ∧ after = { c with tokens := rest } := by
  simp only [integer]
  cases hliteral : integerLiteral? c.tokens with
  | none =>
    constructor
    · intro h
      cases h
    · rintro ⟨rest, h, -⟩
      cases h
  | some found =>
    obtain ⟨found, at_, rest⟩ := found
    constructor
    · intro h
      cases h
      exact ⟨rest, rfl, rfl⟩
    · rintro ⟨rest, h, rfl⟩
      cases h
      rfl

theorem doubled?_of_signs {ts rest : List Tree} {text : Text} {joint joint' : Bool} {sign sign' at_ : Span}
    (h : ts = .punct '-' joint sign :: .punct '-' joint' sign' :: .literal text at_ :: rest) :
    doubled? ts = Literal.wholeValue? text := by
  rw [h]
  rfl

theorem doubled?_eq_some {ts : List Tree} {m : Nat} (h : doubled? ts = some m) :
    ∃ joint sign joint' sign' text at_ rest,
      ts = .punct '-' joint sign :: .punct '-' joint' sign' :: .literal text at_ :: rest ∧
        Literal.wholeValue? text = some m := by
  unfold doubled? at h
  split at h
  · exact ⟨_, _, _, _, _, _, _, rfl, h⟩
  · cases h

/-- What a doubled minus sign leads to is decided by the limit alone. -/
theorem exponent_of_doubled {c : Cursor} {m : Nat} (h : doubled? c.tokens = some m) :
    ∃ span after, exponent.run c = (limited true (-(m : Int)) span).run after := by
  obtain ⟨joint, sign, joint', sign', text, at_, rest, htokens, hvalue⟩ := doubled?_eq_some h
  have hmark := mark?_of_next (s := "-") (c := c) ((nextIsMark_single rfl).2 ⟨joint, sign, _, htokens⟩)
  have hbehind : (c.behindMark "-").tokens = .punct '-' joint' sign' :: .literal text at_ :: rest := by
    show c.tokens.drop 1 = _
    rw [htokens]
    rfl
  have hliteral : integerLiteral? (c.behindMark "-").tokens = some (-(m : Int), sign'.join at_, rest) := by
    rw [hbehind, integerLiteral?, hvalue]
    rfl
  rw [exponent, Reading.run_bind_of_ok (Reading.liftM_eq_ok.2 hmark),
    Reading.run_bind_of_ok (Reading.liftM_eq_ok.2 (integer_eq_ok.2 ⟨rest, hliteral, rfl⟩))]
  exact ⟨_, _, rfl⟩

/-- Without a doubled minus sign the literal counts up from zero, or has no sign in front. -/
theorem exponent_literal {c middle after : Cursor} {negative : Bool} {value : Int} {span : Span}
    (hmark : (mark? "-").run c = .ok (negative, middle))
    (hinteger : integer.run middle = .ok ((value, span), after)) :
    0 ≤ value ∨ negative = true ∧ ∃ m : Nat, doubled? c.tokens = some m ∧ value = -(m : Int) := by
  obtain ⟨rest, hliteral, -⟩ := integer_eq_ok.1 hinteger
  rcases integerLiteral?_eq_some hliteral with
    hnonneg | ⟨m, joint', sign', text, at_, hvalue, htokens, hwhole⟩
  · exact .inl hnonneg
  · by_cases hnext : nextIsMark "-" c.tokens = true
    · rw [mark?_of_next hnext] at hmark
      cases hmark
      obtain ⟨joint, sign, tail, hc⟩ := (nextIsMark_single rfl).1 hnext
      have htail : (c.behindMark "-").tokens = tail := by
        show c.tokens.drop 1 = _
        rw [hc]
        rfl
      rw [htail] at htokens
      rw [htokens] at hc
      exact .inr ⟨rfl, m, by rw [doubled?_of_signs hc, hwhole], hvalue⟩
    · -- the first sign would have been taken
      rw [mark?_of_not_next hnext] at hmark
      cases hmark
      exact absurd ((nextIsMark_single rfl).2 ⟨joint', sign', _, htokens⟩) hnext

/-- **What is read as an exponent** is within the bound, but behind a doubled minus sign. -/
theorem exponent_eq_ok {c after : Cursor} {n : Fixed .i32} (h : exponent.run c = .ok (n, after)) :
    (∀ m, doubled? c.tokens = some m → n.toInt = m) ∧
      (doubled? c.tokens = none → Bounded n.toInt) := by
  constructor
  · intro m hdoubled
    obtain ⟨span, middle, hrun⟩ := exponent_of_doubled hdoubled
    rw [hrun] at h
    obtain ⟨-, -, hn, -⟩ := limited_eq_ok.1 h
    rw [hn, if_pos rfl, Int.neg_neg]
  · intro hdoubled
    obtain ⟨negative, middle, hmark, hrest⟩ := Reading.run_bind_eq_ok.1 h
    obtain ⟨⟨value, span⟩, behind, hinteger, hlimited⟩ := Reading.run_bind_eq_ok.1 hrest
    obtain ⟨-, hle, hn, -⟩ := limited_eq_ok.1 hlimited
    have hnonneg : 0 ≤ value := by
      rcases exponent_literal (Reading.liftM_eq_ok.1 hmark) (Reading.liftM_eq_ok.1 hinteger) with
        hnonneg | ⟨-, m, hsome, -⟩
      · exact hnonneg
      · rw [hdoubled] at hsome
        cases hsome
    rw [Bounded, hn]
    cases negative with
    | true => rw [if_pos rfl]; omega
    | false => rw [if_neg Bool.false_ne_true]; omega

/-- **The arithmetic on an exponent stops** at the doubled least value, and there only. -/
theorem exponent_eq_fault {c : Cursor} {fault : Fault} :
    exponent.run c = .error (.fault fault) ↔
      fault = .negOverflow ∧ doubled? c.tokens = some 2147483648 := by
  constructor
  · intro h
    rcases Reading.run_bind_eq_error.1 h with hmark | ⟨negative, middle, hmark, hrest⟩
    · exact absurd hmark (Reading.liftM_ne_fault _ _ _)
    · rcases Reading.run_bind_eq_error.1 hrest with hinteger | ⟨⟨value, span⟩, behind, hinteger, hlimited⟩
      · exact absurd hinteger (Reading.liftM_ne_fault _ _ _)
      · obtain ⟨hfault, -, hvalue⟩ := limited_eq_fault.1 hlimited
        rcases exponent_literal (Reading.liftM_eq_ok.1 hmark) (Reading.liftM_eq_ok.1 hinteger) with
          hnonneg | ⟨-, m, hdoubled, hm⟩
        · omega
        · have hleast : m = 2147483648 := by omega
          exact ⟨hfault, hleast ▸ hdoubled⟩
  · rintro ⟨rfl, hdoubled⟩
    obtain ⟨span, middle, hrun⟩ := exponent_of_doubled hdoubled
    rw [hrun]
    exact limited_eq_fault.2 ⟨rfl, rfl, rfl⟩

/-! ### An attribute -/

section Attribute

open Draft

/-- An entry of the run gives this axis a number behind two minus signs. -/
def Doubles (ts : List Tree) (close : Span) (axis : Axis) (m : Nat) : Prop :=
  ∃ s rest, Reaches (start ts close) s ∧ Gives s axis rest ∧ doubled? rest = some m

theorem ofTrees_eq_fault {ts : List Tree} {close : Span} {fault : Fault} :
    Attribute.ofTrees ts close = .error (.fault fault) ↔
      Attribute.read.run (start ts close).2 = .error (.fault fault) := by
  constructor
  · intro h
    rcases bind_eq_error.1 h with hread | ⟨⟨said, last⟩, -, hrest⟩
    · exact hread
    · rcases bind_eq_error.1 hrest with hfinish | ⟨_, _, hreturn⟩
      · -- what is left over is reported
        cases hend : last.finish with
        | error report =>
          rw [hend] at hfinish
          cases hfinish
        | ok done =>
          rw [hend] at hfinish
          cases hfinish
      · cases hreturn
  · intro h
    exact bind_eq_error.2 (.inl h)

theorem reaches_of_ofTrees {ts : List Tree} {close : Span} {said : Attribute}
    (h : Attribute.ofTrees ts close = .ok said) :
    ∃ draft last, Reaches (start ts close) (draft, last) ∧ last.tokens = [] ∧ said = draft.finish := by
  obtain ⟨⟨found, last⟩, hread, hrest⟩ := bind_eq_ok.1 h
  obtain ⟨_, _, hreturn⟩ := bind_eq_ok.1 hrest
  cases hreturn
  obtain ⟨draft, hreach, hend, hsaid⟩ := reaches_of_read hread
  exact ⟨draft, last, hreach, hend, hsaid⟩

/-- Every entry of a run that comes to its end has been read, and what it gave is in the result. -/
theorem gives_of_reaches_end {ts rest : List Tree} {close : Span} {s t : Stage} {axis : Axis}
    (hs : Reaches (start ts close) s) (ht : Reaches (start ts close) t) (hend : t.2.tokens = [])
    (hgives : Gives s axis rest) :
    ∃ n after, exponent.run (valueOf s.2) = .ok (n, after) ∧ t.1.exponents.get axis = some n := by
  have hnil : s.2.tokens ≠ [] := by
    obtain ⟨i, span, joint, sign, htokens, -⟩ := hgives
    rw [htokens]
    exact List.cons_ne_nil _ _
  have hfrom : Reaches s t := by
    rcases Relation.ReflTransGen.total_of_right_unique entry_unique hs ht with hst | hts
    · exact hst
    · have hsuffix := tokens_suffix_of_reaches hts
      rw [hend, List.suffix_nil] at hsuffix
      exact absurd hsuffix hnil
  rcases Relation.ReflTransGen.cases_head hfrom with heq | ⟨u, hentry, hrest⟩
  · rw [heq] at hnil
    exact absurd hend hnil
  · rw [Entry, readEntry_of_gives hgives] at hentry
    obtain ⟨n, after, hexponent, hdraft⟩ := axisValue_eq_ok hentry
    refine ⟨n, after, hexponent, given_of_reaches hrest ?_⟩
    rw [hdraft]
    exact PerAxis.get_set_self _ _ _

theorem attribute_eq_fault {ts : List Tree} {close : Span} {fault : Fault} :
    Attribute.ofTrees ts close = .error (.fault fault) ↔
      fault = .negOverflow ∧ ∃ axis, Doubles ts close axis 2147483648 := by
  rw [ofTrees_eq_fault, read_eq_fault_iff]
  constructor
  · rintro ⟨s, hreach, herror⟩
    obtain ⟨axis, rest, hgives, hexponent⟩ := readEntry_eq_fault.1 herror
    obtain ⟨hfault, hdoubled⟩ := exponent_eq_fault.1 hexponent
    rw [valueOf_tokens hgives] at hdoubled
    exact ⟨hfault, axis, s, rest, hreach, hgives, hdoubled⟩
  · rintro ⟨hfault, axis, s, rest, hreach, hgives, hdoubled⟩
    rw [← valueOf_tokens hgives] at hdoubled
    exact ⟨s, hreach, readEntry_eq_fault.2 ⟨axis, rest, hgives, exponent_eq_fault.2 ⟨hfault, hdoubled⟩⟩⟩

theorem finish_exponent (draft : Draft) (axis : Axis) :
    (draft.finish.exponents.get axis) = (draft.exponents.get axis).getD Fixed.zero :=
  PerAxis.get_map _ _ _

/-- A doubled minus sign is no sign at all. -/
theorem exponent_of_doubles {ts : List Tree} {close : Span} {said : Attribute} {axis : Axis} {m : Nat}
    (h : Attribute.ofTrees ts close = .ok said) (hdoubles : Doubles ts close axis m) :
    (said.exponents.get axis).toInt = m := by
  obtain ⟨draft, last, hreach, hend, rfl⟩ := reaches_of_ofTrees h
  obtain ⟨s, rest, hs, hgives, hdoubled⟩ := hdoubles
  obtain ⟨n, after, hexponent, hgiven⟩ := gives_of_reaches_end hs hreach hend hgives
  rw [finish_exponent, hgiven]
  refine (exponent_eq_ok hexponent).1 m ?_
  rw [valueOf_tokens hgives]
  exact hdoubled

theorem attribute_exceeds {ts : List Tree} {close : Span} {said : Attribute} {axis : Axis}
    (h : Attribute.ofTrees ts close = .ok said) :
    ¬ Bounded (said.exponents.get axis).toInt ↔ ∃ m, greatestExponent < m ∧ Doubles ts close axis m := by
  constructor
  · intro hout
    obtain ⟨draft, last, hreach, hend, rfl⟩ := reaches_of_ofTrees h
    rw [finish_exponent] at hout
    cases hgiven : draft.exponents.get axis with
    | none =>
      rw [hgiven] at hout
      exact absurd (by decide) hout
    | some n =>
      rw [hgiven] at hout
      obtain ⟨s, rest, after, hs, hgives, hexponent⟩ := gave_of_reaches hreach hgiven
      obtain ⟨hvalue, hbounded⟩ := exponent_eq_ok hexponent
      rw [valueOf_tokens hgives] at hvalue hbounded
      cases hdoubled : doubled? rest with
      | none => exact absurd (hbounded hdoubled) hout
      | some m =>
        have hn : n.toInt = m := hvalue m hdoubled
        refine ⟨m, ?_, s, rest, hs, hgives, hdoubled⟩
        have hout' : ¬ (-(greatestExponent : Int) ≤ n.toInt ∧ n.toInt ≤ greatestExponent) := hout
        omega
  · rintro ⟨m, hlarge, hdoubles⟩ ⟨-, hle⟩
    have hm := exponent_of_doubles h hdoubles
    omega

end Attribute

/-! ### An item -/

/-- The types that spell the exponents within the bound. -/
def BoundedName (t : Text) : Prop :=
  t = ['Z', '0'] ∨
    ∃ n, 1 ≤ n ∧ n ≤ greatestExponent ∧ (t = 'P' :: Decimal.ofNat n ∨ t = 'N' :: Decimal.ofNat n)

theorem boundedName_exponentName {n : Int} : BoundedName (exponentName n) ↔ Bounded n := by
  constructor
  · intro h
    have hread := exponentOf?_exponentName n
    rcases h with hzero | ⟨k, -, hle, hpositive | hnegative⟩
    · rw [hzero] at hread
      cases hread
      decide
    · rw [hpositive, exponentOf?, Decimal.toNat?_ofNat] at hread
      have hn : (k : Int) = n := Option.some.inj hread
      exact ⟨by omega, by omega⟩
    · rw [hnegative, exponentOf?, Decimal.toNat?_ofNat] at hread
      have hn : -(k : Int) = n := Option.some.inj hread
      exact ⟨by omega, by omega⟩
  · rintro ⟨hlow, hhigh⟩
    by_cases hzero : n = 0
    · rw [hzero]
      exact .inl rfl
    · refine .inr ⟨n.natAbs, by omega, by omega, ?_⟩
      by_cases hpositive : 0 < n
      · rw [exponentName, if_neg hzero, if_pos hpositive]
        exact .inl rfl
      · rw [exponentName, if_neg hzero, if_neg hpositive]
        exact .inr rfl

theorem marker_exceeds {item : Item} {m : Marker} {axis : Axis} (h : markerOf item = .ok m) :
    ¬ BoundedName (exponentName (m.exponents.get axis)) ↔
      ∃ ts close k, Says item ts close ∧ greatestExponent < k ∧ Doubles ts close axis k := by
  obtain ⟨said, hsaid, hexponents⟩ := markerOf_eq_ok h
  have hget : m.exponents.get axis = (said.exponents.get axis).toInt := by
    rw [hexponents]
    exact PerAxis.get_map _ _ _
  rw [boundedName_exponentName, hget]
  rcases attributeOf_eq_ok hsaid with ⟨hnone, rfl⟩ | ⟨ts, close, hsays, hread⟩
  · constructor
    · intro hout
      refine absurd ?_ hout
      rw [show Attribute.default.exponents.get axis = Fixed.zero from PerAxis.get_const _ _]
      decide
    · rintro ⟨ts, close, k, ⟨tag, more, htags, -⟩, -⟩
      rw [hnone] at htags
      cases htags
  · rw [attribute_exceeds hread]
    constructor
    · rintro ⟨k, hlarge, hdoubles⟩
      exact ⟨ts, close, k, hsays, hlarge, hdoubles⟩
    · rintro ⟨ts', close', k, hsays', hlarge, hdoubles⟩
      obtain ⟨rfl, rfl⟩ := says_unique hsays hsays'
      exact ⟨k, hlarge, hdoubles⟩

/-- **Where exponents go past the bound.**  Reading an attribute stops with a fault exactly when an entry
of it doubles the minus sign of the least value; what is read exceeds the bound on an axis exactly when
the entry of that axis doubles the minus sign of a number past it, which then stands there without a
sign.  The same holds of the types that an item spells its exponents with. -/
theorem exponents_bounded_iff (ts : List Tree) (close : Span) (item : Item) :
    (∀ fault, Attribute.ofTrees ts close = .error (.fault fault) ↔
      fault = .negOverflow ∧ ∃ axis, Doubles ts close axis (2 ^ 31)) ∧
    (∀ said axis, Attribute.ofTrees ts close = .ok said →
      (¬ Bounded (said.exponents.get axis).toInt ↔
        ∃ m, greatestExponent < m ∧ Doubles ts close axis m) ∧
      ∀ m, Doubles ts close axis m → (said.exponents.get axis).toInt = m) ∧
    (∀ fault, markerOf item = .error (.fault fault) ↔
      item.parameters = none ∧ fault = .negOverflow ∧
        ∃ ts close axis, Says item ts close ∧ Doubles ts close axis (2 ^ 31)) ∧
    (∀ m axis, markerOf item = .ok m →
      (¬ BoundedName (exponentName (m.exponents.get axis)) ↔
        ∃ ts close k, Says item ts close ∧ greatestExponent < k ∧ Doubles ts close axis k)) := by
  refine ⟨?_, ?_, ?_, ?_⟩
  · intro fault
    exact attribute_eq_fault
  · intro said axis h
    exact ⟨attribute_exceeds h, fun m hdoubles => exponent_of_doubles h hdoubles⟩
  · intro fault
    rw [markerOf_eq_fault, attributeOf_eq_fault]
    refine and_congr_right fun _ => ?_
    constructor
    · rintro ⟨ts, close, hsays, hfault⟩
      obtain ⟨hname, axis, hdoubles⟩ := attribute_eq_fault.1 hfault
      exact ⟨hname, ts, close, axis, hsays, hdoubles⟩
    · rintro ⟨hname, ts, close, axis, hsays, hdoubles⟩
      exact ⟨ts, close, hsays, attribute_eq_fault.2 ⟨hname, axis, hdoubles⟩⟩
  · intro m axis h
    exact marker_exceeds h

/-- The tokens of `time = --100`. -/
def doubledTime : List Tree :=
  [.ident (.plain "time".toList) .whole, .punct '=' false .whole, .punct '-' true .whole,
    .punct '-' false .whole, .literal "100".toList .whole]

/-- A type with these tokens as its attribute. -/
def doubledItem : Item where
  tags := [⟨.ofIdents false (.plain "dimension".toList) [], .whole, .arguments doubledTime .whole, .whole⟩]
  name := .plain "Pulse".toList
  parameters := none

theorem doubledTime_read :
    (Attribute.ofTrees doubledTime .whole).toOption.map (·.exponents.powers.time) = some 100 := by
  decide +kernel

theorem doubledItem_read : (markerOf doubledItem).toOption.map (·.exponents.time) = some 100 := by
  decide +kernel

/-- The doubled sign takes the time past the bound, in the attribute and in the type that spells it. -/
theorem exponents_bounded_iff_doubledTime :
    (∃ said, Attribute.ofTrees doubledTime .whole = .ok said ∧
      ¬ Bounded (said.exponents.get .time).toInt ∧
      ∃ m, greatestExponent < m ∧ Doubles doubledTime .whole .time m) ∧
    ∃ m, markerOf doubledItem = .ok m ∧ ¬ BoundedName (exponentName (m.exponents.get .time)) := by
  have hiff := exponents_bounded_iff doubledTime .whole doubledItem
  have hattribute : ∃ said, Attribute.ofTrees doubledTime .whole = .ok said ∧
      (said.exponents.get .time).toInt = 100 := by
    have hread := doubledTime_read
    cases hsaid : Attribute.ofTrees doubledTime .whole with
    | error failure =>
      rw [hsaid] at hread
      cases hread
    | ok said =>
      rw [hsaid] at hread
      exact ⟨said, rfl, Option.some.inj hread⟩
  obtain ⟨said, hsaid, htime⟩ := hattribute
  have hout : ¬ Bounded (said.exponents.get .time).toInt := by
    rw [htime]
    decide
  have hlarge := (hiff.2.1 said .time hsaid).1.1 hout
  refine ⟨⟨said, hsaid, hout, hlarge⟩, ?_⟩
  have hread := doubledItem_read
  cases hmarker : markerOf doubledItem with
  | error failure =>
    rw [hmarker] at hread
    cases hread
  | ok m =>
    refine ⟨m, rfl, (hiff.2.2.2 m .time hmarker).2 ?_⟩
    obtain ⟨k, hk, hdoubles⟩ := hlarge
    exact ⟨doubledTime, .whole, k, ⟨_, [], rfl, rfl⟩, hk, hdoubles⟩

end Dimensional.Derive
