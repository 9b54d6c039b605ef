import Dimensional.Source.Number

/-!
# Numerals

A whole number can be written in one of four bases, with underlines among its digits and a suffix behind
them. Its value depends on the digits alone.

* `Numeral` — a whole number as it is written;
* `wholeDigits_append` — what is read of the digits and what is left as the suffix;
* `Numeral.wholeValue?_text` — a numeral has the value of its digits.
-/

namespace Dimensional.Source.Literal

/-- The bases a number can be written in. -/
inductive Base where
  | decimal
  | hexadecimal
  | octal
  | binary
  deriving DecidableEq, Repr

namespace Base

def radix : Base → Nat
  | decimal => 10
  | hexadecimal => 16
  | octal => 8
  | binary => 2

/-- What announces the base. -/
def announced : Base → Text
  | decimal => []
  | hexadecimal => ['0', 'x']
  | octal => ['0', 'o']
  | binary => ['0', 'b']

end Base

/-- The digit that a character is in a base; beyond ten a letter is a digit. -/
def digit? (radix : Nat) (c : Char) : Option Nat := if c.isDigit || 10 < radix then hexDigit? c else none

/-- An underline, or a digit of the base. -/
def InDigits (radix : Nat) (c : Char) : Prop := c = '_' ∨ ∃ d, digit? radix c = some d ∧ d < radix

/-- Nothing, or an identifier that continues neither the digits nor, as an exponent, a decimal. -/
structure SuffixFor (radix : Nat) (suffix : Text) : Prop where
  isSuffix : isSuffix suffix = true
  noDigit : ∀ c rest, suffix = c :: rest → c ≠ '_' ∧ digit? radix c = none
  noExponent : radix = 10 → ∀ c rest, suffix = c :: rest → c = 'e' ∨ c = 'E' → beginsExponent false rest = false

/-- The value of digits behind those that make up `value`, the underlines passed over. -/
def valueFrom (radix : Nat) (value : Nat) (digits : Text) : Nat :=
  (digits.filter (· ≠ '_')).foldl (fun value c => radix * value + (digit? radix c).getD 0) value

/-- A whole number as it is written. -/
structure Numeral where
  base : Base
  digits : Text
  suffix : Text
  digitsOnly : ∀ c ∈ digits, InDigits base.radix c
  someDigit : ∃ c ∈ digits, c ≠ '_'
  isSuffix : SuffixFor base.radix suffix
  /-- A decimal begins with a digit, and announces no other base. -/
  decimal : base = .decimal →
    (∃ c rest, digits = c :: rest ∧ c.isDigit = true) ∧ baseOf (digits ++ suffix) = (10, digits ++ suffix)

namespace Numeral

def text (w : Numeral) : Text := w.base.announced ++ (w.digits ++ w.suffix)

/-- The value of the digits. -/
def value (w : Numeral) : Nat := valueFrom w.base.radix 0 w.digits

end Numeral

/-! ### Reading the digits -/

@[simp] theorem valueFrom_nil (radix value : Nat) : valueFrom radix value [] = value := rfl

@[simp] theorem valueFrom_underline (radix value : Nat) (digits : Text) :
    valueFrom radix value ('_' :: digits) = valueFrom radix value digits := rfl

theorem valueFrom_digit {radix : Nat} {c : Char} {d : Nat} (hline : c ≠ '_') (hd : digit? radix c = some d)
    (value : Nat) (digits : Text) :
    valueFrom radix value (c :: digits) = valueFrom radix (radix * value + d) digits := by
  simp [valueFrom, hline, hd]

theorem wholeDigits_underline (radix : Nat) (found : Bool) (value : Nat) (rest : Text) :
    wholeDigits radix found value ('_' :: rest) = wholeDigits radix found value rest := by
  rw [wholeDigits, if_pos rfl]

theorem wholeDigits_digit {radix : Nat} {c : Char} {d : Nat} (hline : c ≠ '_') (hd : digit? radix c = some d)
    (hlt : d < radix) (found : Bool) (value : Nat) (rest : Text) :
    wholeDigits radix found value (c :: rest) = wholeDigits radix true (radix * value + d) rest := by
  rw [digit?] at hd
  rw [wholeDigits, if_neg hline, hd]
  simp [hlt]

/-- Behind the digits the suffix is left. -/
theorem wholeDigits_suffix {radix : Nat} {suffix : Text} (h : SuffixFor radix suffix) (value : Nat) :
    wholeDigits radix true value suffix = some (value, suffix) := by
  cases suffix with
  | nil => rfl
  | cons c rest =>
    obtain ⟨hline, hd⟩ := h.noDigit c rest rfl
    have hpoint : ¬ (radix = 10 ∧ c = '.') := by
      intro hpoint
      have hstart : Identifier.isStart '.' = false := by decide
      have hsuffix := h.isSuffix
      rw [hpoint.2, isSuffix, hstart, Bool.false_and] at hsuffix
      cases hsuffix
    have hexponent : ¬ (radix = 10 ∧ (c = 'e' ∨ c = 'E') ∧ beginsExponent false rest = true) := by
      intro hexponent
      obtain ⟨hten, hletter, hbegins⟩ := hexponent
      rw [h.noExponent hten c rest rfl hletter] at hbegins
      cases hbegins
    rw [digit?] at hd
    rw [wholeDigits, if_neg hline, hd]
    simp only [if_neg hpoint, if_neg hexponent, Bool.true_and]
    rw [if_pos h.isSuffix]

/-- **Digits are read to the suffix behind them**, if there is one at least. -/
theorem wholeDigits_append {radix : Nat} {suffix : Text} (h : SuffixFor radix suffix) (digits : Text)
    (hdigits : ∀ c ∈ digits, InDigits radix c) :
    ∀ (found : Bool) (value : Nat), found = true ∨ (∃ c ∈ digits, c ≠ '_') →
      wholeDigits radix found value (digits ++ suffix) = some (valueFrom radix value digits, suffix) := by
  induction digits with
  | nil =>
    intro found value hfound
    have hfound' : found = true := by simpa using hfound
    subst hfound'
    exact wholeDigits_suffix h value
  | cons c digits ih =>
    have htail : ∀ c ∈ digits, InDigits radix c := fun c hc => hdigits c (List.mem_cons_of_mem _ hc)
    intro found value hfound
    by_cases hline : c = '_'
    · subst hline
      have hfound' : found = true ∨ ∃ c ∈ digits, c ≠ '_' := by simpa using hfound
      rw [List.cons_append, wholeDigits_underline, valueFrom_underline]
      exact ih htail found value hfound'
    · obtain hline' | ⟨d, hd, hlt⟩ := hdigits c List.mem_cons_self
      · exact absurd hline' hline
      · rw [List.cons_append, wholeDigits_digit hline hd hlt, valueFrom_digit hline hd]
        exact ih htail true _ (.inl rfl)

/-! ### Reading a numeral -/

namespace Numeral

theorem baseOf_text (w : Numeral) : baseOf w.text = (w.base.radix, w.digits ++ w.suffix) := by
  rw [text]
  cases hbase : w.base with
  | decimal => exact (w.decimal hbase).2
  | hexadecimal => rfl
  | octal => rfl
  | binary => rfl

theorem text_eq_cons (w : Numeral) : ∃ c rest, w.text = c :: rest ∧ c.isDigit = true := by
  rw [text]
  cases hbase : w.base with
  | decimal =>
    obtain ⟨⟨c, rest, hdigits, hc⟩, -⟩ := w.decimal hbase
    exact ⟨c, rest ++ w.suffix, by simp [hdigits, Base.announced], hc⟩
  | hexadecimal => exact ⟨_, _, rfl, rfl⟩
  | octal => exact ⟨_, _, rfl, rfl⟩
  | binary => exact ⟨_, _, rfl, rfl⟩

/-- **A numeral has the value of its digits**, whatever its base, its underlines and its suffix. -/
theorem wholeValue?_text (w : Numeral) : wholeValue? w.text = some w.value := by
  obtain ⟨c, rest, htext, hc⟩ := w.text_eq_cons
  have hread := wholeDigits_append w.isSuffix w.digits w.digitsOnly false 0 (.inr w.someDigit)
  have hbase := w.baseOf_text
  have hnumber : wholeNumber? w.text = some (w.value, w.suffix) := by
    rw [htext] at hbase ⊢
    simp only [wholeNumber?, hc, if_true, hbase]
    exact hread
  rw [wholeValue?, hnumber]
  rfl

/-- In base sixteen `6_4` is a hundred, with a suffix or without. -/
example : wholeValue? "0x6_4u8".toList = some 100 := by decide +kernel

end Numeral

end Dimensional.Source.Literal
