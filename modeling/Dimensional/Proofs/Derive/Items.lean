import Dimensional.Derive.Derivation

/-!
# The tag of an item

Of the tags of an item only those named after the dimension count, and of these the first is read before
another one is refused.  So the tokens that decide the exponents of an item are the arguments of its first
such tag:

* `Says` — these are those tokens; `says_unique` — there is one list of them at most;
* `attributeOf_eq_ok`, `markerOf_eq_ok` — what is declared is what they say, or the default;
* `attributeOf_eq_fault`, `markerOf_eq_fault` — the arithmetic stops where it does on them.
-/

namespace Dimensional.Derive

open Source

/-- These are the arguments of the first tag that concerns the dimension. -/
def Says (item : Item) (ts : List Tree) (close : Span) : Prop :=
  ∃ tag more, item.tags.filter (·.isNamed "dimension") = tag :: more ∧ tag.content = .arguments ts close

theorem says_unique {item : Item} {ts ts' : List Tree} {close close' : Span} (h : Says item ts close)
    (h' : Says item ts' close') : ts' = ts ∧ close' = close := by
  obtain ⟨tag, more, htags, hcontent⟩ := h
  obtain ⟨tag', more', htags', hcontent'⟩ := h'
  rw [htags] at htags'
  cases htags'
  rw [hcontent] at hcontent'
  cases hcontent'
  exact ⟨rfl, rfl⟩

/-- A marker has the exponents of the one tag that concerns the dimension, or none. -/
theorem attributeOf_eq_ok {item : Item} {said : Attribute} (h : attributeOf item.tags = .ok said) :
    (item.tags.filter (·.isNamed "dimension") = [] ∧ said = .default) ∨
      ∃ ts close, Says item ts close ∧ Attribute.ofTrees ts close = .ok said := by
  unfold attributeOf at h
  split at h
  · next hnone =>
    cases h
    exact .inl ⟨hnone, rfl⟩
  · next tag hone =>
    unfold Tag.read at h
    split at h
    · cases h
    · cases h
    · next ts close hcontent => exact .inr ⟨ts, close, ⟨tag, [], hone, hcontent⟩, h⟩
  · obtain ⟨_, _, herror⟩ := bind_eq_ok.1 h
    cases herror

theorem tagRead_eq_fault {tag : Tag} {fault : Fault} :
    tag.read = .error (.fault fault) ↔
      ∃ ts close, tag.content = .arguments ts close ∧ Attribute.ofTrees ts close = .error (.fault fault) := by
  unfold Tag.read
  cases tag.content with
  | bare => exact ⟨nofun, fun ⟨_, _, h, _⟩ => nomatch h⟩
  | value sign => exact ⟨nofun, fun ⟨_, _, h, _⟩ => nomatch h⟩
  | arguments ts close =>
    constructor
    · intro h
      exact ⟨ts, close, rfl, h⟩
    · rintro ⟨ts', close', hsame, h⟩
      cases hsame
      exact h

/-- The first tag that concerns the dimension is read before another one is refused. -/
theorem attributeOf_eq_fault {item : Item} {fault : Fault} :
    attributeOf item.tags = .error (.fault fault) ↔
      ∃ ts close, Says item ts close ∧ Attribute.ofTrees ts close = .error (.fault fault) := by
  have hfirst : attributeOf item.tags = .error (.fault fault) ↔
      ∃ tag more, item.tags.filter (·.isNamed "dimension") = tag :: more ∧
        tag.read = .error (.fault fault) := by
    unfold attributeOf
    cases item.tags.filter (·.isNamed "dimension") with
    | nil => exact ⟨nofun, fun ⟨_, _, h, _⟩ => nomatch h⟩
    | cons tag more =>
      cases more with
      | nil =>
        constructor
        · intro h
          exact ⟨tag, [], rfl, h⟩
        · rintro ⟨_, _, hsame, h⟩
          cases hsame
          exact h
      | cons second more =>
        constructor
        · intro h
          rcases bind_eq_error.1 h with hread | ⟨_, _, herror⟩
          · exact ⟨tag, second :: more, rfl, hread⟩
          · cases herror
        · rintro ⟨_, _, hsame, h⟩
          cases hsame
          exact bind_eq_error.2 (.inl h)
  rw [hfirst]
  constructor
  · rintro ⟨tag, more, htags, hread⟩
    obtain ⟨ts, close, hcontent, h⟩ := tagRead_eq_fault.1 hread
    exact ⟨ts, close, ⟨tag, more, htags, hcontent⟩, h⟩
  · rintro ⟨ts, close, ⟨tag, more, htags, hcontent⟩, h⟩
    exact ⟨tag, more, htags, tagRead_eq_fault.2 ⟨ts, close, hcontent, h⟩⟩

theorem markerOf_eq_ok {item : Item} {m : Marker} (h : markerOf item = .ok m) :
    ∃ said, attributeOf item.tags = .ok said ∧ m.exponents = said.exponents.powers := by
  unfold markerOf at h
  split at h
  · cases h
  · obtain ⟨said, hsaid, hreturn⟩ := bind_eq_ok.1 h
    cases hreturn
    exact ⟨said, hsaid, rfl⟩

theorem markerOf_eq_fault {item : Item} {fault : Fault} :
    markerOf item = .error (.fault fault) ↔
      item.parameters = none ∧ attributeOf item.tags = .error (.fault fault) := by
  unfold markerOf
  cases item.parameters with
  | some span => exact ⟨nofun, fun ⟨h, _⟩ => nomatch h⟩
  | none =>
    constructor
    · intro h
      rcases bind_eq_error.1 h with hread | ⟨_, _, hreturn⟩
      · exact ⟨rfl, hread⟩
      · cases hreturn
    · rintro ⟨-, h⟩
      exact bind_eq_error.2 (.inl h)

end Dimensional.Derive
