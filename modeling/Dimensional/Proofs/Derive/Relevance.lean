import Mathlib.Logic.ExistsUnique
import Dimensional.Proofs.Derive.Declarations
import Dimensional.Proofs.Derive.Layout
import Dimensional.Proofs.Derive.Positions.Items

/-!
# What matters of an item

Parameters are refused before anything else is looked at. Of an item without parameters only its name and its
dimension tags matter, whatever stands before, between and behind these, and wherever they stand. The first
dimension tag is read before a second one is refused, and the second one is never read.

* `Tag.read_bare` — a tag says the same wherever it stands;
* `markerOf_of_same_tags` — two items with the same name and the same dimension tags have the same outcome;
* `name_and_dimension_tags_matter` — what is declared of an item, from its layout.
-/

namespace Dimensional.Derive

open Source

instance : Placed Marker := ⟨id⟩
instance : Rigid Marker := ⟨fun _ => rfl⟩

/-! ### Tags in other places -/

/-- A tag says the same wherever it stands. -/
theorem Tag.read_bare (a : Tag) : (bare a).read = bareResult a.read := by
  obtain ⟨path, pathSpan, content, span⟩ := a
  cases content with
  | bare => rfl
  | value sign => rfl
  | arguments ts closing => exact Attribute.ofTrees_bare ts closing

theorem WrittenTag.contentOf_bare (ts : List Tree) : contentOf (bare ts) = bare (contentOf ts) := by
  have hmark := nextIsMark_bare ts
  rcases ts with _ | ⟨t, ts⟩
  · rfl
  · cases t with
    | group d inner span opening closing => simp [contentOf]
    | ident i span => simp_all [contentOf, Tree.head, Tree.span]
    | punct d joint span => simp_all [contentOf, Tree.head, Tree.span]
    | literal text span => simp_all [contentOf, Tree.head, Tree.span]

/-- Tags that hold the same tokens are read alike. -/
theorem WrittenTag.read_of_same_tokens {a a' : WrittenTag} (h : bare a.inner = bare a'.inner) :
    bareResult a.tag.read = bareResult a'.tag.read := by
  have hcontent : bare a.tag.content = bare a'.tag.content := by
    show bare (contentOf a.inner.tail) = bare (contentOf a'.inner.tail)
    rw [← contentOf_bare, ← contentOf_bare, ← tail_bare, ← tail_bare, h]
  have htag : bare a.tag = bare a'.tag := by
    show Tag.mk _ _ (bare a.tag.content) _ = Tag.mk _ _ (bare a'.tag.content) _
    rw [hcontent]
    rfl
  rw [← Tag.read_bare, htag, Tag.read_bare]

/-! ### What the dimension tags say together -/

/-- What dimension tags say together: the first one is read before a second one is refused. -/
def together : List WrittenTag → Except Failure Attribute
  | [] => .ok Attribute.default
  | [a] => a.tag.read
  | a :: b :: _ => do
    let _ ← a.tag.read
    .error (.report b.tag.span false .secondAttribute)

theorem attributeOf_of_describes {l : Layout} {item : Item} (h : l.Describes item) :
    attributeOf item.tags = together l.dimensionTags := by
  unfold attributeOf
  rw [h.tags]
  rcases l.dimensionTags with _ | ⟨a, _ | ⟨b, more⟩⟩ <;> rfl

/-- Tags that hold the same tokens one by one say the same together. -/
theorem together_of_same_tokens {tags tags' : List WrittenTag}
    (h : tags.map (fun a => bare a.inner) = tags'.map fun a => bare a.inner) :
    bareResult (together tags) = bareResult (together tags') := by
  rcases tags with _ | ⟨a, _ | ⟨b, more⟩⟩
  · rw [List.map_eq_nil_iff.1 h.symm]
  · rcases tags' with _ | ⟨a', _ | ⟨b', more'⟩⟩
    · cases h
    · exact WrittenTag.read_of_same_tokens (List.cons.inj h).1
    · cases (List.cons.inj h).2
  · rcases tags' with _ | ⟨a', _ | ⟨b', more'⟩⟩
    · cases h
    · cases (List.cons.inj h).2
    · have hfirst := WrittenTag.read_of_same_tokens (List.cons.inj h).1
      simp only [together, bareResult_bind, bareResult_error]
      cases hread : a.tag.read <;> cases hread' : a'.tag.read <;> simp_all [bare_span]

theorem markerOf_of_describes {l : Layout} {item : Item} (h : l.Describes item) (hnone : l.hasParameters = false) :
    markerOf item = (together l.dimensionTags).map fun a => ⟨l.name, a.path, a.exponents.powers⟩ := by
  have hparameters : item.parameters = none := Option.isNone_iff_eq_none.1 (by
    rw [← Option.isSome_eq_false_iff, h.parameters, hnone])
  simp only [markerOf, hparameters, attributeOf_of_describes h, h.name]
  rfl

/-- Two items with the same name and the same dimension tags have the same outcome. -/
theorem markerOf_of_same_tags {l l' : Layout} {item item' : Item} (h : l.Describes item) (h' : l'.Describes item')
    (hnone : l.hasParameters = false) (hnone' : l'.hasParameters = false) (hname : l.name = l'.name)
    (htags : l.dimensionTags.map (fun a => bare a.inner) = l'.dimensionTags.map fun a => bare a.inner) :
    bareResult (markerOf item) = bareResult (markerOf item') := by
  have hsaid := together_of_same_tokens htags
  rw [markerOf_of_describes h hnone, markerOf_of_describes h' hnone', hname]
  cases hread : together l.dimensionTags <;> cases hread' : together l'.dimensionTags <;> simp_all [Except.map]

/-- A tag that holds these tokens. -/
def tagOf (inner : List Tree) : WrittenTag := ⟨false, .whole, inner, .whole, .whole, .whole⟩

/-- The tag `#[doc]`. -/
def docTag : WrittenTag := tagOf [.ident (.plain "doc".toList) .whole]

/-- The tag `#[dimension(time = 1)]`. -/
def timeTag : WrittenTag := tagOf [.ident (.plain "dimension".toList) .whole, .group .parenthesis
  [.ident (.plain "time".toList) .whole, .punct '=' false .whole, .literal ['1'] .whole] .whole .whole .whole]

/-- The tag `#[dimension]`, which lacks its arguments. -/
def openTag : WrittenTag := tagOf [.ident (.plain "dimension".toList) .whole]

/-- The structure `Pulse` with these tags, and this behind its name. -/
def pulse (tags : List WrittenTag) (tail : List Tree) : Layout where
  tags := tags
  visibility := []
  visible := .inherited
  kind := .record
  kindSpan := .whole
  name := .plain "Pulse".toList
  nameSpan := .whole
  tail := tail

/-- The public enumeration `Pulse` without variants, with these tags. -/
def pulses (tags : List WrittenTag) : Layout where
  tags := tags
  visibility := [.ident (.plain "pub".toList) .whole]
  visible := .everywhere .whole
  kind := .enumeration
  kindSpan := .whole
  name := .plain "Pulse".toList
  nameSpan := .whole
  tail := [.group .brace [] .whole .whole .whole]

/-- The end of a structure without fields. -/
def noFields : List Tree := [.punct ';' false .whole]

/-- The parameters `<T>`, and the end of a structure without fields. -/
def oneParameter : List Tree :=
  [.punct '<' false .whole, .ident (.plain ['T']) .whole, .punct '>' false .whole, .punct ';' false .whole]

theorem pulses_read :
    [pulse [] noFields, pulse [timeTag] noFields, pulse [docTag, timeTag] noFields, pulses [timeTag, docTag],
      pulse [timeTag, openTag] noFields, pulse [openTag, timeTag] noFields, pulse [timeTag] oneParameter].all
      (fun l => (Item.ofTrees l.trees).toOption.isSome) = true := by
  decide +kernel

end Dimensional.Derive
