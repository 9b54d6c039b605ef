import Dimensional.Derive.Item
import Dimensional.Derive.Marker

/-!
# From an item to its declaration as a marker

The item must have no parameters, and at most one dimension tag, whose arguments give the
exponents. Its other parts have no influence on what is declared.

* `markerOf_name` — a marker has the name of its item.
-/

namespace Dimensional.Derive

open Source

/-- What a dimension tag says. -/
def Tag.read (a : Tag) : Except Failure Attribute :=
  match a.content with
  | .bare => .error (.report a.pathSpan false .noArguments)
  | .value sign => .error (.report sign false .noParentheses)
  | .arguments ts closing => Attribute.ofTrees ts closing

/-- What the tags of an item say together. The first that concerns the dimension is read; one
more is refused, and is not read. -/
def attributeOf (tags : List Tag) : Except Failure Attribute :=
  match tags.filter (·.isNamed "dimension") with
  | [] => .ok Attribute.default
  | [a] => a.read
  | a :: b :: _ => do
    let _ ← a.read
    .error (.report b.span false .secondAttribute)

/-- The marker that an item declares. -/
def markerOf (item : Item) : Except Failure Marker :=
  match item.parameters with
  | some span => .error (.report span false .generics)
  | none => do
    let said ← attributeOf item.tags
    return { name := item.name, path := said.path, exponents := said.exponents.powers }

/-- The marker that the item of a source text declares. -/
def markerOfText (cs : Text) : Except Failure Marker :=
  match treesOfText? cs with
  | some ts => do markerOf (← Item.ofTrees ts)
  | none => .error .unreadable

theorem markerOf_name {item : Item} {m : Marker} (h : markerOf item = .ok m) :
    m.name = item.name := by
  unfold markerOf at h
  split at h
  · exact nomatch h
  · obtain ⟨_, _, h⟩ := bind_eq_ok.1 h
    cases h
    rfl

end Dimensional.Derive
