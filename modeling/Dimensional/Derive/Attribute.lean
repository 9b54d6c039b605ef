import Dimensional.Derive.Exponent
import Dimensional.Derive.Grammar.Level
import Dimensional.Exponents
import Dimensional.Source.Lexer

/-!
# The dimension attribute

The arguments of the attribute are entries `key = value`, a comma behind each or not. A physical axis
takes an exponent, and the key `crate` a path to where dimensions are declared. A key comes once; what
is not given is zero, or the usual path.
-/

namespace Dimensional.Derive

open Source

/-- A path, its arguments as deep as the tokens go. -/
def Path.read : Reader Path := do
  Grammar.path (Grammar.Rules.enough (← tokens)) false

/-- What the dimension attribute says. -/
structure Attribute where
  exponents : Exponents
  path : Path
  deriving DecidableEq

namespace Attribute

/-- Where dimensions are declared unless the attribute says otherwise. -/
def usualPath : Path := .ofIdents true (.plain "dimq".toList) []

/-- The attribute that says nothing: dimensionless, under the usual path. -/
def default : Attribute := ⟨Exponents.one, usualPath⟩

end Attribute

/-- The keys of the attribute. -/
inductive Key where
  | axis (axis : Axis)
  | path
  deriving DecidableEq, Repr

namespace Key

/-- The key of this name, which must not be raw. -/
def ofIdent? (i : Ident) : Option Key :=
  if i.raw then none
  else if i.name = "crate".toList then some path
  else (Axis.physical.find? fun a => a.name.toList == i.name).map axis

end Key

/-- The entries that have been read. -/
structure Draft where
  exponents : PerAxis (Option (Fixed .i32))
  path : Option Path
  deriving DecidableEq

namespace Draft

/-- No entries. -/
def empty : Draft := ⟨PerAxis.const none, none⟩

/-- The key has been read. -/
def has (draft : Draft) : Key → Bool
  | .axis a => (draft.exponents.get a).isSome
  | .path => draft.path.isSome

/-- The value of a key, added to the entries. -/
def readValue (draft : Draft) : Key → Reading Failure Draft
  | .axis a => return { draft with exponents := draft.exponents.set a (some (← exponent)) }
  | .path => return { draft with path := some (← Path.read) }

/-- The value of a key, and the comma behind it if there is one. -/
def readValueAndComma (draft : Draft) (key : Key) : Reading Failure Draft := do
  let draft ← draft.readValue key
  let _ ← mark? ","
  return draft

/-- One entry. The key is judged after its `=`, and before its value. -/
def readEntry (draft : Draft) : Reading Failure Draft := do
  let (i, span) ← name
  mark "="
  match Key.ofIdent? i with
  | none => failAt span (.unknownKey i.text)
  | some key =>
    if draft.has key then failAt span (.duplicateKey i.text)
    else draft.readValueAndComma key

/-- Entries to the end. Each takes a token at least. -/
def readEntries : Nat → Draft → Reading Failure Draft
  | 0, draft => return draft
  | fuel + 1, draft => do
    if (← tokens).isEmpty then return draft
    readEntries fuel (← draft.readEntry)

/-- The attribute of the entries. -/
def finish (draft : Draft) : Attribute where
  exponents := draft.exponents.map fun n => n.getD Fixed.zero
  path := draft.path.getD Attribute.usualPath

/-- Without entries the attribute is the default one. -/
example : empty.finish = Attribute.default := by decide

end Draft

namespace Attribute

/-- The arguments of the attribute. -/
def read : Reading Failure Attribute := do
  let fuel := (← tokens).length
  return (← Draft.empty.readEntries (fuel + 1)).finish

/-- The attribute with these tokens as its arguments, between delimiters that close there. -/
def ofTrees (ts : List Tree) (close : Span) : Except Failure Attribute := readAll read ts close

/-- The attribute with this text as its arguments. -/
def ofText (cs : Text) : Except Failure Attribute :=
  match treesOfText? cs with
  | some ts => ofTrees ts .whole
  | none => .error .unreadable

end Attribute

/-- The path with this text. -/
def Path.ofText (cs : Text) : Except Failure Path :=
  match treesOfText? cs with
  | some ts => readAll Path.read ts .whole
  | none => .error .unreadable

end Dimensional.Derive
