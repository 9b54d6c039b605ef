import Dimensional.Proofs.Json.Integers
import Dimensional.Proofs.Quantity.Language

/-!
# Tagged quantities as documents

A tagged text is that of an object with two members, whatever is written for the scalar.  It is read under the
dimensions with the exponents that it lists, as what its content stands for.

* `tagged`, `text_tagged` — a tagged text is that of a document;
* `accepts_tagged` — what its members say;
* `readTagged_tagged`, `readTagged_of_error` — what it is read as.
-/

namespace Dimensional.Wire

open Json

variable {reals : RealReader} {d d' : Dimension} {k l : ScalarKind}

/-- The exponents as a written list. -/
def exponentsValue (e : Exponents) : Value :=
  .array .none (e.toList.map fun n => .tight (.number (.ofInt n.toInt)))

/-- The members of a tagged quantity. -/
def taggedMembers (content : Value) (e : Exponents) : List Member :=
  [member .value content, member .exponents (exponentsValue e)]

/-- A tagged quantity as it is written, from what is written for the scalar. -/
def tagged (content : Value) (e : Exponents) : Document := .tight (.object .none (taggedMembers content e))

/-! ### Tagged texts are documents -/

theorem text_member (field : Field) (content : Value) :
    Value.memberText (member field content) = memberText field content.text := by
  rw [member, Value.memberText, keyText, Value.spacedText_tight, memberText]
  show '\x22' :: ((keySpelling field).text ++ ['\x22']) ++ [] ++ ':' :: content.text = _
  rw [keySpelling, Spelling.text_plain, List.append_nil, List.cons_append, List.append_assoc]
  rfl

theorem text_exponentsValue (e : Exponents) : (exponentsValue e).text = exponentsText e.powers := by
  have hitems : (e.toList.map fun n => Spaced.tight (.number (.ofInt n.toInt))).map Value.spacedText =
      e.powers.toList.map Decimal.ofInt := by
    show List.map _ (List.map _ e.toList) = List.map _ (List.map Fixed.toInt e.toList)
    rw [List.map_map, List.map_map]
    refine List.map_congr_left fun n _ => ?_
    exact (Value.spacedText_tight _).trans (Number.text_ofInt n.toInt)
  rw [exponentsValue, Value.text, itemTexts_eq_map, hitems]
  rfl

/-- **A tagged text is that of a document.** -/
theorem text_tagged {q : Quantity d k} {content : Value} (hcontent : content.text = write q) {e : Exponents}
    (he : e.powers = d.exponents) : (tagged content e).text = writeTagged q := by
  have hmembers : (taggedMembers content e).map Value.memberText =
      [memberText .value (write q), memberText .exponents (exponentsText d.exponents)] := by
    rw [taggedMembers, List.map_cons, List.map_cons, List.map_nil, text_member, text_member, text_exponentsValue,
      hcontent, he]
  rw [tagged, Document.text, Value.spacedText_tight, Value.text, memberTexts_eq_map, hmembers,
    intercalate_eq_separated, writeTagged]
  show openBrace :: ((memberText .value (write q) ++ ((',' :: memberText .exponents _) ++ [])) ++ [closeBrace]) = _
  rw [List.append_nil, List.append_assoc]
  rfl

/-! ### What the members say -/

theorem field?_keySpelling (field : Field) (content : Value) :
    field? ⟨keySpelling field, content⟩ = some field :=
  field?_eq_some.2 (Spelling.decode_plain _ _)

theorem contents_value (content : Value) (e : Exponents) :
    contents .value (tagged content e).body.entries = [content] := by
  show contents .value [⟨keySpelling .value, _⟩, ⟨keySpelling .exponents, _⟩] = _
  rw [contents_cons_of_field (field?_keySpelling .value _),
    contents_cons_of_other (by rw [field?_keySpelling]; decide)]
  rfl

theorem contents_exponents (content : Value) (e : Exponents) :
    contents .exponents (tagged content e).body.entries = [exponentsValue e] := by
  show contents .exponents [⟨keySpelling .value, _⟩, ⟨keySpelling .exponents, _⟩] = _
  rw [contents_cons_of_other (by rw [field?_keySpelling]; decide),
    contents_cons_of_field (field?_keySpelling .exponents _)]
  rfl

theorem known_tagged (content : Value) (e : Exponents) :
    ∀ entry ∈ (tagged content e).body.entries, ∃ field : Field, entry.key.decode = .ok field.key := by
  intro entry hmem
  have hpair : entry ∈ ([⟨keySpelling .value, _⟩, ⟨keySpelling .exponents, _⟩] : List Entry) := hmem
  rcases List.mem_pair.1 hpair with rfl | rfl
  · exact ⟨.value, Spelling.decode_plain _ _⟩
  · exact ⟨.exponents, Spelling.decode_plain _ _⟩

theorem lists_exponentsValue (e : Exponents) : Lists reals (exponentsValue e) e := by
  refine ⟨_, _, rfl, ?_⟩
  rw [List.map_map]
  exact List.map_congr_left fun n _ => scalar_ofInt_eq_ok.2 rfl

/-- A list lists one vector. -/
theorem lists_unique {value : Value} {e e' : Exponents} (h : Lists reals value e) (h' : Lists reals value e') :
    e = e' :=
  Except.ok.inj ((exponents_eq_ok.2 h).symm.trans (exponents_eq_ok.2 h'))

/-- The members are those of a quantity of a dimension with the exponents, and the scalar is what the content
stands for. -/
theorem accepts_tagged {content : Value} {e : Exponents} {a : Scalar l} :
    Accepts reals d' (tagged content e).body.entries a ↔ e.powers = d'.exponents ∧ content.scalar reals l = .ok a := by
  constructor
  · rintro ⟨-, ⟨value, hvalue, hscalar⟩, hexponents⟩
    rw [contents_value] at hvalue
    obtain ⟨rfl, -⟩ := List.cons.inj hvalue
    refine ⟨?_, hscalar⟩
    rw [contents_exponents] at hexponents
    obtain hnone | ⟨value, found, hfound, hlists, hpowers⟩ := hexponents
    · cases hnone
    · obtain ⟨rfl, -⟩ := List.cons.inj hfound
      rw [lists_unique hlists (lists_exponentsValue e)] at hpowers
      exact hpowers
  · rintro ⟨hpowers, hscalar⟩
    exact ⟨known_tagged content e, ⟨_, contents_value content e, hscalar⟩,
      .inr ⟨_, e, contents_exponents content e, lists_exponentsValue e, hpowers⟩⟩

/-! ### Reading -/

section Reading

variable {q : Quantity d k} {content : Value} {e : Exponents}

theorem readTagged_eq_ofEntries (hcontent : content.text = write q) (he : e.powers = d.exponents) :
    readTagged reals d' l (writeTagged q) = ofEntries reals d' l (tagged content e).body.entries := by
  rw [← text_tagged hcontent he]
  exact readTagged_object reals d' l .none .none .none (taggedMembers content e)

/-- **A tagged text is read as what its content stands for**, under the dimensions with its exponents. -/
theorem readTagged_tagged (hcontent : content.text = write q) (he : e.powers = d.exponents) (r : Quantity d' l) :
    readTagged reals d' l (writeTagged q) = .ok r ↔ d.Same d' ∧ content.scalar reals l = .ok r.value := by
  rw [readTagged_eq_ofEntries hcontent he, ofEntries_eq_ok, accepts_tagged, he]
  rfl

/-- A content that stands for nothing ends the reading. -/
theorem readTagged_of_error (hcontent : content.text = write q) (he : e.powers = d.exponents) {error : Error}
    (hscalar : content.scalar reals l = .error error) : readTagged reals d' l (writeTagged q) = .error error := by
  have hkey : (keySpelling .value).decode = .ok (Field.key .value) := Spelling.decode_plain _ _
  have hadd : Members.add reals ({} : Members l) ⟨keySpelling .value, content⟩ = .error error :=
    (bind_of_ok hkey _).trans (bind_of_error hscalar _)
  rw [readTagged_eq_ofEntries hcontent he]
  exact bind_of_error (bind_of_error hadd _) _

end Reading

end Dimensional.Wire
