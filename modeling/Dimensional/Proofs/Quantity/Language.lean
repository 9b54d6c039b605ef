import Dimensional.Json.RealReader
import Dimensional.Proofs.Json.Integers
import Dimensional.Proofs.Quantity.Members
import Mathlib.Data.List.Perm.Basic

/-!
# The language of tagged quantities

Which objects are tagged quantities, and what is wrong with the others, said of the entries of an object
and not of the reading.

* `Accepts`, `Refuses` — an object is the tagged quantity of a value; an object is refused with an error;
* `Holds` — what has been read of an object is what its entries say;
* `tagged_language` — reading accepts this language and refuses all else, each with its error.
-/

namespace Dimensional.Wire

open Json

variable {reals : RealReader} {k : ScalarKind} {d : Dimension}

/-! ### Entries -/

/-- The field that the key of an entry names. -/
def field? (entry : Entry) : Option Field :=
  match entry.key.decode with
  | .ok key => Field.ofKey? key
  | .error _ => none

/-- The contents of the entries of a field, in their order. -/
def contents (field : Field) (entries : List Entry) : List Value :=
  (entries.filter fun entry => field? entry = some field).map Entry.content

/-- The value is a list of eight integers of 32 bits, which are these. -/
def Lists (reals : RealReader) (v : Value) (e : Exponents) : Prop :=
  ∃ lead items, v = .array lead items ∧
    items.map (fun item => item.body.scalar reals (.int .i32)) = e.toList.map .ok

/-- What is wrong with an entry, by the entries before it. -/
inductive Offends (reals : RealReader) (k : ScalarKind) (before : List Entry) (entry : Entry) : Error → Prop
  /-- The key spells no text. -/
  | unreadable {e : Error} (hkey : entry.key.decode = .error e) : Offends reals k before entry e
  | unknown {key : Text} (hkey : entry.key.decode = .ok key) (hunknown : ∀ field : Field, key ≠ field.key) :
    Offends reals k before entry (.unknownField key)
  | repeated {field : Field} (hfield : field? entry = some field) (hbefore : contents field before ≠ []) :
    Offends reals k before entry (.duplicateField field)
  | value {e : Error} (hfield : field? entry = some .value) (hbefore : contents .value before = [])
    (hcontent : entry.content.scalar reals k = .error e) : Offends reals k before entry e
  | exponents {e : Error} (hfield : field? entry = some .exponents)
    (hbefore : contents .exponents before = []) (hcontent : entry.content.exponents reals = .error e) :
    Offends reals k before entry e

/-- Behind these entries, no entry offends. -/
def SoundFrom (reals : RealReader) (k : ScalarKind) (before entries : List Entry) : Prop :=
  ∀ front entry back, entries = front ++ entry :: back → ∀ e, ¬ Offends reals k (before ++ front) entry e

/-- No entry of an object offends. -/
abbrev Sound (reals : RealReader) (k : ScalarKind) (entries : List Entry) : Prop := SoundFrom reals k [] entries

/-- The entries are those of a tagged quantity with this value. -/
structure Accepts (reals : RealReader) (d : Dimension) (entries : List Entry) (a : Scalar k) : Prop where
  known : ∀ entry ∈ entries, ∃ field : Field, entry.key.decode = .ok field.key
  value : ∃ v, contents .value entries = [v] ∧ v.scalar reals k = .ok a
  exponents : contents .exponents entries = [] ∨
    ∃ v e, contents .exponents entries = [v] ∧ Lists reals v e ∧ e.powers = d.exponents

/-- The entries are refused with this error: that of the leftmost entry that offends, or that of a missing
value, or that of exponents of another dimension. -/
inductive Refuses (reals : RealReader) (d : Dimension) (k : ScalarKind) (entries : List Entry) : Error → Prop
  | entry {front back : List Entry} {entry : Entry} {e : Error} (hentries : entries = front ++ entry :: back)
    (hfront : Sound reals k front) (hentry : Offends reals k front entry e) : Refuses reals d k entries e
  | missing (hsound : Sound reals k entries) (hvalue : contents .value entries = []) :
    Refuses reals d k entries (.missingField .value)
  | mismatch {v : Value} {found : Exponents} (hsound : Sound reals k entries)
    (hvalue : contents .value entries ≠ []) (hexponents : contents .exponents entries = [v])
    (hlists : Lists reals v found) (hother : found.powers ≠ d.exponents) :
    Refuses reals d k entries (.dimension (.mismatch d.exponents found.powers))

/-! ### Keys and contents -/

theorem field?_of_decode {entry : Entry} {key : Text} (h : entry.key.decode = .ok key) :
    field? entry = Field.ofKey? key := by
  rw [field?, h]

theorem field?_eq_some {entry : Entry} {field : Field} :
    field? entry = some field ↔ entry.key.decode = .ok field.key := by
  cases hkey : entry.key.decode with
  | error e =>
    rw [field?, hkey]
    exact ⟨nofun, nofun⟩
  | ok key =>
    rw [field?_of_decode hkey, Field.ofKey?_eq_some]
    exact ⟨congrArg Except.ok, Except.ok.inj⟩

theorem contents_append (field : Field) (front back : List Entry) :
    contents field (front ++ back) = contents field front ++ contents field back := by
  rw [contents, List.filter_append, List.map_append]
  rfl

theorem contents_cons_of_field {field : Field} {entry : Entry} (h : field? entry = some field)
    (entries : List Entry) : contents field (entry :: entries) = entry.content :: contents field entries := by
  simp only [contents, List.filter_cons, h, decide_true, if_true, List.map_cons]

theorem contents_cons_of_other {field : Field} {entry : Entry} (h : field? entry ≠ some field)
    (entries : List Entry) : contents field (entry :: entries) = contents field entries := by
  simp only [contents, List.filter_cons, h, decide_false, Bool.false_eq_true, if_false]

theorem contents_perm (field : Field) {entries entries' : List Entry} (h : entries.Perm entries') :
    (contents field entries).Perm (contents field entries') :=
  (h.filter _).map _

theorem exponents_eq_ok {v : Value} {e : Exponents} : v.exponents reals = .ok e ↔ Lists reals v e := by
  constructor
  · intro h
    cases v with
    | array lead items =>
      obtain ⟨ns, hlisted, hvector⟩ := bind_eq_ok.1 h
      cases hfound : PerAxis.ofList? ns with
      | none =>
        rw [hfound] at hvector
        cases hvector
      | some found =>
        obtain rfl := PerAxis.ofList?_eq_some.1 hfound
        rw [exponents_of_listed hlisted] at h
        split at h
        · next height =>
          cases h
          rw [List.take_of_length_le (Nat.le_of_eq height)] at hlisted
          exact ⟨lead, items, rfl, mapM_eq_ok.1 hlisted⟩
        · cases h
    | _ => cases h
  · rintro ⟨lead, items, rfl, hitems⟩
    have height : items.length = 8 := by
      have hlength := congrArg List.length hitems
      rw [List.length_map, List.length_map] at hlength
      exact hlength
    have hlisted : listed reals 8 items = .ok e.toList := by
      rw [listed, List.take_of_length_le (Nat.le_of_eq height)]
      exact mapM_eq_ok.2 hitems
    exact (exponents_of_listed hlisted).trans (if_pos height)

/-! ### One entry -/

/-- What has been read of a field: nothing if it has not come, else the one content, decoded. -/
def Slot {α : Type} (decode : Value → Except Error α) (vs : List Value) : Option α → Prop
  | none => vs = []
  | some a => ∃ v, vs = [v] ∧ decode v = .ok a

theorem Slot.ne_nil {α : Type} {decode : Value → Except Error α} {vs : List Value} {a : α}
    (h : Slot decode vs (some a)) : vs ≠ [] := by
  obtain ⟨v, rfl, -⟩ := h
  exact List.cons_ne_nil v []

/-- The members are what the entries say. -/
structure Holds (reals : RealReader) (members : Members k) (entries : List Entry) : Prop where
  value : Slot (Value.scalar reals k) (contents .value entries) members.value
  exponents : Slot (Value.exponents reals) (contents .exponents entries) members.exponents

theorem holds_nil : Holds reals ({} : Members k) [] := ⟨rfl, rfl⟩

/-- An entry offends, and ends the reading with its error, or it is read. -/
theorem add_cases {members : Members k} {before : List Entry} (h : Holds reals members before) (entry : Entry) :
    (∃ e, members.add reals entry = .error e ∧ Offends reals k before entry e) ∨
    (∃ after, members.add reals entry = .ok after ∧ Holds reals after (before ++ [entry])) := by
  obtain ⟨value, exponents⟩ := members
  obtain ⟨hvalue, hexponents⟩ := h
  cases hkey : entry.key.decode with
  | error e => exact .inl ⟨e, bind_of_error hkey _, .unreadable hkey⟩
  | ok key =>
    have hadd : Members.add reals ⟨value, exponents⟩ entry = _ := bind_of_ok hkey _
    rw [hadd]
    have hfield := field?_of_decode hkey
    cases hnamed : Field.ofKey? key with
    | none =>
      refine .inl ⟨_, rfl, .unknown hkey fun field hsame => ?_⟩
      rw [Field.ofKey?_eq_some.2 hsame] at hnamed
      cases hnamed
    | some field =>
      rw [hnamed] at hfield
      cases field with
      | value =>
        cases value with
        | some a => exact .inl ⟨.duplicateField .value, rfl, .repeated hfield hvalue.ne_nil⟩
        | none =>
          cases hscalar : entry.content.scalar reals k with
          | error e => exact .inl ⟨e, rfl, .value hfield hvalue hscalar⟩
          | ok a =>
            refine .inr ⟨⟨some a, exponents⟩, rfl, ⟨⟨entry.content, ?_, hscalar⟩, ?_⟩⟩
            · rw [contents_append, hvalue, contents_cons_of_field hfield]
              rfl
            · rw [contents_append, contents_cons_of_other (by rw [hfield]; decide)]
              exact (List.append_nil _).symm ▸ hexponents
      | exponents =>
        cases exponents with
        | some e => exact .inl ⟨.duplicateField .exponents, rfl, .repeated hfield hexponents.ne_nil⟩
        | none =>
          cases hvector : entry.content.exponents reals with
          | error e => exact .inl ⟨e, rfl, .exponents hfield hexponents hvector⟩
          | ok e =>
            refine .inr ⟨⟨value, some e⟩, rfl, ⟨?_, ⟨entry.content, ?_, hvector⟩⟩⟩
            · rw [contents_append, contents_cons_of_other (by rw [hfield]; decide)]
              exact (List.append_nil _).symm ▸ hvalue
            · rw [contents_append, hexponents, contents_cons_of_field hfield]
              rfl

theorem add_of_offends {members : Members k} {before : List Entry} (h : Holds reals members before) {entry : Entry}
    {e : Error} (hoffends : Offends reals k before entry e) : members.add reals entry = .error e := by
  obtain ⟨value, exponents⟩ := members
  obtain ⟨hvalue, hexponents⟩ := h
  have hadd : ∀ {field : Field}, field? entry = some field → Members.add reals ⟨value, exponents⟩ entry = _ :=
    fun hfield => bind_of_ok (field?_eq_some.1 hfield) _
  cases hoffends with
  | unreadable hkey => exact bind_of_error hkey _
  | unknown hkey hunknown =>
    have hnone : Field.ofKey? _ = none := Option.eq_none_iff_forall_ne_some.2 fun field hsome =>
      hunknown field (Field.ofKey?_eq_some.1 hsome)
    refine (bind_of_ok hkey _).trans ?_
    rw [hnone]
  | @repeated field hfield hbefore =>
    rw [hadd hfield, Field.ofKey?_key]
    cases field with
    | value =>
      cases value with
      | none => exact absurd hvalue hbefore
      | some a => rfl
    | exponents =>
      cases exponents with
      | none => exact absurd hexponents hbefore
      | some a => rfl
  | value hfield hbefore hcontent =>
    rw [hadd hfield, Field.ofKey?_key]
    cases value with
    | none => exact bind_of_error hcontent _
    | some a => exact absurd hbefore hvalue.ne_nil
  | exponents hfield hbefore hcontent =>
    rw [hadd hfield, Field.ofKey?_key]
    cases exponents with
    | none => exact bind_of_error hcontent _
    | some a => exact absurd hbefore hexponents.ne_nil

theorem add_of_sound {members : Members k} {before : List Entry} (h : Holds reals members before) {entry : Entry}
    (hsound : ∀ e, ¬ Offends reals k before entry e) :
    ∃ after, members.add reals entry = .ok after ∧ Holds reals after (before ++ [entry]) := by
  obtain ⟨e, -, hoffends⟩ | ⟨after, hadd, hholds⟩ := add_cases h entry
  · exact absurd hoffends (hsound e)
  · exact ⟨after, hadd, hholds⟩

/-! ### All entries -/

theorem soundFrom_nil (before : List Entry) : SoundFrom reals k before [] := by
  intro front entry back hshape
  cases front <;> cases hshape

theorem soundFrom_cons {before entries : List Entry} {entry : Entry} :
    SoundFrom reals k before (entry :: entries) ↔
      (∀ e, ¬ Offends reals k before entry e) ∧ SoundFrom reals k (before ++ [entry]) entries := by
  constructor
  · intro h
    constructor
    · intro e
      have hentry := h [] entry entries rfl e
      rwa [List.append_nil] at hentry
    · intro front other back hshape e
      have hother := h (entry :: front) other back (congrArg _ hshape) e
      rwa [List.append_cons] at hother
  · rintro ⟨hentry, hentries⟩ front other back hshape e
    cases front with
    | nil =>
      obtain ⟨rfl, -⟩ := List.cons.inj hshape
      rw [List.append_nil]
      exact hentry e
    | cons first front =>
      obtain ⟨rfl, hback⟩ := List.cons.inj hshape
      rw [List.append_cons]
      exact hentries front other back hback e

/-- Either no entry offends, or one is the leftmost that does. -/
theorem sound_or_offends (before entries : List Entry) :
    SoundFrom reals k before entries ∨ ∃ front entry back e, entries = front ++ entry :: back ∧
      SoundFrom reals k before front ∧ Offends reals k (before ++ front) entry e := by
  induction entries generalizing before with
  | nil => exact .inl (soundFrom_nil before)
  | cons entry entries ih =>
    by_cases hentry : ∃ e, Offends reals k before entry e
    · obtain ⟨e, he⟩ := hentry
      exact .inr ⟨[], entry, entries, e, rfl, soundFrom_nil before, (List.append_nil before).symm ▸ he⟩
    · have hsound : ∀ e, ¬ Offends reals k before entry e := fun e he => hentry ⟨e, he⟩
      obtain hentries | ⟨front, other, back, e, rfl, hfront, hother⟩ := ih (before ++ [entry])
      · exact .inl (soundFrom_cons.2 ⟨hsound, hentries⟩)
      · rw [← List.append_cons] at hother
        exact .inr ⟨entry :: front, other, back, e, rfl, soundFrom_cons.2 ⟨hsound, hfront⟩, hother⟩

/-- A run over entries none of which offends ends with what they say. -/
theorem foldlM_add_of_sound {members : Members k} {before entries : List Entry} (h : Holds reals members before)
    (hsound : SoundFrom reals k before entries) :
    ∃ after, entries.foldlM (Members.add reals) members = .ok after ∧ Holds reals after (before ++ entries) := by
  induction entries generalizing before members with
  | nil => exact ⟨members, rfl, (List.append_nil before).symm ▸ h⟩
  | cons entry entries ih =>
    obtain ⟨hentry, hentries⟩ := soundFrom_cons.1 hsound
    obtain ⟨next, hadd, hnext⟩ := add_of_sound h hentry
    obtain ⟨after, hrun, hafter⟩ := ih hnext hentries
    rw [← List.append_cons] at hafter
    exact ⟨after, (bind_of_ok hadd _).trans hrun, hafter⟩

/-- A run ends with the error of the leftmost entry that offends. -/
theorem foldlM_add_of_offends {members : Members k} {before front back : List Entry} {entry : Entry} {e : Error}
    (h : Holds reals members before) (hfront : SoundFrom reals k before front)
    (hentry : Offends reals k (before ++ front) entry e) :
    (front ++ entry :: back).foldlM (Members.add reals) members = .error e := by
  obtain ⟨after, hrun, hafter⟩ := foldlM_add_of_sound h hfront
  rw [List.foldlM_append, hrun]
  exact bind_of_error (add_of_offends hafter hentry) _

/-! ### The whole object -/

/-- The key of an entry that does not offend names a field. -/
theorem known_of_sound {entries : List Entry} (h : Sound reals k entries) :
    ∀ entry ∈ entries, ∃ field : Field, entry.key.decode = .ok field.key := by
  intro entry hmem
  obtain ⟨front, back, hshape⟩ := List.append_of_mem hmem
  have hentry := h front entry back hshape
  cases hkey : entry.key.decode with
  | error e => exact absurd (.unreadable hkey) (hentry e)
  | ok key =>
    by_contra hunknown
    exact hentry _ (.unknown hkey fun field hsame => hunknown ⟨field, congrArg Except.ok hsame⟩)

/-- The only content of a field is that of the entry. -/
theorem contents_of_singleton {field : Field} {front back : List Entry} {entry : Entry} {v : Value}
    (hfield : field? entry = some field) (h : contents field (front ++ entry :: back) = [v]) :
    contents field front = [] ∧ entry.content = v := by
  rw [contents_append, contents_cons_of_field hfield] at h
  cases hfront : contents field front with
  | nil =>
    rw [hfront] at h
    exact ⟨rfl, (List.cons.inj h).1⟩
  | cons w ws =>
    rw [hfront] at h
    have hlength := congrArg List.length h
    rw [List.length_append, List.length_cons, List.length_cons, List.length_singleton] at hlength
    omega

theorem sound_of_accepts {entries : List Entry} {a : Scalar k} (h : Accepts reals d entries a) :
    Sound reals k entries := by
  intro front entry back hshape e hoffends
  obtain ⟨hknown, ⟨v, hvalue, hscalar⟩, hexponents⟩ := h
  rw [hshape] at hknown hvalue hexponents
  obtain ⟨field, hkey⟩ := hknown entry (List.mem_append_right _ List.mem_cons_self)
  -- an entry of a field is the only one, so that it is no repeat and has the content that decodes
  have hone : ∀ {field : Field}, field? entry = some field →
      ∃ w, contents field (front ++ entry :: back) = [w] := by
    intro field hfield
    cases field with
    | value => exact ⟨v, hvalue⟩
    | exponents =>
      obtain hnone | ⟨w, -, hw, -⟩ := hexponents
      · rw [contents_append, contents_cons_of_field hfield] at hnone
        exact absurd (List.append_eq_nil_iff.1 hnone).2 (List.cons_ne_nil _ _)
      · exact ⟨w, hw⟩
  cases hoffends with
  | unreadable herror =>
    rw [hkey] at herror
    cases herror
  | unknown hother hunknown =>
    rw [hkey] at hother
    exact hunknown field (Except.ok.inj hother).symm
  | repeated hfield hbefore =>
    obtain ⟨w, hw⟩ := hone hfield
    exact hbefore (contents_of_singleton hfield hw).1
  | value hfield _ hcontent =>
    rw [(contents_of_singleton hfield hvalue).2, hscalar] at hcontent
    cases hcontent
  | exponents hfield _ hcontent =>
    obtain hnone | ⟨w, found, hw, hlists, -⟩ := hexponents
    · obtain ⟨w, hw⟩ := hone hfield
      rw [hnone] at hw
      cases hw
    · rw [(contents_of_singleton hfield hw).2, exponents_eq_ok.2 hlists] at hcontent
      cases hcontent

theorem Slot.eq_some {α : Type} {decode : Value → Except Error α} {vs : List Value} {slot : Option α}
    (h : Slot decode vs slot) {a : α} : slot = some a ↔ ∃ v, vs = [v] ∧ decode v = .ok a := by
  cases slot with
  | none =>
    obtain rfl : vs = [] := h
    exact ⟨nofun, fun ⟨v, hv, _⟩ => nomatch hv⟩
  | some b =>
    obtain ⟨v, rfl, hb⟩ := h
    constructor
    · intro hba
      exact ⟨v, rfl, Option.some.inj hba ▸ hb⟩
    · rintro ⟨w, hw, ha⟩
      obtain ⟨rfl, -⟩ := List.cons.inj hw
      rw [hb] at ha
      exact congrArg some (Except.ok.inj ha)

theorem Slot.eq_none {α : Type} {decode : Value → Except Error α} {vs : List Value} {slot : Option α}
    (h : Slot decode vs slot) : slot = none ↔ vs = [] := by
  cases slot with
  | none => exact ⟨fun _ => h, fun _ => rfl⟩
  | some a => exact ⟨nofun, fun hvs => absurd hvs h.ne_nil⟩

theorem accepts_iff {members : Members k} {entries : List Entry} (hsound : Sound reals k entries)
    (h : Holds reals members entries) {q : Quantity d k} :
    Accepts reals d entries q.value ↔ members.finish d = .ok q := by
  rw [finish_eq_ok, h.value.eq_some]
  constructor
  · rintro ⟨-, hvalue, hexponents⟩
    refine ⟨hvalue, fun found hfound => ?_⟩
    obtain ⟨v, hv, hvector⟩ := h.exponents.eq_some.1 hfound
    obtain hnone | ⟨w, e, hw, hlists, hpowers⟩ := hexponents
    · rw [hv] at hnone
      cases hnone
    · rw [hv] at hw
      obtain ⟨rfl, -⟩ := List.cons.inj hw
      rw [exponents_eq_ok.2 hlists] at hvector
      exact Except.ok.inj hvector ▸ hpowers
  · rintro ⟨hvalue, hpowers⟩
    refine ⟨known_of_sound hsound, hvalue, ?_⟩
    cases hmember : members.exponents with
    | none => exact .inl (h.exponents.eq_none.1 hmember)
    | some found =>
      obtain ⟨v, hv, hvector⟩ := h.exponents.eq_some.1 hmember
      exact .inr ⟨v, found, hv, exponents_eq_ok.1 hvector, hpowers found hmember⟩

theorem finish_missing {members : Members k} (h : members.value = none) :
    members.finish d = .error (.missingField .value) := by
  rw [Members.finish, h]

theorem finish_mismatch {members : Members k} {found : Exponents} (hvalue : members.value ≠ none)
    (hexponents : members.exponents = some found) (hother : found.powers ≠ d.exponents) :
    members.finish d = .error (.dimension (.mismatch d.exponents found.powers)) := by
  obtain ⟨value, exponents⟩ := members
  obtain rfl : exponents = some found := hexponents
  have hensure : Exponents.ensure d.exponents found.powers = .error (.mismatch d.exponents found.powers) :=
    if_neg fun hequal => hother (Powers.equals_iff.1 hequal).symm
  cases value with
  | none => exact absurd rfl hvalue
  | some a => simp only [Members.finish, hensure]

/-- Members that are no quantity lack a value, or have the exponents of another dimension. -/
theorem refuses_of_finish {members : Members k} {entries : List Entry} (hsound : Sound reals k entries)
    (h : Holds reals members entries) {e : Error} (herror : members.finish d = .error e) :
    Refuses reals d k entries e := by
  cases hvalue : members.value with
  | none =>
    rw [finish_missing hvalue] at herror
    cases herror
    exact .missing hsound (h.value.eq_none.1 hvalue)
  | some a =>
    have hpresent : members.value ≠ none := by
      rw [hvalue]
      exact nofun
    cases hexponents : members.exponents with
    | none =>
      have hok : members.finish d = .ok ⟨a⟩ := finish_eq_ok.2 ⟨hvalue, fun found hfound => by
        rw [hexponents] at hfound
        cases hfound⟩
      rw [hok] at herror
      cases herror
    | some found =>
      obtain ⟨v, hv, hvector⟩ := h.exponents.eq_some.1 hexponents
      by_cases hpowers : found.powers = d.exponents
      · have hok : members.finish d = .ok ⟨a⟩ := finish_eq_ok.2 ⟨hvalue, fun other hother => by
          rw [hexponents] at hother
          exact Option.some.inj hother ▸ hpowers⟩
        rw [hok] at herror
        cases herror
      · rw [finish_mismatch hpresent hexponents hpowers] at herror
        cases herror
        exact .mismatch hsound (fun hnil => hpresent (h.value.eq_none.2 hnil)) hv (exponents_eq_ok.1 hvector) hpowers

/-- Of a sound object, what the members come to. -/
theorem ofEntries_of_sound {entries : List Entry} (h : Sound reals k entries) :
    ∃ members : Members k, Holds reals members entries ∧ ofEntries reals d k entries = members.finish d := by
  obtain ⟨members, hrun, hholds⟩ := foldlM_add_of_sound holds_nil h
  exact ⟨members, hholds, bind_of_ok hrun _⟩

theorem ofEntries_of_offends {front back : List Entry} {entry : Entry} {e : Error} (hfront : Sound reals k front)
    (hentry : Offends reals k front entry e) : ofEntries reals d k (front ++ entry :: back) = .error e :=
  bind_of_error (foldlM_add_of_offends holds_nil hfront hentry) _

theorem ofEntries_eq_ok {entries : List Entry} {q : Quantity d k} :
    ofEntries reals d k entries = .ok q ↔ Accepts reals d entries q.value := by
  constructor
  · intro h
    obtain hsound | ⟨front, entry, back, e, rfl, hfront, hentry⟩ := sound_or_offends (k := k) [] entries
    · obtain ⟨members, hholds, hfinish⟩ := ofEntries_of_sound (d := d) hsound
      exact (accepts_iff hsound hholds).2 (hfinish ▸ h)
    · rw [ofEntries_of_offends hfront hentry] at h
      cases h
  · intro h
    have hsound := sound_of_accepts h
    obtain ⟨members, hholds, hfinish⟩ := ofEntries_of_sound (d := d) hsound
    exact hfinish.trans ((accepts_iff hsound hholds).1 h)

theorem ofEntries_eq_error {entries : List Entry} {e : Error} :
    ofEntries reals d k entries = .error e ↔ Refuses reals d k entries e := by
  constructor
  · intro h
    obtain hsound | ⟨front, entry, back, e', rfl, hfront, hentry⟩ := sound_or_offends (k := k) [] entries
    · obtain ⟨members, hholds, hfinish⟩ := ofEntries_of_sound (d := d) hsound
      exact refuses_of_finish hsound hholds (hfinish ▸ h)
    · rw [ofEntries_of_offends hfront hentry] at h
      cases h
      exact .entry rfl hfront hentry
  · intro h
    cases h with
    | entry hentries hfront hentry =>
      rw [hentries]
      exact ofEntries_of_offends hfront hentry
    | missing hsound hvalue =>
      obtain ⟨members, hholds, hfinish⟩ := ofEntries_of_sound (d := d) hsound
      exact hfinish.trans (finish_missing (hholds.value.eq_none.2 hvalue))
    | mismatch hsound hvalue hexponents hlists hother =>
      obtain ⟨members, hholds, hfinish⟩ := ofEntries_of_sound (d := d) hsound
      have hmember := hholds.exponents.eq_some.2 ⟨_, hexponents, exponents_eq_ok.2 hlists⟩
      exact hfinish.trans (finish_mismatch (fun hnone => hvalue (hholds.value.eq_none.1 hnone)) hmember hother)

theorem accepts_perm {entries entries' : List Entry} (h : entries.Perm entries') {a : Scalar k}
    (haccepts : Accepts reals d entries a) : Accepts reals d entries' a := by
  obtain ⟨hknown, ⟨v, hvalue, hscalar⟩, hexponents⟩ := haccepts
  have hone : ∀ {field : Field} {v : Value}, contents field entries = [v] → contents field entries' = [v] := by
    intro field v hv
    have hperm := contents_perm field h
    rw [hv] at hperm
    exact (List.singleton_perm.1 hperm).symm
  refine ⟨fun entry hmem => hknown entry (h.mem_iff.2 hmem), ⟨v, hone hvalue, hscalar⟩, ?_⟩
  obtain hnone | ⟨w, e, hw, hlists⟩ := hexponents
  · have hperm := contents_perm .exponents h
    rw [hnone] at hperm
    exact .inl (List.nil_perm.1 hperm)
  · exact .inr ⟨w, e, hone hw, hlists⟩

/-- What a value stands for is what it is read as on its own. -/
theorem read_text_eq_ok {v : Value} {a : Scalar k} :
    read reals d k v.text = .ok ⟨a⟩ ↔ v.scalar reals k = .ok a := by
  rw [scalar_eq_ok]
  constructor
  · intro h
    obtain ⟨⟨b, left⟩, hread, h⟩ := bind_eq_ok.1 h
    obtain ⟨_, hend, h⟩ := bind_eq_ok.1 h
    cases h
    have hleft := isLeftover_of_readScalar hread
    cases left with
    | nil => exact hread
    | cons c left =>
      have hblank := readEnd_eq_ok.1 hend c List.mem_cons_self
      rcases hleft c left rfl with rfl | rfl | rfl <;> cases hblank
  · intro h
    exact bind_of_ok h _

/-! ### The language -/

/-- **The language of tagged quantities.**  Whatever the dimension and the kind of scalar, and however decimals
become values, an object is read exactly when its entries are those of a tagged quantity, and is then read as
their value; else the error is the one with which the entries are refused; entries in another order, laid out
in any way, are read alike; and no other value is read at all. A content decodes exactly when it is read as a
bare quantity. -/
theorem tagged_language (reals : RealReader) (d : Dimension) (k : ScalarKind) :
    (∀ (doc : Document) (lead : Blanks) (members : List (Spaced Spelling × Spaced Value)),
      doc.body = .object lead members →
        (∀ q, readTagged reals d k doc.text = .ok q ↔ Accepts reals d doc.body.entries q.value) ∧
        (∀ e, readTagged reals d k doc.text = .error e ↔ Refuses reals d k doc.body.entries e) ∧
        (∀ (doc' : Document) (lead' : Blanks) (members' : List (Spaced Spelling × Spaced Value)),
          doc'.body = .object lead' members' → doc.body.entries.Perm doc'.body.entries →
            ∀ q, readTagged reals d k doc.text = .ok q ↔ readTagged reals d k doc'.text = .ok q)) ∧
    (∀ doc : Document, (¬ ∃ lead members, doc.body = .object lead members) →
      ∃ e, readTagged reals d k doc.text = .error e) ∧
    (∀ (v : Value) (a : Scalar k), v.scalar reals k = .ok a ↔ read reals d k v.text = .ok ⟨a⟩) := by
  have hobject : ∀ (doc : Document) (lead : Blanks) (members : List (Spaced Spelling × Spaced Value)),
      doc.body = .object lead members → readTagged reals d k doc.text = ofEntries reals d k doc.body.entries := by
    rintro ⟨before, body, after⟩ lead members rfl
    exact readTagged_object reals d k before lead after members
  refine ⟨fun doc lead members hdoc => ⟨fun q => ?_, fun e => ?_, fun doc' lead' members' hdoc' hperm q => ?_⟩,
    fun doc hdoc => ⟨_, readTagged_other reals hdoc⟩, fun v a => read_text_eq_ok.symm⟩
  · rw [hobject doc lead members hdoc]
    exact ofEntries_eq_ok
  · rw [hobject doc lead members hdoc]
    exact ofEntries_eq_error
  · rw [hobject doc lead members hdoc, hobject doc' lead' members' hdoc', ofEntries_eq_ok, ofEntries_eq_ok]
    exact ⟨accepts_perm hperm, accepts_perm hperm.symm⟩

/-- An object with its value last, behind a blank. -/
def valueLast : Document :=
  .tight (.object .none
    [member .exponents (.array .none (.replicate 8 (.tight (.number (.ofInt 0))))),
      (⟨⟨[' '], List.forall_mem_singleton.2 rfl⟩, keySpelling .value, .none⟩, .tight (.number (.ofInt 7)))])

theorem tagged_language_valueLast :
    valueLast.text = "\x7b\"exponents\":[0,0,0,0,0,0,0,0], \"value\":7\x7d".toList ∧
      Accepts .stepwise .one (k := .int .i32) valueLast.body.entries ⟨7, by decide, by decide⟩ ∧
      readTagged .stepwise .one (.int .i32) valueLast.text = .ok ⟨⟨7, by decide, by decide⟩⟩ := by
  obtain ⟨hobject, -, -⟩ := tagged_language .stepwise .one (.int .i32)
  have haccepts : Accepts .stepwise .one (k := .int .i32) valueLast.body.entries ⟨7, by decide, by decide⟩ := by
    refine ⟨?_, ⟨_, rfl, scalar_ofInt_eq_ok.2 rfl⟩, .inr ⟨_, Exponents.one, rfl, ⟨_, _, rfl, ?_⟩, rfl⟩⟩
    · intro entry hmem
      rcases hmem with _ | ⟨_, _ | ⟨_, ⟨⟩⟩⟩
      · exact ⟨.exponents, rfl⟩
      · exact ⟨.value, rfl⟩
    · have hzero : (Value.number (.ofInt 0)).scalar RealReader.stepwise (.int .i32) = .ok Fixed.zero :=
        scalar_ofInt_eq_ok.2 rfl
      exact congrArg (List.replicate 8) hzero
  exact ⟨rfl, haccepts, ((hobject valueLast _ _ rfl).1 _).2 haccepts⟩

/-- The content of a repeat is not looked at. -/
example : readTagged reals d (.int .i32) "\x7b\"value\": 1, \"value\": [] \x7d".toList =
    .error (.duplicateField .value) := by rfl

/-- A missing value is reported before exponents of another dimension. -/
example : readTagged reals d (.int .i32) "\x7b\"exponents\":[1,0,0,0,0,0,0,0]\x7d".toList =
    .error (.missingField .value) := by rfl

end Dimensional.Wire
