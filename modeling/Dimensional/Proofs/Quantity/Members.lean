import Dimensional.Proofs.Json.Values
import Dimensional.Quantity.Wire

/-!
# Reading an object member by member

However an object is laid out, reading it as a tagged quantity is a run over its entries, each of which
adds to what has been read or ends the run.

* `readExponents_value` — a value is read as the exponents that it lists;
* `readMembers_member` — one entry;
* `readTagged_object` — the whole run.
-/

namespace Dimensional.Wire

open Json

/-! ### Items of a list -/

theorem skipBlanks_spaced (v : Spaced Value) (cs : Text) :
    ∃ c more, skipBlanks (Value.spacedText v ++ cs) = c :: more ∧ v.body.Opens c ∧
      c :: more = v.body.text ++ (v.after.text ++ cs) := by
  obtain ⟨before, body, after⟩ := v
  obtain ⟨c, more, hshape, hopens⟩ := body.text_eq_cons
  refine ⟨c, more ++ (after.text ++ cs), ?_, hopens, ?_⟩
  · rw [Value.spacedText, List.append_assoc, List.append_assoc, skipBlanks_blanks, hshape]
    exact skipBlanks_of_not_blank hopens.notBlank _
  · rw [hshape]
    rfl

theorem skipBlanks_gap (gap : Blanks) {c : Char} (h : isBlank c = false) (cs : Text) :
    skipBlanks (gap.text ++ c :: cs) = c :: cs :=
  (skipBlanks_blanks gap _).trans (skipBlanks_of_not_blank h cs)

theorem readNext_item (first : Bool) (gap : Blanks) (item : Spaced Value) (ts : List Text) (rest : Text) :
    readNext first (gap.text ++ (separated first (Value.spacedText item :: ts) ++ rest)) =
      .ok (some (item.body.text ++ (item.after.text ++ (separated false ts ++ rest)))) := by
  obtain ⟨c, more, hskip, hopens, hshape⟩ := skipBlanks_spaced item (separated false ts ++ rest)
  rw [← List.append_assoc] at hskip
  rw [← hshape]
  cases first with
  | true => exact readNext_of_first ((skipBlanks_blanks gap _).trans hskip) hopens.notBracket
  | false => exact readNext_of_comma (skipBlanks_gap gap (by decide) _) hskip hopens.notBracket

theorem readNext_close (first : Bool) (gap : Blanks) (rest : Text) :
    readNext first (gap.text ++ ']' :: rest) = .ok none :=
  readNext_of_bracket first (skipBlanks_gap gap (by decide) rest)

/-- Behind an item comes a comma or the end. -/
theorem endsNumber_separated (gap : Blanks) (ts : List Text) {close : Char} (rest : Text)
    (hclose : close.isDigit = false ∧ close ≠ '.' ∧ close ≠ 'e' ∧ close ≠ 'E') :
    EndsNumber (gap.text ++ (separated false ts ++ close :: rest)) := by
  refine endsNumber_blanks gap ?_
  cases ts with
  | nil => exact endsNumber_cons rest hclose
  | cons t ts => exact endsNumber_cons _ (by decide)

section Reals

variable (reals : RealReader)

variable {reals} in
theorem readExponentList_item {count seen : Nat} {first : Bool} {cs more : Text} {v : Value}
    (hnext : readNext first cs = .ok (some (v.text ++ more))) (hmore : EndsNumber more) :
    readExponentList reals (count + 1) seen first cs =
      (v.scalar reals (.int .i32)).bind fun n =>
        (readExponentList reals count (seen + 1) false more).map fun r => (n :: r.1, r.2) := by
  rw [readExponentList, bind_of_ok hnext]
  show (readInteger reals .i32 (v.text ++ more)).bind _ = _
  rw [readInteger_value reals (by decide) v hmore]
  cases v.scalar reals (.int .i32) with
  | error e => rfl
  | ok n =>
    show (readExponentList reals count (seen + 1) false more).bind _ = _
    cases readExponentList reals count (seen + 1) false more <;> rfl

/-- The first `count` items of a list, as exponents. -/
def listed (count : Nat) (items : List (Spaced Value)) : Except Error (List (Fixed .i32)) :=
  (items.take count).mapM fun item => item.body.scalar reals (.int .i32)

theorem listed_cons (count : Nat) (item : Spaced Value) (items : List (Spaced Value)) :
    listed reals (count + 1) (item :: items) =
      (item.body.scalar reals (.int .i32)).bind fun n => (listed reals count items).map fun ns => n :: ns := by
  rw [listed, List.take_succ_cons, List.mapM_cons]
  show (item.body.scalar reals (.int .i32)).bind _ = _
  cases item.body.scalar reals (.int .i32) with
  | error e => rfl
  | ok n =>
    show (listed reals count items).bind _ = _
    cases listed reals count items <;> rfl

/-- What the list of exponents comes to: the error of an item, or too few items, or the exponents and the
items behind them. -/
theorem readExponentList_items (items : List (Spaced Value)) (rest : Text) :
    ∀ (count seen : Nat) (first : Bool) (gap : Blanks), ∃ gap' : Blanks,
      readExponentList reals count seen first
          (gap.text ++ (separated first (items.map Value.spacedText) ++ ']' :: rest)) =
        (listed reals count items).bind fun ns =>
          if items.length < count then .error (.wrongLength (seen + items.length) .exponents)
          else .ok (ns, gap'.text ++
            (separated (first && count == 0) ((items.drop count).map Value.spacedText) ++ ']' :: rest)) := by
  induction items with
  | nil =>
    intro count seen first gap
    refine ⟨gap, ?_⟩
    cases count with
    | zero =>
      rw [show (first && 0 == 0) = first from Bool.and_true first]
      rfl
    | succ count =>
      rw [readExponentList]
      exact bind_of_ok (readNext_close first gap rest) _
  | cons item items ih =>
    intro count seen first gap
    cases count with
    | zero =>
      refine ⟨gap, ?_⟩
      rw [show (first && 0 == 0) = first from Bool.and_true first]
      rfl
    | succ count =>
      obtain ⟨gap', hrest⟩ := ih count (seen + 1) false item.after
      refine ⟨gap', ?_⟩
      rw [List.map_cons, readExponentList_item (readNext_item first gap item _ _)
        (endsNumber_separated item.after _ rest (by decide)), hrest, listed_cons]
      cases item.body.scalar reals (.int .i32) with
      | error e => rfl
      | ok n =>
        show ((listed reals count items).bind _).map _ = ((listed reals count items).map _).bind _
        cases listed reals count items with
        | error e => rfl
        | ok ns =>
          have hfirst : (first && count + 1 == 0) = false := Bool.and_false first
          have hcount : (item :: items).length < count + 1 ↔ items.length < count := Nat.succ_lt_succ_iff
          show Except.map _ (if items.length < count then _ else _) =
            if (item :: items).length < count + 1 then _ else _
          rw [hfirst]
          by_cases hshort : items.length < count
          · rw [if_pos hshort, if_pos (hcount.2 hshort)]
            show Except.error (Error.wrongLength (seen + 1 + items.length) _) =
              .error (.wrongLength (seen + (items.length + 1)) _)
            rw [Nat.add_right_comm, Nat.add_assoc]
          · rw [if_neg hshort, if_neg (fun h => hshort (hcount.1 h))]
            rfl

variable {reals} in
theorem length_of_listed {count : Nat} {items : List (Spaced Value)} {ns : List (Fixed .i32)}
    (h : listed reals count items = .ok ns) : ns.length = min count items.length := by
  have hmap := congrArg List.length (mapM_eq_ok.1 h)
  rw [List.length_map, List.length_map, List.length_take] at hmap
  exact hmap.symm

theorem readClose_items (gap : Blanks) (items : List (Spaced Value)) (rest : Text) :
    readClose (gap.text ++ (separated false (items.map Value.spacedText) ++ ']' :: rest)) =
      if items = [] then .ok rest else .error .trailingCharacters := by
  cases items with
  | nil =>
    show readClose (gap.text ++ ']' :: rest) = .ok rest
    rw [readClose, skipBlanks_gap gap (by decide)]
    rfl
  | cons item items =>
    obtain ⟨c, more, hskip, hopens, -⟩ :=
      skipBlanks_spaced item (separated false (items.map Value.spacedText) ++ ']' :: rest)
    rw [← List.append_assoc] at hskip
    rw [if_neg (List.cons_ne_nil _ _)]
    exact readClose_of_comma (skipBlanks_gap gap (by decide) _) hskip hopens.notBracket

end Reals

section

variable {reals : RealReader} {lead : Blanks} {items : List (Spaced Value)}

theorem exponents_of_error {e : Error} (h : listed reals 8 items = .error e) :
    (Value.array lead items).exponents reals = .error e :=
  bind_of_error h _

theorem exponents_of_short {ns : List (Fixed .i32)} (h : listed reals 8 items = .ok ns) (hshort : items.length < 8) :
    (Value.array lead items).exponents reals = .error (.wrongLength items.length .exponents) := by
  have hlength : ns.length = items.length := by
    have hmin := length_of_listed h
    omega
  have hnone : PerAxis.ofList? ns = none := by
    cases hvector : PerAxis.ofList? ns with
    | none => rfl
    | some e =>
      have height : 8 = ns.length := congrArg List.length (PerAxis.ofList?_eq_some.1 hvector)
      omega
  refine (bind_of_ok h _).trans ?_
  simp only [hnone, hlength]

theorem exponents_of_listed {e : Exponents} (h : listed reals 8 items = .ok e.toList) :
    (Value.array lead items).exponents reals =
      if items.length = 8 then .ok e else .error .trailingCharacters := by
  refine (bind_of_ok h _).trans ?_
  simp only [PerAxis.ofList?_toList]
  rfl

end

theorem text_array (lead : Blanks) (items : List (Spaced Value)) (rest : Text) :
    (Value.array lead items).text ++ rest =
      '[' :: (lead.text ++ (separated true (items.map Value.spacedText) ++ ']' :: rest)) := by
  rw [Value.text, intercalate_eq_separated, itemTexts_eq_map, List.cons_append, List.append_assoc,
    List.append_assoc]
  rfl

section Reals

variable (reals : RealReader)

theorem readExponents_array (lead : Blanks) (items : List (Spaced Value)) (rest : Text) :
    readExponents reals ((Value.array lead items).text ++ rest) =
      ((Value.array lead items).exponents reals).map fun e => (e, rest) := by
  obtain ⟨gap, hlist⟩ := readExponentList_items reals items rest 8 0 true lead
  rw [text_array, readExponents, skipBlanks_of_not_blank (by decide)]
  cases hlisted : listed reals 8 items with
  | error e =>
    rw [hlisted] at hlist
    rw [exponents_of_error hlisted]
    exact bind_of_error hlist _
  | ok ns =>
    rw [hlisted] at hlist
    by_cases hshort : items.length < 8
    · rw [exponents_of_short hlisted hshort]
      refine bind_of_error (hlist.trans (if_pos hshort) |>.trans ?_) _
      rw [Nat.zero_add]
    · have hlength := length_of_listed hlisted
      have height : ns.length = 8 := by omega
      obtain ⟨e, rfl⟩ := PerAxis.exists_toList_eq height
      have hmore : items.drop 8 = [] ↔ items.length = 8 := by
        rw [List.drop_eq_nil_iff]
        omega
      refine (bind_of_ok (hlist.trans (if_neg hshort)) _).trans ?_
      show (readClose (gap.text ++ (separated false _ ++ ']' :: rest))).bind _ = _
      rw [readClose_items, exponents_of_listed hlisted]
      by_cases height : items.length = 8
      · rw [if_pos (hmore.2 height), if_pos height]
        rfl
      · rw [if_neg (fun h => height (hmore.1 h)), if_neg height]
        rfl

/-- **A value is read as the exponents that it lists**, whatever follows it. -/
theorem readExponents_value (gap : Blanks) (v : Value) {rest : Text} (h : EndsNumber rest) :
    readExponents reals (gap.text ++ (v.text ++ rest)) = (v.exponents reals).map fun e => (e, rest) := by
  have hgap : ∀ cs, readExponents reals (gap.text ++ cs) = readExponents reals cs := by
    intro cs
    rw [readExponents, skipBlanks_blanks]
    rfl
  rw [hgap]
  by_cases harray : ∃ lead items, v = .array lead items
  · obtain ⟨lead, items, rfl⟩ := harray
    exact readExponents_array reals lead items rest
  · have hfind := find_value reals v h
    have hrefused : v.exponents reals = .error (wrongType reals .exponents v.text) := by
      cases v with
      | array lead items => exact absurd ⟨lead, items, rfl⟩ harray
      | _ => rfl
    obtain ⟨c, more, hshape, hopens⟩ := v.text_eq_cons
    have hbracket : c ≠ '[' := fun hc => harray (hopens.array hc)
    rw [hrefused, wrongType, ← hfind, hshape, List.cons_append, readExponents,
      skipBlanks_of_not_blank hopens.notBlank]
    split
    · next heq => cases heq
    · next heq => exact absurd (List.cons.inj heq).1 hbracket
    · rfl

/-! ### Members of an object -/

/-- What an entry adds to the members that have been read. -/
def Members.add {k : ScalarKind} (members : Members k) (entry : Entry) : Except Error (Members k) := do
  let key ← entry.key.decode
  match Field.ofKey? key with
  | none => .error (.unknownField key)
  | some .value =>
    if members.value.isSome then .error (.duplicateField .value)
    else return { members with value := some (← entry.content.scalar reals k) }
  | some .exponents =>
    if members.exponents.isSome then .error (.duplicateField .exponents)
    else return { members with exponents := some (← entry.content.exponents reals) }

variable {k : ScalarKind}

/-- A member as it is written: a key and a content, blanks around both. -/
abbrev Member := Spaced Spelling × Spaced Value

def Member.entry (m : Member) : Entry := ⟨m.1.body, m.2.body⟩

theorem isPlain_of_mem_key (field : Field) : ∀ c ∈ field.key, IsPlain c := by
  have hall : field.key.all (fun c => decide (IsPlain c)) = true := by
    cases field <;> rfl
  intro c hc
  exact of_decide_eq_true (List.all_eq_true.1 hall c hc)

/-- A key as it is written. -/
def keySpelling (field : Field) : Spelling := .plain field.key (isPlain_of_mem_key field)

/-- A member without blanks. -/
def member (field : Field) (content : Value) : Member := (.tight (keySpelling field), .tight content)

theorem readKey_member (first : Bool) (gap : Blanks) (m : Member) (ts : List Text) (rest : Text) :
    readKey first (gap.text ++ (separated first (Value.memberText m :: ts) ++ rest)) =
      m.1.body.decode.map fun key =>
        (some key, m.1.after.text ++ ':' :: (Value.spacedText m.2 ++ (separated false ts ++ rest))) := by
  obtain ⟨key, content⟩ := m
  have hskip : skipBlanks (Value.memberText (key, content) ++ separated false ts ++ rest) =
      '\x22' :: (key.body.text ++ '\x22' ::
        (key.after.text ++ ':' :: (Value.spacedText content ++ (separated false ts ++ rest)))) := by
    rw [Value.memberText, keyText, Spelling.quoted]
    simp only [List.append_assoc, List.cons_append, List.nil_append]
    exact skipBlanks_gap key.before (by decide) _
  have hkey : ∀ cs, readKey.key (key.body.text ++ '\x22' :: cs) =
      key.body.decode.map fun s => (some s, cs) := by
    intro cs
    rw [readKey.key, read_spelling]
    cases key.body.decode <;> rfl
  cases first with
  | true => exact (readKey_of_first ((skipBlanks_blanks gap _).trans hskip)).trans (hkey _)
  | false => exact (readKey_of_comma (skipBlanks_gap gap (by decide) _) hskip).trans (hkey _)

theorem readColon_gap (gap : Blanks) (cs : Text) : readColon (gap.text ++ ':' :: cs) = .ok cs := by
  rw [readColon, skipBlanks_gap gap (by decide)]
  rfl

/-- No member begins with what is left of a number. -/
theorem readKey_leftover {c : Char} {left : Text} (h : IsLeftover (c :: left)) (cs : Text) :
    readKey false (c :: cs) = .error .expectedCommaOrBrace := by
  rcases h c left rfl with rfl | rfl | rfl <;> rfl

section Member

variable {acc : Members k} {m : Member} {key next : Text}

/-- What reading the content of a member does: it stops with the error of the entry, or adds the entry, or
leaves a piece of a number that ends the reading. -/
theorem readMember_cases (hkey : m.1.body.decode = .ok key) (hnext : EndsNumber (m.2.after.text ++ next)) :
    (∃ e, acc.readMember reals key (m.1.after.text ++ ':' :: (Value.spacedText m.2 ++ next)) = .error e ∧
      acc.add reals m.entry = .error e) ∨
    (∃ after, acc.readMember reals key (m.1.after.text ++ ':' :: (Value.spacedText m.2 ++ next)) =
      .ok (after, m.2.after.text ++ next) ∧ acc.add reals m.entry = .ok after) ∨
    (∃ after c left, acc.readMember reals key (m.1.after.text ++ ':' :: (Value.spacedText m.2 ++ next)) =
      .ok (after, c :: (left ++ (m.2.after.text ++ next))) ∧ IsLeftover (c :: left) ∧
      acc.add reals m.entry = .error .expectedCommaOrBrace) := by
  obtain ⟨⟨lead, spelling, gap⟩, ⟨before, v, after⟩⟩ := m
  have hcolon : readColon (gap.text ++ ':' :: (Value.spacedText ⟨before, v, after⟩ ++ next)) =
      .ok (before.text ++ (v.text ++ (after.text ++ next))) := by
    rw [readColon_gap, Value.spacedText, List.append_assoc, List.append_assoc]
  have hadd : acc.add reals (Member.entry ⟨⟨lead, spelling, gap⟩, ⟨before, v, after⟩⟩) = _ := bind_of_ok hkey _
  rw [hadd, Members.readMember]
  cases Field.ofKey? key with
  | none => exact .inl ⟨_, rfl, rfl⟩
  | some field =>
    cases field with
    | value =>
      cases hvalue : acc.value with
      | some a => exact .inl ⟨.duplicateField .value, rfl, rfl⟩
      | none =>
        simp only [Option.isSome_none, Bool.false_eq_true, if_false, bind_of_ok hcolon, readScalar_blanks]
        obtain ⟨a, hscalar, hread⟩ | ⟨e, hscalar, hread⟩ | ⟨hscalar, a, c, left, hleft, hread⟩ :=
          scalar_cases reals k v
        · exact .inr (.inl ⟨_, bind_of_ok (hread _ hnext) _, bind_of_ok hscalar _⟩)
        · exact .inl ⟨e, bind_of_error (hread _ hnext) _, bind_of_error hscalar _⟩
        · exact .inr (.inr ⟨_, c, left, bind_of_ok (hread _ hnext) _, hleft, bind_of_error hscalar _⟩)
    | exponents =>
      cases hexponents : acc.exponents with
      | some e => exact .inl ⟨.duplicateField .exponents, rfl, rfl⟩
      | none =>
        have hread := readExponents_value reals before v hnext
        simp only [Option.isSome_none, Bool.false_eq_true, if_false, bind_of_ok hcolon]
        cases hvector : v.exponents reals with
        | error e =>
          rw [hvector] at hread
          exact .inl ⟨e, bind_of_error hread _, bind_of_error hvector _⟩
        | ok e =>
          rw [hvector] at hread
          exact .inr (.inl ⟨_, bind_of_ok hread _, bind_of_ok hvector _⟩)

end Member

/-- **One entry of an object.** -/
theorem readMembers_member (fuel : Nat) (first : Bool) (gap : Blanks) (acc : Members k) (m : Member)
    (ts : List Text) (rest : Text) :
    readMembers reals (fuel + 2) first acc
        (gap.text ++ (separated first (Value.memberText m :: ts) ++ closeBrace :: rest)) =
      (acc.add reals m.entry).bind fun after =>
        readMembers reals (fuel + 1) false after (m.2.after.text ++ (separated false ts ++ closeBrace :: rest)) := by
  have hread := readKey_member first gap m ts (closeBrace :: rest)
  cases hkey : m.1.body.decode with
  | error e =>
    rw [hkey] at hread
    have hadd : acc.add reals m.entry = .error e := bind_of_error hkey _
    rw [hadd, readMembers]
    exact bind_of_error hread _
  | ok key =>
    rw [hkey] at hread
    rw [readMembers]
    refine (bind_of_ok hread _).trans ?_
    have hends : EndsNumber (m.2.after.text ++ (separated false ts ++ closeBrace :: rest)) :=
      endsNumber_separated m.2.after ts rest (by decide)
    obtain ⟨e, hmember, hadd⟩ | ⟨after, hmember, hadd⟩ | ⟨after, c, left, hmember, hleft, hadd⟩ :=
      @readMember_cases reals k acc _ _ _ hkey hends
    · rw [hadd]
      exact bind_of_error hmember _
    · rw [hadd]
      exact bind_of_ok hmember _
    · -- the piece stands where a comma should
      rw [hadd]
      refine (bind_of_ok hmember _).trans ?_
      show readMembers reals (fuel + 1) false after _ = _
      rw [readMembers]
      exact bind_of_error (readKey_leftover hleft _) _

/-- A run over the members of an object: every member takes a step, and the closing brace one more. -/
theorem readMembers_entries (ms : List Member) (rest : Text) :
    ∀ (fuel : Nat) (first : Bool) (gap : Blanks) (acc : Members k),
      readMembers reals (ms.length + fuel + 1) first acc
          (gap.text ++ (separated first (ms.map Value.memberText) ++ closeBrace :: rest)) =
        ((ms.map Member.entry).foldlM (Members.add reals) acc).map fun members => (members, rest) := by
  induction ms with
  | nil =>
    intro fuel first gap acc
    rw [readMembers]
    exact bind_of_ok (readKey_of_brace first (skipBlanks_gap gap (by decide) rest)) _
  | cons m ms ih =>
    intro fuel first gap acc
    rw [List.map_cons, List.map_cons, List.foldlM_cons, List.length_cons,
      Nat.add_right_comm ms.length 1 fuel, readMembers_member]
    cases acc.add reals m.entry with
    | error e => rfl
    | ok after => exact ih fuel false m.2.after after

/-! ### Objects -/

variable {d : Dimension}

/-- A quantity from the entries of an object. -/
def ofEntries (d : Dimension) (k : ScalarKind) (entries : List Entry) : Except Error (Quantity d k) := do
  let members ← entries.foldlM (Members.add reals) ({} : Members k)
  members.finish d

theorem length_le_separated (first : Bool) (ms : List Member) :
    ms.length ≤ (separated first (ms.map Value.memberText)).length := by
  induction ms generalizing first with
  | nil => exact Nat.le_refl 0
  | cons m ms ih =>
    have htail := ih false
    have hmember : 0 < (Value.memberText m).length := by
      rw [Value.memberText, List.length_append, List.length_cons]
      omega
    rw [List.map_cons, separated, List.length_append, List.length_cons]
    cases first with
    | true =>
      rw [if_pos rfl]
      omega
    | false =>
      rw [if_neg Bool.false_ne_true, List.length_cons]
      omega

theorem readEnd_blanks (b : Blanks) : readEnd b.text = .ok () := readEnd_eq_ok.2 b.blank

/-- **An object is read as its entries say**, however it is laid out. -/
theorem readTagged_object (d : Dimension) (k : ScalarKind) (before lead after : Blanks) (ms : List Member) :
    readTagged reals d k (Document.text ⟨before, .object lead ms, after⟩) =
      ofEntries reals d k (Value.object lead ms).entries := by
  have htext : Document.text ⟨before, .object lead ms, after⟩ = before.text ++ openBrace ::
      (lead.text ++ (separated true (ms.map Value.memberText) ++ closeBrace :: after.text)) := by
    rw [Document.text, Value.spacedText, Value.text, intercalate_eq_separated, memberTexts_eq_map]
    simp only [List.append_assoc, List.cons_append, List.nil_append]
  have hlength := length_le_separated true ms
  rw [htext, readTagged, skipBlanks_gap before (by decide)]
  refine (if_pos rfl).trans ?_
  have hfuel : (lead.text ++ (separated true (ms.map Value.memberText) ++ closeBrace :: after.text)).length + 1 =
      ms.length + ((lead.text ++ (separated true (ms.map Value.memberText) ++ closeBrace :: after.text)).length -
        ms.length) + 1 := by
    rw [List.length_append, List.length_append]
    omega
  rw [hfuel, readMembers_entries]
  show _ = ((ms.map Member.entry).foldlM (Members.add reals) ({} : Members k)).bind fun members => members.finish d
  cases (ms.map Member.entry).foldlM (Members.add reals) ({} : Members k) with
  | error e => rfl
  | ok members =>
    show (members.finish d).bind _ = members.finish d
    cases members.finish d with
    | error e => rfl
    | ok q => exact bind_of_ok (readEnd_blanks after) _

/-- What is no object is no tagged quantity. -/
theorem readTagged_other {doc : Document} (h : ¬ ∃ lead members, doc.body = .object lead members) :
    readTagged reals d k doc.text = .error (wrongType reals .quantity doc.body.text) := by
  obtain ⟨c, more, hskip, hopens, hshape⟩ := skipBlanks_spaced doc []
  have hfind := find_value reals doc.body (endsNumber_blanks doc.after endsNumber_nil)
  rw [List.append_nil] at hskip
  rw [readTagged, Document.text, hskip]
  refine (if_neg fun hc => h (hopens.object hc)).trans ?_
  rw [hshape, wrongType, hfind, ← wrongType]

end Reals

end Dimensional.Wire
