import Dimensional.Proofs.Derive.Positions.Types

/-!
# The layout of an item

An item that declares a type consists of tags, a visibility, the keyword of its kind, its name, and whatever
follows the name. What a marker needs to know of it can be told from this layout: whether there are
parameters by the two tokens behind the name, and what the dimension tags say by the tokens between their
brackets.

* `WrittenTag`, `Layout` — tags and items as they are written;
* `trees_injective` — the tokens of an item have one layout;
* `describes_of_ofTrees` — what is read of an item is what its layout shows.
-/

namespace Dimensional.Derive

open Source

/-! ### Tags -/

/-- A tag as it is written. -/
structure WrittenTag where
  joint : Bool
  sign : Span
  /-- The tokens between its brackets. -/
  inner : List Tree
  span : Span
  opening : Span
  closing : Span

namespace WrittenTag

def trees (a : WrittenTag) : List Tree :=
  [.punct '#' a.joint a.sign, .group .bracket a.inner a.span a.opening a.closing]

/-- Tokens begin with a path that is nothing but this name. -/
def beginsWith (name : String) : List Tree → Bool
  | .ident i _ :: rest => i == .plain name.toList && !nextIsMark "::" rest
  | _ => false

/-- The path of the tag is exactly `dimension`. -/
def isDimension (a : WrittenTag) : Bool := beginsWith "dimension" a.inner

/-- What a tag contains that has these tokens behind its path. -/
def contentOf : List Tree → Content
  | .group _ ts _ _ closing :: _ => .arguments ts closing
  | ts =>
    if nextIsMark "=" ts && !nextIsMark "==" ts && !nextIsMark "=>" ts then
      .value ((ts.head?.map Tree.head).getD .whole)
    else .bare

/-- A dimension tag, as it is read. -/
def tag (a : WrittenTag) : Tag where
  path := .ofIdents false (.plain "dimension".toList) []
  pathSpan := (a.inner.head?.map Tree.span).getD .whole
  content := contentOf a.inner.tail
  span := a.sign.join a.span

end WrittenTag

/-! ### Items -/

/-- A visibility, which may be empty. -/
inductive IsVisibility : List Tree → Prop
  | inherited : IsVisibility []
  | everywhere (span : Span) : IsVisibility [.ident (.plain "pub".toList) span]
  | restricted (span : Span) (inner : List Tree) (at_ opening closing : Span) :
      IsVisibility [.ident (.plain "pub".toList) span, .group .parenthesis inner at_ opening closing]

/-- The kinds of types. -/
inductive Kind where
  | record
  | enumeration
  | union

/-- The keyword of a kind. -/
def Kind.word : Kind → String
  | .record => "struct"
  | .enumeration => "enum"
  | .union => "union"

/-- An item as it is written. -/
structure Layout where
  tags : List WrittenTag
  visibility : List Tree
  visible : IsVisibility visibility
  kind : Kind
  kindSpan : Span
  name : Ident
  nameSpan : Span
  /-- What follows the name: parameters, conditions, and fields or variants. -/
  tail : List Tree

namespace Layout

def trees (l : Layout) : List Tree :=
  l.tags.flatMap WrittenTag.trees ++ (l.visibility ++
    .ident (.plain l.kind.word.toList) l.kindSpan :: .ident l.name l.nameSpan :: l.tail)

/-- The dimension tags in their order. -/
def dimensionTags (l : Layout) : List WrittenTag := l.tags.filter WrittenTag.isDimension

/-- Angles follow the name with something between them. -/
def hasParameters (l : Layout) : Bool := nextIsMark "<" l.tail && !nextIsMark ">" (l.tail.drop 1)

/-- What is read of the item is what its layout shows. -/
structure Describes (l : Layout) (item : Item) : Prop where
  name : item.name = l.name
  parameters : item.parameters.isSome = l.hasParameters
  tags : item.tags.filter (·.isNamed "dimension") = l.dimensionTags.map WrittenTag.tag

end Layout

/-! ### One layout only -/

theorem nextIsMark_visibility {ts : List Tree} (h : IsVisibility ts) (i : Ident) (span : Span) (rest : List Tree) :
    nextIsMark "#" (ts ++ .ident i span :: rest) = false := by
  cases h <;> rfl

theorem tagTrees_append_injective {tags tags' : List WrittenTag} {rest rest' : List Tree}
    (hrest : nextIsMark "#" rest = false) (hrest' : nextIsMark "#" rest' = false)
    (h : tags.flatMap WrittenTag.trees ++ rest = tags'.flatMap WrittenTag.trees ++ rest') :
    tags = tags' ∧ rest = rest' := by
  have hsign : ∀ (a : WrittenTag) (ts : List Tree), nextIsMark "#" (a.trees ++ ts) = true := fun _ _ => rfl
  induction tags generalizing tags' with
  | nil =>
    cases tags' with
    | nil => exact ⟨rfl, h⟩
    | cons a tags' =>
      rw [List.flatMap_nil, List.nil_append, List.flatMap_cons, List.append_assoc] at h
      rw [h, hsign] at hrest
      cases hrest
  | cons a tags ih =>
    cases tags' with
    | nil =>
      rw [List.flatMap_nil, List.nil_append, List.flatMap_cons, List.append_assoc] at h
      rw [← h, hsign] at hrest'
      cases hrest'
    | cons a' tags' =>
      obtain ⟨joint, sign, inner, at_, opening, closing⟩ := a
      obtain ⟨joint', sign', inner', at', opening', closing'⟩ := a'
      simp only [List.flatMap_cons, WrittenTag.trees, List.cons_append, List.nil_append, List.cons.injEq,
        Tree.punct.injEq, Tree.group.injEq, true_and] at h
      obtain ⟨⟨rfl, rfl⟩, ⟨rfl, rfl, rfl, rfl⟩, hmore⟩ := h
      obtain ⟨rfl, hsame⟩ := ih hmore
      exact ⟨rfl, hsame⟩

theorem IsVisibility.append_injective {ts ts' : List Tree} (h : IsVisibility ts) (h' : IsVisibility ts') {i i' : Ident}
    (hi : i ≠ .plain "pub".toList) (hi' : i' ≠ .plain "pub".toList) {span span' : Span} {rest rest' : List Tree}
    (hsame : ts ++ .ident i span :: rest = ts' ++ .ident i' span' :: rest') :
    ts = ts' ∧ i = i' ∧ span = span' ∧ rest = rest' := by
  cases h <;> cases h' <;> simp_all

theorem Kind.word_ne_pub (kind : Kind) : Ident.plain kind.word.toList ≠ .plain "pub".toList := by
  cases kind <;> decide

theorem Kind.word_injective {kind kind' : Kind} (h : Ident.plain kind.word.toList = .plain kind'.word.toList) :
    kind = kind' := by
  cases kind <;> cases kind' <;> first | rfl | exact absurd h (by decide)

/-- The tokens of an item have one layout. -/
theorem Layout.trees_injective {l l' : Layout} (h : l.trees = l'.trees) : l = l' := by
  obtain ⟨htags, hrest⟩ := tagTrees_append_injective (nextIsMark_visibility l.visible _ _ _)
    (nextIsMark_visibility l'.visible _ _ _) h
  obtain ⟨hvisibility, hkind, hkindSpan, hname⟩ :=
    l.visible.append_injective l'.visible l.kind.word_ne_pub l'.kind.word_ne_pub hrest
  have hkind := Kind.word_injective hkind
  obtain ⟨tags, visibility, visible, kind, kindSpan, name, nameSpan, tail⟩ := l
  simp_all

/-! ### What is read of a tag -/

theorem isIdent_ofIdents (leading : Bool) (i : Ident) (rest : List Ident) (name : String) :
    (Path.ofIdents leading i rest).isIdent name = (!leading && (i == .plain name.toList && rest.isEmpty)) := by
  cases leading <;> cases rest <;> simp [Path.isIdent, Path.ofIdents, Bool.beq_eq_decide_eq]

/-- Segments are read as far as there are any. -/
theorem plainSegments_eq_ok {fuel : Nat} {c after : Cursor} {segments : List (Ident × Span)}
    (h : (Path.plainSegments (fuel + 1)).run c = .ok (segments, after)) :
    (segments = [] ∧ after = c ∧ nextIsIdent c.tokens = false) ∨
      ∃ i span rest more, c.tokens = .ident i span :: rest ∧ segments = (i, span) :: more ∧
        more.isEmpty = !nextIsMark "::" rest ∧ (more = [] → after.tokens = rest) := by
  simp only [Path.plainSegments, run_sequence, run_tokens, ok_bind, run_ite] at h
  split at h
  · obtain ⟨⟨⟨i, span⟩, c'⟩, hname, h⟩ := bind_eq_ok.1 h
    obtain ⟨rest, htokens, rfl⟩ := name_eq_ok.1 hname
    refine .inr ⟨i, span, rest, ?_⟩
    by_cases hmore : nextIsMark "::" rest = true
    · simp only [mark?_of_next (c := ⟨rest, _, _, _⟩) hmore, ok_bind, if_true] at h
      obtain ⟨⟨more, c''⟩, -, h⟩ := bind_eq_ok.1 h
      cases more with
      | nil => cases h
      | cons segment more =>
        cases h
        exact ⟨segment :: more, htokens, rfl, by rw [hmore]; rfl, nofun⟩
    · simp only [mark?_of_not_next (c := ⟨rest, _, _, _⟩) hmore, ok_bind, Bool.false_eq_true, if_false] at h
      cases h
      exact ⟨[], htokens, rfl, by simpa using hmore, fun _ => rfl⟩
  · next hnone =>
    cases h
    exact .inl ⟨rfl, rfl, by simp_all⟩

theorem skip_eq_ok {c after : Cursor} {a : Unit} (h : skip.run c = .ok (a, after)) : after.tokens = c.tokens.tail := by
  simp only [skip, run_sequence, run_tokens, ok_bind] at h
  rcases htokens : c.tokens with _ | ⟨t, ts⟩
  · rw [htokens] at h
    cases h
  · rw [htokens] at h
    cases h
    rw [htokens]
    rfl

theorem word?_eq_ok {s : String} {c after : Cursor} {found : Bool} (h : (word? s).run c = .ok (found, after)) :
    found = nextIsWord s c.tokens ∧ after.tokens = if found then c.tokens.tail else c.tokens := by
  simp only [word?, run_sequence, run_next, ok_bind, run_ite] at h
  split at h
  · next hnext =>
    obtain ⟨⟨⟨⟩, c'⟩, hskip, h⟩ := bind_eq_ok.1 h
    cases h
    exact ⟨hnext.symm, skip_eq_ok hskip⟩
  · next hnext =>
    cases h
    exact ⟨by simpa using hnext, rfl⟩

theorem ident_eq_ok {c after : Cursor} {i : Ident} {span : Span} (h : ident.run c = .ok ((i, span), after)) :
    c.tokens = .ident i span :: after.tokens ∧ nextIsIdent c.tokens = true := by
  simp only [ident, run_sequence, run_tokens, ok_bind] at h
  rcases htokens : c.tokens with _ | ⟨t, ts⟩
  · rw [htokens] at h
    cases h
  · rw [htokens] at h
    cases t with
    | ident j at_ =>
      simp only [run_sequence, run_ite] at h
      split at h
      · cases h
      · next hkeyword =>
        obtain ⟨⟨⟨⟩, c'⟩, hskip, h⟩ := bind_eq_ok.1 h
        cases h
        rw [skip_eq_ok hskip, htokens]
        exact ⟨rfl, by simpa [nextIsIdent] using hkeyword⟩
    | punct d joint at_ => cases h
    | literal text at_ => cases h
    | group d inner at_ opening closing => cases h

theorem beginsWith_of_separator {name : String} {ts : List Tree} (h : nextIsMark "::" ts = true) :
    WrittenTag.beginsWith name ts = false := by
  rcases ts with _ | ⟨t, ts⟩
  · rfl
  · cases t with
    | ident i span => cases h
    | punct d joint span => rfl
    | literal text span => rfl
    | group d inner span opening closing => rfl

/-- A path is exactly a name if the name is all there is of it. -/
theorem readPlain_eq_ok {c after : Cursor} {p : Path} {span : Span}
    (h : Path.readPlain.run c = .ok ((p, span), after)) (name : String) :
    p.isIdent name = WrittenTag.beginsWith name c.tokens ∧
      (p.isIdent name = true → span = (c.tokens.head?.map Tree.span).getD .whole ∧ after.tokens = c.tokens.tail) := by
  simp only [Path.readPlain, run_sequence, run_tokens, ok_bind] at h
  by_cases hleading : nextIsMark "::" c.tokens = true
  · simp only [mark?_of_next hleading, ok_bind] at h
    obtain ⟨⟨segments, c'⟩, -, h⟩ := bind_eq_ok.1 h
    have hpath : p.isIdent name = false := by
      cases segments with
      | nil =>
        obtain ⟨⟨⟨i, at_⟩, c''⟩, -, h⟩ := bind_eq_ok.1 h
        cases h
        exact isIdent_ofIdents true i [] name
      | cons segment more =>
        cases h
        exact isIdent_ofIdents true _ _ name
    rw [hpath, beginsWith_of_separator hleading]
    exact ⟨rfl, fun h => absurd h Bool.false_ne_true⟩
  · simp only [mark?_of_not_next hleading, ok_bind] at h
    obtain ⟨⟨segments, c'⟩, hsegments, hpath⟩ := bind_eq_ok.1 h
    rcases htokens : c.tokens with _ | ⟨t, ts⟩
    · rw [htokens] at hsegments
      cases hsegments
      obtain ⟨⟨⟨i, at_⟩, c''⟩, hident, -⟩ := bind_eq_ok.1 hpath
      have hfirst := (ident_eq_ok hident).1
      rw [htokens] at hfirst
      cases hfirst
    · rw [htokens] at hsegments
      rcases plainSegments_eq_ok hsegments with ⟨rfl, rfl, hnone⟩ | ⟨i, at_, rest, more, hfirst, rfl, hmore, hrest⟩
      · obtain ⟨⟨⟨i, at_⟩, c''⟩, hident, -⟩ := bind_eq_ok.1 hpath
        rw [(ident_eq_ok hident).2] at hnone
        cases hnone
      · cases hpath
        rw [htokens] at hfirst
        cases hfirst
        rw [isIdent_ofIdents]
        refine ⟨by simp [WrittenTag.beginsWith, hmore], fun hname => ?_⟩
        have hlast : more = [] := by simp_all
        rw [hlast]
        exact ⟨rfl, hrest hlast⟩

theorem here_of_mark {s : String} {c : Cursor} (h : nextIsMark s c.tokens = true) :
    c.here = (c.tokens.head?.map Tree.head).getD .whole := by
  obtain ⟨ts, close, leftover, written⟩ := c
  cases ts with
  | nil =>
    rw [nextIsMark] at h
    cases hs : s.toList <;> simp [hs, takeMark] at h
  | cons t ts => rfl

theorem contentOf_eq {ts : List Tree}
    (h : ∀ d inner span opening closing rest, ts ≠ .group d inner span opening closing :: rest) :
    WrittenTag.contentOf ts =
      if nextIsMark "=" ts && !nextIsMark "==" ts && !nextIsMark "=>" ts then
        .value ((ts.head?.map Tree.head).getD .whole)
      else .bare := by
  rcases ts with _ | ⟨t, ts⟩
  · rfl
  · cases t with
    | group d inner span opening closing => exact absurd rfl (h d inner span opening closing ts)
    | ident i span => rfl
    | punct d joint span => rfl
    | literal text span => rfl

/-- What a tag holds behind its path. -/
theorem contentBehind_eq_ok {g : Grammar.Rules} {p p' : Path} {span span' : Span} {content : Content} {c after : Cursor}
    (h : (Grammar.contentBehind g p span).run c = .ok ((p', span', content), after)) :
    p' = p ∧ span' = span ∧ content = WrittenTag.contentOf c.tokens := by
  simp only [Grammar.contentBehind, run_sequence, run_tokens, ok_bind] at h
  split at h
  · next d inner at_ opening closing rest htokens =>
    obtain ⟨⟨⟨⟩, c'⟩, -, hreturn⟩ := bind_eq_ok.1 h
    cases hreturn
    rw [htokens]
    exact ⟨rfl, rfl, rfl⟩
  · next ts hgroup =>
    rw [contentOf_eq fun d inner at_ opening closing rest hts => hgroup d inner at_ opening closing rest hts]
    rw [run_ite] at h
    split at h
    · next hsign =>
      simp only [run_sequence, run_cursor, ok_bind] at h
      obtain ⟨⟨⟨⟩, c'⟩, hmark, hvalue⟩ := bind_eq_ok.1 h
      obtain ⟨⟨⟨⟩, c''⟩, -, hreturn⟩ := bind_eq_ok.1 hvalue
      cases hreturn
      rw [if_pos hsign, here_of_mark (mark_eq_ok.1 hmark).1]
      exact ⟨rfl, rfl, rfl⟩
    · next hsign =>
      cases h
      rw [if_neg hsign]
      exact ⟨rfl, rfl, rfl⟩

theorem beginsWith_of_word {name other : String} {ts : List Tree} (h : nextIsWord other ts = true)
    (hne : other ≠ name) : WrittenTag.beginsWith name ts = false := by
  rcases ts with _ | ⟨t, ts⟩
  · rfl
  · cases t with
    | ident i span =>
      have hi : i = .plain other.toList := by simpa [nextIsWord] using h
      rw [hi]
      simp [WrittenTag.beginsWith, Ident.plain, String.toList_inj, hne]
    | punct d joint span => rfl
    | literal text span => rfl
    | group d inner span opening closing => rfl

/-- A tag is read as a dimension tag if it is written as one, and then as it is written. -/
theorem tagContent_eq_ok {g : Grammar.Rules} {p : Path} {span : Span} {content : Content} {c after : Cursor}
    (h : (Grammar.tagContent g).run c = .ok ((p, span, content), after)) :
    p.isIdent "dimension" = WrittenTag.beginsWith "dimension" c.tokens ∧
      (p.isIdent "dimension" = true → span = (c.tokens.head?.map Tree.span).getD .whole ∧
        content = WrittenTag.contentOf c.tokens.tail) := by
  unfold Grammar.tagContent at h
  simp only [run_sequence, run_cursor, ok_bind] at h
  obtain ⟨⟨guarded, c'⟩, hguard, hbehind⟩ := bind_eq_ok.1 h
  obtain ⟨hguarded, htokens⟩ := word?_eq_ok hguard
  cases guarded with
  | true =>
    simp only [if_true] at hbehind
    obtain ⟨rfl, -, -⟩ := contentBehind_eq_ok hbehind
    rw [beginsWith_of_word hguarded.symm (by decide)]
    exact ⟨by decide, fun hname => absurd hname (by decide)⟩
  | false =>
    simp only [Bool.false_eq_true, if_false] at hbehind htokens
    obtain ⟨⟨⟨p', span'⟩, c''⟩, hpath, hcontent⟩ := bind_eq_ok.1 hbehind
    obtain ⟨rfl, rfl, rfl⟩ := contentBehind_eq_ok hcontent
    obtain ⟨hname, hshape⟩ := readPlain_eq_ok hpath "dimension"
    rw [htokens] at hname hshape
    refine ⟨hname, fun h => ?_⟩
    obtain ⟨hspan, hrest⟩ := hshape h
    exact ⟨hspan, by rw [hrest]⟩

/-- A group is read by what is read of its tokens. -/
theorem group_eq_ok {α : Type} {d : Delimiter} {inner : Reader α} {c after : Cursor} {a : α}
    (h : (group d inner).run c = .ok (a, after)) :
    ∃ ts span opening closing start last, c.tokens = .group d ts span opening closing :: after.tokens ∧
      start.tokens = ts ∧ inner.run start = .ok (a, last) := by
  obtain ⟨⟨a', left⟩, middle, hwithin, hnote⟩ := Reading.run_bind_eq_ok.1 h
  cases hnote
  simp only [within] at hwithin
  split at hwithin
  · next e ts span opening closing rest htokens =>
    split at hwithin
    · next hd =>
      obtain ⟨⟨a'', last⟩, hinner, hreturn⟩ := bind_eq_ok.1 hwithin
      cases hreturn
      exact ⟨ts, span, opening, closing, _, last, by rw [htokens, hd], rfl, hinner⟩
    · cases hwithin
  · cases hwithin

/-- A tag in front of something, as it is written. -/
theorem tagsFor_succ_eq_ok {g : Grammar.Rules} {fuel : Nat} {c after : Cursor} {tags : List Tag}
    (h : (Grammar.tagsFor g (fuel + 1)).run c = .ok (tags, after)) :
    (tags = [] ∧ after = c) ∨
      ∃ written tag more middle, c.tokens = WrittenTag.trees written ++ middle.tokens ∧ tags = tag :: more ∧
        tag.isNamed "dimension" = written.isDimension ∧ (written.isDimension = true → tag = written.tag) ∧
        (Grammar.tagsFor g fuel).run middle = .ok (more, after) := by
  simp only [Grammar.tagsFor, run_sequence, run_next, run_cursor, run_tokens, ok_bind, run_ite] at h
  split at h
  · next hsign =>
    obtain ⟨joint, sign, rest, htokens⟩ := (nextIsMark_single (c := '#') rfl).1 hsign
    simp only [mark_of_next hsign, ok_bind] at h
    obtain ⟨⟨⟨p, pathSpan, content⟩, middle⟩, hgroup, h⟩ := bind_eq_ok.1 h
    obtain ⟨⟨more, last⟩, hmore, hreturn⟩ := bind_eq_ok.1 h
    cases hreturn
    obtain ⟨inner, span, opening, closing, start, _, hbehind, rfl, hcontent⟩ := group_eq_ok hgroup
    obtain ⟨hnamed, hshape⟩ := tagContent_eq_ok hcontent
    have hrest : rest = .group .bracket start.tokens span opening closing :: middle.tokens := by
      rw [← hbehind, Cursor.behindMark, htokens]
      rfl
    have hhere : c.here = sign := by rw [Cursor.here, htokens]; rfl
    refine .inr ⟨⟨joint, sign, start.tokens, span, opening, closing⟩, _, more, middle, ?_, rfl, hnamed, ?_, hmore⟩
    · rw [htokens, hrest]
      rfl
    · intro hdimension
      have hname : p.isIdent "dimension" = true := hnamed.trans hdimension
      have hpath : p = .ofIdents false (.plain "dimension".toList) [] := by simpa [Path.isIdent] using hname
      obtain ⟨hspan, hholds⟩ := hshape hname
      rw [hbehind, hhere, hspan, hholds, hpath]
      rfl
  · cases h
    exact .inl ⟨rfl, rfl⟩

/-- The tags in front of something, as they are written. -/
theorem tagsFor_eq_ok {g : Grammar.Rules} {fuel : Nat} {c after : Cursor} {tags : List Tag}
    (h : (Grammar.tagsFor g fuel).run c = .ok (tags, after)) :
    ∃ written : List WrittenTag, c.tokens = written.flatMap WrittenTag.trees ++ after.tokens ∧
      tags.filter (·.isNamed "dimension") = (written.filter WrittenTag.isDimension).map WrittenTag.tag := by
  induction fuel generalizing c tags with
  | zero =>
    cases h
    exact ⟨[], rfl, rfl⟩
  | succ fuel ih =>
    rcases tagsFor_succ_eq_ok h with ⟨rfl, rfl⟩ | ⟨a, tag, more, middle, htokens, rfl, hnamed, htag, hmore⟩
    · exact ⟨[], rfl, rfl⟩
    · obtain ⟨written, hrest, hsame⟩ := ih hmore
      refine ⟨a :: written, by rw [htokens, hrest, List.flatMap_cons, List.append_assoc], ?_⟩
      cases hdimension : a.isDimension with
      | true =>
        have hname : tag.isNamed "dimension" = true := hnamed.trans hdimension
        rw [List.filter_cons, if_pos hname, List.filter_cons, if_pos hdimension, hsame, htag hdimension, List.map_cons]
      | false => simp [hnamed, hdimension, hsame]

/-! ### What is read of the rest -/

theorem tokens_of_word {s : String} {ts : List Tree} (h : nextIsWord s ts = true) :
    ∃ span, ts = .ident (.plain s.toList) span :: ts.tail := by
  rcases ts with _ | ⟨t, ts⟩
  · cases h
  · cases t with
    | ident i span => exact ⟨span, by rw [show i = .plain s.toList by simpa [nextIsWord] using h]; rfl⟩
    | punct d joint span => cases h
    | literal text span => cases h
    | group d inner span opening closing => cases h

theorem visibility_eq_ok {c after : Cursor} {found : Bool} (h : Grammar.visibility.run c = .ok (found, after)) :
    ∃ ts, IsVisibility ts ∧ c.tokens = ts ++ after.tokens := by
  simp only [Grammar.visibility, run_sequence] at h
  obtain ⟨⟨isPub, c'⟩, hword, h⟩ := bind_eq_ok.1 h
  obtain ⟨hpub, htokens⟩ := word?_eq_ok hword
  cases isPub with
  | false =>
    cases h
    exact ⟨[], .inherited, htokens.symm⟩
  | true =>
    obtain ⟨span, hspan⟩ := tokens_of_word hpub.symm
    rw [if_pos rfl] at htokens
    rw [hspan, ← htokens]
    simp only [if_true, run_sequence, run_tokens, ok_bind] at h
    split at h
    · next inner at_ opening closing rest hgroup =>
      have hrestricted := IsVisibility.restricted span inner at_ opening closing
      simp only [run_ite, run_sequence] at h
      split at h
      · obtain ⟨⟨⟨⟩, c''⟩, hskip, hreturn⟩ := bind_eq_ok.1 h
        cases hreturn
        refine ⟨_, hrestricted, ?_⟩
        rw [hgroup, skip_eq_ok hskip, hgroup]
        rfl
      · split at h
        · obtain ⟨⟨⟨⟩, c''⟩, hscope, hreturn⟩ := bind_eq_ok.1 h
          cases hreturn
          obtain ⟨ts, at', opening', closing', -, -, hrest, -⟩ := group_eq_ok hscope
          exact ⟨_, .restricted span ts at' opening' closing', by rw [hrest]; rfl⟩
        · cases h
          exact ⟨_, .everywhere span, rfl⟩
    · cases h
      exact ⟨_, .everywhere span, rfl⟩

/-- Nothing is between angles if the closing one is next. -/
theorem entriesFor_eq_ok {item : Reader Bool} {comma : Reader Unit} {fuel : Nat} {c after : Cursor}
    {entries : List Grammar.Entry} (h : (Grammar.entriesFor item comma (fuel + 1)).run c = .ok (entries, after)) :
    entries.isEmpty = nextIsMark ">" c.tokens := by
  simp only [Grammar.entriesFor, run_sequence, run_next, ok_bind, run_ite] at h
  split at h
  · next hangle =>
    cases h
    exact hangle.symm
  · next hangle =>
    obtain ⟨⟨⟨isLifetime, trees⟩, middle⟩, -, h⟩ := bind_eq_ok.1 h
    rw [Bool.eq_false_iff.2 hangle]
    split at h
    · cases h
      rfl
    · obtain ⟨⟨⟨⟨⟩, comma⟩, last⟩, -, h⟩ := bind_eq_ok.1 h
      obtain ⟨⟨more, last'⟩, -, h⟩ := bind_eq_ok.1 h
      cases h
      rfl

theorem inAngles_eq_ok {item : Reader Bool} {comma : Reader Unit} {c after : Cursor} {entries : List Grammar.Entry}
    {span : Span} (h : (Grammar.inAngles item comma).run c = .ok ((entries, span), after)) :
    entries.isEmpty = nextIsMark ">" (c.tokens.drop 1) := by
  simp only [Grammar.inAngles, run_sequence, run_cursor, run_tokens, ok_bind] at h
  obtain ⟨⟨⟨⟩, middle⟩, hmark, hrest⟩ := bind_eq_ok.1 h
  obtain ⟨⟨read, last⟩, hentries, hwrite⟩ := bind_eq_ok.1 hrest
  obtain ⟨⟨⟨⟩, last'⟩, -, hclose⟩ := bind_eq_ok.1 hwrite
  obtain ⟨⟨⟨⟩, last''⟩, -, hreturn⟩ := bind_eq_ok.1 hclose
  cases hreturn
  obtain ⟨-, hmiddle⟩ := mark_eq_ok.1 hmark
  rw [entriesFor_eq_ok hentries, hmiddle]
  rfl

/-- Angles with something between them are parameters. -/
theorem parameters_eq_ok {g : Grammar.Rules} {c after : Cursor} {found : Option Span}
    (h : (Grammar.parameters g).run c = .ok (found, after)) :
    found.isSome = (nextIsMark "<" c.tokens && !nextIsMark ">" (c.tokens.drop 1)) := by
  simp only [Grammar.parameters, run_sequence, run_next, ok_bind, run_ite] at h
  split at h
  · next hangle =>
    obtain ⟨⟨⟨⟨entries, span⟩, read⟩, middle⟩, hcapture, h⟩ := bind_eq_ok.1 h
    obtain ⟨⟨⟨entries', span'⟩, last⟩, hangles, hreturn⟩ := bind_eq_ok.1 hcapture
    cases hreturn
    have hempty : entries.isEmpty = nextIsMark ">" (c.tokens.drop 1) :=
      inAngles_eq_ok (c := ⟨c.tokens, c.close, c.leftover, []⟩) hangles
    rw [hangle, Bool.true_and, ← hempty]
    dsimp only at h
    split at h
    · next hnone =>
      cases h
      rw [hnone]
      rfl
    · next hsome =>
      cases h
      rw [Bool.eq_false_iff.2 hsome]
      rfl
  · next hangle =>
    cases h
    simp [hangle]

/-- What is read behind the keyword of a kind. -/
theorem declared_eq_ok {g : Grammar.Rules} {tags : List Tag} {body : Reader Unit} {item : Item} {c after : Cursor}
    (h : (do
      let (name, parameters) ← Grammar.typeItem.head g
      body
      return { tags, name, parameters } : Reader Item).run c = .ok (item, after)) :
    ∃ nameSpan tail, c.tokens = .ident item.name nameSpan :: tail ∧
      item.parameters.isSome = (nextIsMark "<" tail && !nextIsMark ">" (tail.drop 1)) ∧ item.tags = tags := by
  simp only [Grammar.typeItem.head, run_sequence] at h
  obtain ⟨⟨⟨name, parameters⟩, c'⟩, hhead, hbody⟩ := bind_eq_ok.1 h
  obtain ⟨⟨⟨i, span⟩, middle⟩, hident, hbehind⟩ := bind_eq_ok.1 hhead
  obtain ⟨⟨found, last⟩, hparameters, hpair⟩ := bind_eq_ok.1 hbehind
  obtain ⟨⟨⟨⟩, c''⟩, -, hreturn⟩ := bind_eq_ok.1 hbody
  cases hpair
  cases hreturn
  exact ⟨span, middle.tokens, (ident_eq_ok hident).1, parameters_eq_ok hparameters, rfl⟩

theorem failAmong_ne_ok {α : Type} (wishes : List Wish) (c : Cursor) (result : α × Cursor) :
    (failAmong wishes : Reader α).run c ≠ .ok result := by
  intro h
  obtain ⟨c', _, -, h⟩ := Reading.run_bind_eq_ok.1 h
  split at h
  · split at h <;> cases h
  · cases h

/-- An item has a layout, and is read as its layout shows. -/
theorem layout_of_typeItem {g : Grammar.Rules} {c after : Cursor} {item : Item}
    (h : (Grammar.typeItem g).run c = .ok (item, after)) : ∃ l : Layout, l.trees = c.tokens ∧ l.Describes item := by
  obtain ⟨tags, c₁, htags, h⟩ := Reading.run_bind_eq_ok.1 h
  obtain ⟨visible, c₂, hvisible, h⟩ := Reading.run_bind_eq_ok.1 h
  have htagsFor : (Grammar.tagsFor g (c.tokens.length + 1)).run c = .ok (tags, c₁) := htags
  obtain ⟨written, hwritten, hdimension⟩ := tagsFor_eq_ok htagsFor
  obtain ⟨visibility, hvisibility, hrest⟩ := visibility_eq_ok hvisible
  have hlayout (kind : Kind) (body : Reader Unit) (c₃ : Cursor) (hword : nextIsWord kind.word c₂.tokens = true)
      (hbehind : c₃.tokens = c₂.tokens.tail)
      (hbody : (do
        let (name, parameters) ← Grammar.typeItem.head g
        body
        return { tags, name, parameters } : Reader Item).run c₃ = .ok (item, after)) :
      ∃ l : Layout, l.trees = c.tokens ∧ l.Describes item := by
    obtain ⟨kindSpan, hkind⟩ := tokens_of_word hword
    obtain ⟨nameSpan, tail, hname, hparameters, rfl⟩ := declared_eq_ok hbody
    refine ⟨⟨written, visibility, hvisibility, kind, kindSpan, item.name, nameSpan, tail⟩, ?_, rfl, hparameters,
      hdimension⟩
    rw [hwritten, hrest, hkind, ← hbehind, hname]
    rfl
  obtain ⟨isStructure, c₃, hstructure, h⟩ := Reading.run_bind_eq_ok.1 h
  obtain ⟨hfound, hbehind⟩ := word?_eq_ok hstructure
  cases isStructure with
  | true => exact hlayout .record _ c₃ hfound.symm hbehind h
  | false =>
    have hsame₃ : c₃.tokens = c₂.tokens := hbehind
    obtain ⟨isEnumeration, c₄, henumeration, h⟩ := Reading.run_bind_eq_ok.1 h
    obtain ⟨hfound, hbehind⟩ := word?_eq_ok henumeration
    rw [hsame₃] at hfound hbehind
    cases isEnumeration with
    | true => exact hlayout .enumeration _ c₄ hfound.symm hbehind h
    | false =>
      have hsame₄ : c₄.tokens = c₂.tokens := hbehind
      obtain ⟨isUnion, c₅, hunion, h⟩ := Reading.run_bind_eq_ok.1 h
      obtain ⟨hfound, hbehind⟩ := word?_eq_ok hunion
      rw [hsame₄] at hfound hbehind
      cases isUnion with
      | true => exact hlayout .union _ c₅ hfound.symm hbehind h
      | false => exact absurd h (failAmong_ne_ok _ _ _)

/-- **The tokens of an item have a layout, and the item is read as the layout shows.** -/
theorem layout_of_ofTrees {ts : List Tree} {item : Item} (h : Item.ofTrees ts = .ok item) :
    ∃ l : Layout, l.trees = ts ∧ l.Describes item := by
  obtain ⟨⟨item', last⟩, hread, hfinish⟩ := bind_eq_ok.1 h
  obtain ⟨⟨⟩, -, hreturn⟩ := bind_eq_ok.1 hfinish
  cases hreturn
  obtain ⟨_, _, htokens, htypeItem⟩ := Reading.run_bind_eq_ok.1 (Reading.liftM_eq_ok.1 hread)
  cases htokens
  exact layout_of_typeItem htypeItem

theorem Layout.describes_of_ofTrees {l : Layout} {item : Item} (h : Item.ofTrees l.trees = .ok item) :
    l.Describes item := by
  obtain ⟨l', htrees, hdescribes⟩ := layout_of_ofTrees h
  rw [← trees_injective htrees]
  exact hdescribes

end Dimensional.Derive
