import Dimensional.Proofs.Derive.Spelling

/-!
# The declaration says what the attribute says

An item is declared a marker of the dimension that its attribute spells: the types of its declaration spell
the exponents of the entries, zero where there is none, and all of it stands under the path of the entries,
or under the usual one.

* `declaration`, `words_eq_declaration` — the shape of a declaration;
* `types_of_declaration` — a declaration determines its types;
* `markerOf_of_spelled` — what is declared of an item;
* `declares_what_is_said` — the whole.
-/

namespace Dimensional.Derive

open Source Draft

/-! ### The shape of a declaration -/

/-- The line for one axis. -/
def associatedType (path : List Text) (title : String) (type : Text) : List Text :=
  ["type".toList, title.toList, "=".toList] ++
    (path ++ ["::".toList, "typenum".toList, "::".toList, type, ";".toList])

/-- One implementation of the trait under the path, for the name, with these types. -/
def declaration (path : List Text) (name : Text) (types : PerAxis Text) : List Text :=
  ["impl".toList] ++ (path ++ (["::".toList, "Dimension".toList, "for".toList, name, ['\x7b']] ++
    (associatedType path "Time" types.time ++ (associatedType path "Mass" types.mass ++
    (associatedType path "Length" types.length ++ (associatedType path "Angle" types.angle ++
    (associatedType path "Reserved0" types.reserved0 ++ (associatedType path "Reserved1" types.reserved1 ++
    (associatedType path "Reserved2" types.reserved2 ++ (associatedType path "Reserved3" types.reserved3 ++
    [['\x7d']]))))))))))

theorem words_eq_declaration (m : Marker) :
    m.words = declaration m.path.words m.name.text (m.exponents.map exponentName) := by
  have haxis : ∀ axis, m.axisWords axis =
      associatedType m.path.words axis.title (exponentName (m.exponents.get axis)) := by
    intro axis
    simp only [Marker.axisWords, exponentWords, associatedType, List.append_assoc, List.cons_append,
      List.nil_append]
    rfl
  simp only [Marker.words, Axis.all, List.flatMap_cons, List.flatMap_nil, haxis, List.append_assoc,
    List.nil_append, List.cons_append]
  rfl

theorem length_associatedType (path : List Text) (title : String) (type : Text) :
    (associatedType path title type).length = path.length + 8 := by
  rw [associatedType, List.length_append, List.length_append]
  show 3 + (path.length + 5) = _
  omega

theorem length_declaration (path : List Text) (name : Text) (types : PerAxis Text) :
    (declaration path name types).length = 9 * path.length + 71 := by
  simp only [declaration, List.length_append, length_associatedType, List.length_cons, List.length_nil]
  omega

theorem type_of_associatedType {path path' : List Text} {title : String} {type type' : Text}
    (hpath : path.length = path'.length)
    (h : associatedType path title type = associatedType path' title type') : type = type' := by
  have hrest := (List.append_inj h rfl).2
  have hspelled := (List.append_inj hrest hpath).2
  exact (List.cons.inj (List.cons.inj (List.cons.inj (List.cons.inj hspelled).2).2).2).1

/-- **A declaration determines its types**, whatever the path and the name. -/
theorem types_of_declaration {path path' : List Text} {name name' : Text} {types types' : PerAxis Text}
    (h : declaration path name types = declaration path' name' types') : types = types' := by
  have hlength := congrArg List.length h
  rw [length_declaration, length_declaration] at hlength
  have hpath : path.length = path'.length := by omega
  have hline : ∀ title type type', (associatedType path title type).length =
      (associatedType path' title type').length := by
    intro title type type'
    rw [length_associatedType, length_associatedType, hpath]
  -- both declarations are cut at the same places
  have hbody := (List.append_inj (List.append_inj (List.append_inj h rfl).2 hpath).2 rfl).2
  obtain ⟨htime, hbody⟩ := List.append_inj hbody (hline _ _ _)
  obtain ⟨hmass, hbody⟩ := List.append_inj hbody (hline _ _ _)
  obtain ⟨hlength, hbody⟩ := List.append_inj hbody (hline _ _ _)
  obtain ⟨hangle, hbody⟩ := List.append_inj hbody (hline _ _ _)
  obtain ⟨hreserved0, hbody⟩ := List.append_inj hbody (hline _ _ _)
  obtain ⟨hreserved1, hbody⟩ := List.append_inj hbody (hline _ _ _)
  obtain ⟨hreserved2, hbody⟩ := List.append_inj hbody (hline _ _ _)
  obtain ⟨hreserved3, -⟩ := List.append_inj hbody (hline _ _ _)
  refine PerAxis.ext_get fun axis => ?_
  cases axis
  · exact type_of_associatedType hpath htime
  · exact type_of_associatedType hpath hmass
  · exact type_of_associatedType hpath hlength
  · exact type_of_associatedType hpath hangle
  · exact type_of_associatedType hpath hreserved0
  · exact type_of_associatedType hpath hreserved1
  · exact type_of_associatedType hpath hreserved2
  · exact type_of_associatedType hpath hreserved3

/-- Markers with different exponents are declared differently. -/
theorem exponents_of_words {m m' : Marker} (h : m.words = m'.words) : m.exponents = m'.exponents := by
  rw [words_eq_declaration, words_eq_declaration] at h
  have htypes := types_of_declaration h
  refine PerAxis.ext_get fun axis => exponentName_injective ?_
  have haxis := congrArg (fun types => PerAxis.get types axis) htypes
  simp only [PerAxis.get_map] at haxis
  exact haxis

theorem exponentOf?_types (powers : Powers) : (powers.map exponentName).map exponentOf? = powers.map some := by
  refine PerAxis.ext_get fun axis => ?_
  rw [PerAxis.get_map, PerAxis.get_map, PerAxis.get_map, exponentOf?_exponentName]

/-! ### What is declared -/

/-- The entries give these exponents, zero where there is none, and this path, the usual one if there is
none. -/
structure Means (es : List Given) (powers : Powers) (path : Path) : Prop where
  given : ∀ axis n, .exponent axis n ∈ es → powers.get axis = n
  omitted : ∀ axis, (∀ n, .exponent axis n ∉ es) → powers.get axis = 0
  path : .path path ∈ es ∨ (∀ p, .path p ∉ es) ∧ path = Attribute.usualPath

theorem finish_of_means {es : List Given} {powers : Powers} {path : Path} {d : Draft} (h : Means es powers path)
    (hgains : Gains empty es d) : d.finish.exponents.powers = powers ∧ d.finish.path = path := by
  constructor
  · refine PerAxis.ext_get fun axis => ?_
    have hget : d.finish.exponents.powers.get axis = ((d.exponents.get axis).getD Fixed.zero).toInt := by
      rw [← finish_exponent]
      exact PerAxis.get_map _ _ _
    rw [hget]
    by_cases hgiven : ∃ n, .exponent axis n ∈ es
    · obtain ⟨n, hn⟩ := hgiven
      obtain ⟨a, ha, hvalue⟩ := hgains.exponent axis n hn
      rw [ha, h.given axis n hn]
      exact hvalue
    · have hnone : ∀ n, .exponent axis n ∉ es := fun n hn => hgiven ⟨n, hn⟩
      rw [hgains.otherExponent axis hnone, h.omitted axis hnone,
        show empty.exponents.get axis = none from PerAxis.get_const none axis]
      rfl
  · show d.path.getD Attribute.usualPath = path
    rcases h.path with hgiven | ⟨hnone, rfl⟩
    · rw [hgains.path path hgiven]
      rfl
    · rw [hgains.otherPath hnone]
      rfl

theorem markerOf_of_attribute {item : Item} {said : Attribute} (hparameters : item.parameters = none)
    (h : attributeOf item.tags = .ok said) :
    markerOf item = .ok ⟨item.name, said.path, said.exponents.powers⟩ := by
  simp only [markerOf, hparameters]
  exact bind_of_ok h _

/-- What is declared of an item whose one tag spells these entries. -/
theorem markerOf_of_spelled {item : Item} {tag : Tag} {ts : List Tree} {close : Span} {es : List Given}
    {powers : Powers} {path : Path} (hparameters : item.parameters = none)
    (htags : item.tags.filter (·.isNamed "dimension") = [tag]) (hcontent : tag.content = .arguments ts close)
    (hspelled : Spelled es ts) (hkeys : (es.map Given.key).Nodup) (hbounded : ∀ axis, Bounded (powers.get axis))
    (hmeans : Means es powers path) : markerOf item = .ok ⟨item.name, path, powers⟩ := by
  obtain ⟨d, hread, hgains⟩ := ofTrees_of_spelled close hspelled hkeys fun axis n hn =>
    hmeans.given axis n hn ▸ hbounded axis
  obtain ⟨hexponents, hpath⟩ := finish_of_means hmeans hgains
  have hsaid : attributeOf item.tags = .ok d.finish := by
    simp only [attributeOf, htags, Tag.read, hcontent]
    exact hread
  rw [markerOf_of_attribute hparameters hsaid, hexponents, hpath]

/-- **The declaration says what the attribute says.**  An item without parameters whose one dimension tag
spells exponents within the bound, each axis once at most and zero if left out, and a path or none, is
declared by one implementation under that path, of types that spell just these exponents; without such a
tag the types spell zero, under the usual path.  A path without arguments can be given anywhere, and every
list of entries can be written.  Items of different exponents are never declared alike. -/
theorem declares_what_is_said :
    (∀ (item : Item) (tag : Tag) (ts : List Tree) (close : Span) (es : List Given) (t m l a : Int) (path : Path),
      item.parameters = none → item.tags.filter (·.isNamed "dimension") = [tag] →
        tag.content = .arguments ts close → Spelled es ts → (es.map Given.key).Nodup →
          Bounded t → Bounded m → Bounded l → Bounded a → Means es ⟨t, m, l, a, 0, 0, 0, 0⟩ path →
            ∃ marker types, markerOf item = .ok marker ∧ marker.exponents = ⟨t, m, l, a, 0, 0, 0, 0⟩ ∧
              marker.words = declaration path.words item.name.text types ∧
              types.map exponentOf? =
                ⟨some t, some m, some l, some a, some 0, some 0, some 0, some 0⟩) ∧
    (∀ item : Item, item.parameters = none → item.tags.filter (·.isNamed "dimension") = [] →
      ∃ marker types, markerOf item = .ok marker ∧ marker.exponents = Powers.one ∧
        marker.words = declaration ["::".toList, "dimq".toList] item.name.text types ∧
        types.map exponentOf? = PerAxis.const (some 0)) ∧
    (∀ (written : PlainPath) (span sign : Span) (joint : Bool) (comma rest : List Tree) (es : List Given),
      IsComma comma → Spelled es rest → Spelled (.path written.path :: es)
        (.ident (.plain "crate".toList) span :: .punct '=' joint sign :: (written.trees ++ (comma ++ rest)))) ∧
    (∀ es : List Given, (∀ g ∈ es, g.Writable) → ∃ ts, Spelled es ts) ∧
    (∀ (item item' : Item) (marker marker' : Marker),
      markerOf item = .ok marker → markerOf item' = .ok marker' →
        marker.exponents ≠ marker'.exponents → marker.words ≠ marker'.words) := by
  refine ⟨?_, ?_, ?_, exists_spelled, ?_⟩
  · intro item tag ts close es t m l a path hparameters htags hcontent hspelled hkeys ht hm hl ha hmeans
    have hzero : Bounded 0 := by decide
    have hbounded : ∀ axis, Bounded ((⟨t, m, l, a, 0, 0, 0, 0⟩ : Powers).get axis) := by
      intro axis
      cases axis <;> assumption
    refine ⟨_, _, markerOf_of_spelled hparameters htags hcontent hspelled hkeys hbounded hmeans, rfl,
      words_eq_declaration _, ?_⟩
    exact exponentOf?_types _
  · intro item hparameters htags
    have hsaid : attributeOf item.tags = .ok .default := by
      simp only [attributeOf, htags]
    refine ⟨_, _, markerOf_of_attribute hparameters hsaid, rfl, words_eq_declaration _, ?_⟩
    exact exponentOf?_types _
  · intro written span sign joint comma rest es hcomma hrest
    exact spelled_plainPath written span joint sign hcomma hrest
  · intro item item' marker marker' _ _ hother hsame
    exact hother (exponents_of_words hsame)

/-- The path of a module of its own. -/
def unitsPath : PlainPath where
  leading? := none
  first := (.plain "my".toList, .whole)
  more := [(⟨.whole, false, .whole⟩, .plain "units".toList, .whole)]
  firstStands := by decide
  moreStand := by decide

/-- Two exponents and a path, in an order of their own. -/
def thrustEntries : List Given := [.exponent .length 1, .exponent .time (-2), .path unitsPath.path]

/-- The entries as they are written, a comma left out. -/
def thrustTrees : List Tree :=
  [.ident (.plain "length".toList) .whole, .punct '=' false .whole, .literal "1".toList .whole,
    .ident (.plain "time".toList) .whole, .punct '=' false .whole, .punct '-' false .whole,
    .literal "2".toList .whole, .punct ',' false .whole,
    .ident (.plain "crate".toList) .whole, .punct '=' false .whole, .ident (.plain "my".toList) .whole,
    .punct ':' true .whole, .punct ':' false .whole, .ident (.plain "units".toList) .whole]

/-- An item with these entries as its attribute. -/
def thrustItem : Item where
  tags := [⟨.ofIdents false (.plain "dimension".toList) [], .whole, .arguments thrustTrees .whole, .whole⟩]
  name := .plain "Thrust".toList
  parameters := none

theorem declares_what_is_said_thrust :
    Spelled thrustEntries thrustTrees ∧ (thrustEntries.map Given.key).Nodup ∧
      Means thrustEntries ⟨-2, 0, 1, 0, 0, 0, 0, 0⟩ unitsPath.path ∧
      ∃ marker types, markerOf thrustItem = .ok marker ∧
        marker.words = declaration ["my".toList, "::".toList, "units".toList] "Thrust".toList types ∧
        types.map exponentOf? =
          ⟨some (-2), some 0, some 1, some 0, some 0, some 0, some 0, some 0⟩ := by
  obtain ⟨hdeclares, -, hpath, -⟩ := declares_what_is_said
  have hspelled : Spelled thrustEntries thrustTrees := by
    refine .exponent .whole false .whole (by decide) (.plain .whole rfl) .absent ?_
    refine .exponent .whole false .whole (by decide) (.negative false .whole .whole rfl) (.present false .whole) ?_
    exact hpath unitsPath .whole .whole false [] [] [] .absent .nil
  have hkeys : (thrustEntries.map Given.key).Nodup := by decide
  have hmeans : Means thrustEntries ⟨-2, 0, 1, 0, 0, 0, 0, 0⟩ unitsPath.path := by
    refine ⟨?_, ?_, .inl (.tail _ (.tail _ (.head _)))⟩
    · intro axis n hmem
      rcases hmem with _ | ⟨_, _ | ⟨_, _ | ⟨_, ⟨⟩⟩⟩⟩ <;> rfl
    · intro axis hnone
      cases axis
      case time => exact absurd (.tail _ (.head _)) (hnone (-2))
      case length => exact absurd (.head _) (hnone 1)
      all_goals rfl
  obtain ⟨marker, types, hmarker, -, hwords, htypes⟩ := hdeclares thrustItem _ thrustTrees .whole thrustEntries
    (-2) 0 1 0 unitsPath.path rfl rfl rfl hspelled hkeys (by decide) (by decide) (by decide) (by decide) hmeans
  exact ⟨hspelled, hkeys, hmeans, marker, types, hmarker, hwords, htypes⟩

end Dimensional.Derive
