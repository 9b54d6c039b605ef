import Dimensional.Outcome
import Dimensional.Proofs.Json.Document

/-!
# Written strings are read as what they spell

* `readHex_codeUnit` — the four digits of a numeric escape;
* `read_spelling` — a string is read up to its closing quote, and its characters are those of its spelling;
* `Spelling.decode_plain` — a text as it stands is spelled without escapes.
-/

namespace Dimensional.Json

/-! ### Numeric escapes -/

theorem length_le_encodedSize (cs : Text) : cs.length ≤ Quoted.encodedSize cs := by
  induction cs with
  | nil => exact Nat.le_refl 0
  | cons c cs ih =>
    have hsize : 0 < c.utf8Size := c.utf8Size_pos
    show cs.length + 1 ≤ c.utf8Size + Quoted.encodedSize cs
    omega

theorem readHex_codeUnit (u : CodeUnit) (rest : Text) :
    Quoted.readHex (u.text ++ rest) = .ok (u.value, rest) := by
  have hsize := length_le_encodedSize (u.text ++ rest)
  have hlong : ¬ Quoted.encodedSize (u.text ++ rest) < 4 := by
    have hlength : (u.text ++ rest).length = 4 + rest.length := by
      rw [List.length_append]
      rfl
    omega
  have hdigits : ((u.text ++ rest).take 4).mapM Quoted.hexDigit? = some (u.digits.map HexDigit.value) := by
    show [u.first.char, u.second.char, u.third.char, u.fourth.char].mapM Quoted.hexDigit? = _
    simp only [List.mapM_cons, List.mapM_nil, HexDigit.reads]
    rfl
  rw [Quoted.readHex, if_neg hlong, hdigits]
  rfl

theorem readUnicode_of_trailing {u : CodeUnit} (h : Quoted.isTrailing u.value = true) (rest : Text) :
    Quoted.readUnicode (u.text ++ rest) = .error .loneSurrogate := by
  rw [Quoted.readUnicode, bind_of_ok (readHex_codeUnit u rest)]
  exact if_pos h

/-- A code unit that is no surrogate is a character. -/
theorem readUnicode_of_ordinary {u : CodeUnit} (htrailing : ¬ Quoted.isTrailing u.value = true)
    (hleading : ¬ Quoted.isLeading u.value = true) (rest : Text) :
    Quoted.readUnicode (u.text ++ rest) = .ok (Char.ofNat u.value, rest) := by
  rw [Quoted.readUnicode, bind_of_ok (readHex_codeUnit u rest)]
  exact (if_neg htrailing).trans (if_neg hleading)

theorem readUnicode_of_leading {u : CodeUnit} (htrailing : ¬ Quoted.isTrailing u.value = true)
    (hleading : Quoted.isLeading u.value = true) (w : CodeUnit) (rest : Text) :
    Quoted.readUnicode (u.text ++ '\\' :: 'u' :: (w.text ++ rest)) =
      if Quoted.isTrailing w.value then
        .ok (Char.ofNat (0x10000 + (u.value - 0xd800) * 0x400 + (w.value - 0xdc00)), rest)
      else .error .loneSurrogate := by
  rw [Quoted.readUnicode, bind_of_ok (readHex_codeUnit u _)]
  refine (if_neg htrailing).trans ((if_pos hleading).trans ?_)
  exact bind_of_ok (readHex_codeUnit w rest) _

/-- Half of a surrogate pair that nothing completes. -/
theorem readUnicode_of_unpaired {u : CodeUnit} (htrailing : ¬ Quoted.isTrailing u.value = true)
    (hleading : Quoted.isLeading u.value = true) {s : Spelling}
    (hunpaired : ∀ w more, s ≠ .unit w :: more) (rest : Text) :
    Quoted.readUnicode (u.text ++ (s.text ++ '\x22' :: rest)) = .error .endOfHexEscape := by
  rw [Quoted.readUnicode, bind_of_ok (readHex_codeUnit u _)]
  refine (if_neg htrailing).trans ((if_pos hleading).trans ?_)
  cases s with
  | nil => rfl
  | cons p s =>
    cases p with
    | plain c hc =>
      have hshape : Spelling.text (.plain c hc :: s) ++ '\x22' :: rest =
          c :: (Spelling.text s ++ '\x22' :: rest) := rfl
      rw [hshape]
      split
      · next heq => cases heq
      · next heq => exact absurd (List.cons.inj heq).1 hc.2.1
      · next heq => exact absurd (List.cons.inj heq).1 hc.2.1
      · rfl
    | escape e => cases e <;> rfl
    | unit w => exact absurd rfl (hunpaired w s)

/-! ### Strings -/

theorem readEscape_letter (e : Escape) (rest : Text) :
    Quoted.readEscape (e.letter :: rest) = .ok (e.char, rest) := by
  cases e <;> rfl

section

variable {fuel : Nat} {cs more rest : Text} {c : Char} {tail : Except Error Text}

theorem readFrom_plain (hc : IsPlain c)
    (hmore : Quoted.readFrom fuel more = tail.map fun t => (t, rest)) :
    Quoted.readFrom (fuel + 1) (c :: more) = (tail.map (c :: ·)).map fun t => (t, rest) := by
  obtain ⟨hquote, hescape, hcontrol⟩ := hc
  rw [Quoted.readFrom, if_neg hquote, if_neg hescape, if_neg hcontrol, hmore]
  cases tail <;> rfl

/-- A character behind a backslash, and the string behind it. -/
theorem readFrom_escape (hescape : Quoted.readEscape cs = .ok (c, more))
    (hmore : Quoted.readFrom fuel more = tail.map fun t => (t, rest)) :
    Quoted.readFrom (fuel + 1) ('\\' :: cs) = (tail.map (c :: ·)).map fun t => (t, rest) := by
  rw [Quoted.readFrom, if_neg (by decide), if_pos rfl, bind_of_ok hescape]
  show (Quoted.readFrom fuel more >>= fun found => Except.ok (c :: found.1, found.2)) = _
  rw [hmore]
  cases tail <;> rfl

theorem readFrom_escape_error {e : Error} (h : Quoted.readEscape cs = .error e) :
    Quoted.readFrom (fuel + 1) ('\\' :: cs) = .error e := by
  rw [Quoted.readFrom, if_neg (by decide), if_pos rfl, bind_of_error h]

end

namespace Spelling

theorem text_cons (p : Piece) (s : Spelling) (rest : Text) :
    text (p :: s) ++ rest = p.text ++ (s.text ++ rest) := by
  rw [text, List.flatMap_cons, List.append_assoc]
  rfl

theorem length_text_cons (p : Piece) (s : Spelling) :
    (text (p :: s)).length = p.text.length + s.text.length := by
  rw [text, List.flatMap_cons, List.length_append]
  rfl

end Spelling

theorem readFrom_spelling (s : Spelling) (rest : Text) :
    ∀ fuel, s.text.length < fuel →
      Quoted.readFrom fuel (s.text ++ '\x22' :: rest) = s.decode.map fun t => (t, rest) := by
  -- along `decode`: a pair of surrogates takes two pieces at once
  fun_induction Spelling.decode s with
  | case1 =>
    intro fuel hfuel
    obtain ⟨m, rfl⟩ := Nat.exists_eq_add_of_lt hfuel
    rfl
  | case2 c hc s ih =>
    intro fuel hfuel
    obtain ⟨m, rfl⟩ := Nat.exists_eq_add_of_lt hfuel
    rw [Spelling.length_text_cons]
    exact readFrom_plain hc (ih _ (by show _ < 1 + _ + m; omega))
  | case3 e s ih =>
    intro fuel hfuel
    obtain ⟨m, rfl⟩ := Nat.exists_eq_add_of_lt hfuel
    rw [Spelling.length_text_cons]
    exact readFrom_escape (readEscape_letter e _) (ih _ (by show _ < 2 + _ + m; omega))
  | case4 u s htrailing =>
    intro fuel hfuel
    obtain ⟨m, rfl⟩ := Nat.exists_eq_add_of_lt hfuel
    rw [Spelling.text_cons]
    exact readFrom_escape_error (readUnicode_of_trailing htrailing _)
  | case5 u htrailing hleading w s hpair ih =>
    intro fuel hfuel
    obtain ⟨m, rfl⟩ := Nat.exists_eq_add_of_lt hfuel
    rw [Spelling.text_cons, Spelling.text_cons, Spelling.length_text_cons, Spelling.length_text_cons]
    refine readFrom_escape ((readUnicode_of_leading htrailing hleading w _).trans (if_pos hpair)) (ih _ ?_)
    show _ < 6 + (6 + _) + m
    omega
  | case6 u htrailing hleading w s hpair =>
    intro fuel hfuel
    obtain ⟨m, rfl⟩ := Nat.exists_eq_add_of_lt hfuel
    rw [Spelling.text_cons, Spelling.text_cons]
    exact readFrom_escape_error ((readUnicode_of_leading htrailing hleading w _).trans (if_neg hpair))
  | case7 u s htrailing hleading hunpaired =>
    intro fuel hfuel
    obtain ⟨m, rfl⟩ := Nat.exists_eq_add_of_lt hfuel
    rw [Spelling.text_cons]
    exact readFrom_escape_error (readUnicode_of_unpaired htrailing hleading hunpaired rest)
  | case8 u s htrailing hleading ih =>
    intro fuel hfuel
    obtain ⟨m, rfl⟩ := Nat.exists_eq_add_of_lt hfuel
    rw [Spelling.text_cons, Spelling.length_text_cons]
    refine readFrom_escape (readUnicode_of_ordinary htrailing hleading _) (ih _ ?_)
    show _ < 6 + _ + m
    omega

/-- **A string is read up to its closing quote**, as what it spells. -/
theorem read_spelling (s : Spelling) (rest : Text) :
    Quoted.read (s.text ++ '\x22' :: rest) = s.decode.map fun t => (t, rest) := by
  refine readFrom_spelling s rest _ ?_
  rw [List.length_append, List.length_cons]
  omega

/-! ### Strings without escapes -/

/-- A text as it stands, every character for itself. -/
def Spelling.plain (t : Text) (h : ∀ c ∈ t, IsPlain c) : Spelling := t.pmap Piece.plain h

theorem Spelling.text_plain (t : Text) (h : ∀ c ∈ t, IsPlain c) : (plain t h).text = t := by
  induction t with
  | nil => rfl
  | cons c t ih => exact congrArg (c :: ·) (ih fun d hd => h d (List.mem_cons_of_mem _ hd))

theorem Spelling.decode_plain (t : Text) (h : ∀ c ∈ t, IsPlain c) : (plain t h).decode = .ok t := by
  induction t with
  | nil => rfl
  | cons c t ih =>
    show (decode (plain t _)).map (c :: ·) = .ok (c :: t)
    rw [ih fun d hd => h d (List.mem_cons_of_mem _ hd)]
    rfl

end Dimensional.Json
