import Dimensional.Derive.Reading
import Dimensional.Source.Number

/-!
# Reading tokens

What can be asked about the tokens that are next, and the readers that take them. A report at the end of
a group points at its closing delimiter.

What has been read is written down again, since a path is printed as it was understood and not as it
was spelled: marks of several characters are joined, and a minus sign belongs to the number behind it.

* `takeMark_single` — a mark of one character is there as soon as its character is, joint or not;
* `takeMark_markTrees` — a mark that is written can be read, whatever follows.
-/

namespace Dimensional.Derive

open Source

/-! ### What is next -/

/-- The tokens behind a mark of punctuation, if it is next. All of its characters but the last must be
joint. -/
def takeMark : Text → List Tree → Option (List Tree)
  | [c], .punct d _ _ :: ts => if c = d then some ts else none
  | c :: mark, .punct d joint _ :: ts => if c = d ∧ joint then takeMark mark ts else none
  | _, _ => none

/-- The tokens of a mark of punctuation. -/
def markTrees : Text → List Tree
  | [] => []
  | [c] => [.punct c false .whole]
  | c :: mark => .punct c true .whole :: markTrees mark

/-- The mark is next. -/
def nextIsMark (mark : String) (ts : List Tree) : Bool := (takeMark mark.toList ts).isSome

/-- The keyword is next. -/
def nextIsWord (word : String) : List Tree → Bool
  | .ident i _ :: _ => i == .plain word.toList
  | _ => false

/-- One of the marks is next. -/
def nextIsMarkIn (marks : List String) (ts : List Tree) : Bool := marks.any (nextIsMark · ts)

/-- One of the keywords is next. -/
def nextIsWordIn (words : List String) (ts : List Tree) : Bool := words.any (nextIsWord · ts)

/-- A group in these delimiters is next. -/
def nextIsGroup (d : Delimiter) : List Tree → Bool
  | .group e _ _ _ _ :: _ => d == e
  | _ => false

/-- Words that are no identifiers. -/
def keywords : List String :=
  ["_", "abstract", "as", "async", "await", "become", "box", "break", "const", "continue", "crate",
   "do", "dyn", "else", "enum", "extern", "false", "final", "fn", "for", "if", "impl", "in", "let",
   "loop", "macro", "match", "mod", "move", "mut", "override", "priv", "pub", "ref", "return", "Self",
   "self", "static", "struct", "super", "trait", "true", "try", "type", "typeof", "unsafe", "unsized",
   "use", "virtual", "where", "while", "yield"]

/-- The word is kept for the language; a raw identifier never is. -/
def isKeyword (i : Ident) : Bool := !i.raw && keywords.any fun word => word.toList == i.name

/-- An identifier is next, and no keyword. -/
def nextIsIdent : List Tree → Bool
  | .ident i _ :: _ => !isKeyword i
  | _ => false

/-- An identifier or a keyword is next. -/
def nextIsName : List Tree → Bool
  | .ident _ _ :: _ => true
  | _ => false

/-- The name of a lifetime is next. -/
def nextIsLifetime : List Tree → Bool
  | .punct c joint _ :: .ident _ _ :: _ => c == Literal.apostrophe && joint
  | _ => false

/-- A literal is next: a number may have a minus sign in front. -/
def nextIsLiteral : List Tree → Bool
  | .literal _ _ :: _ => true
  | .punct '-' _ _ :: .literal text _ :: _ => Literal.isNumber text
  | ts => nextIsWordIn ["true", "false"] ts

/-- The tokens behind the next one; a lifetime counts as one. -/
def behind (ts : List Tree) : List Tree := ts.drop (if nextIsLifetime ts then 2 else 1)

/-! ### Readers -/

/-- A question about what has not been read. -/
def next (question : List Tree → Bool) : Reader Bool := return question (← tokens)

/-- Nothing is left. -/
def atEnd : Reader Bool := next List.isEmpty

/-- A mark of punctuation. -/
def mark (s : String) : Reader Unit := do
  if ← next (nextIsMark s) then
    pass s.toList.length
    write (markTrees s.toList)
  else failAt (← cursor).here (.expected [ticked s.toList])

/-- A mark of punctuation, if it is next. -/
def mark? (s : String) : Reader Bool := do
  if ← next (nextIsMark s) then
    mark s
    return true
  else return false

/-- The next token, whatever it is. -/
def skip : Reader Unit := do
  match ← tokens with
  | t :: _ => pass 1; write [t]
  | [] => fail (.unexpected none)

/-- A keyword. -/
def word (s : String) : Reader Unit := do
  if ← next (nextIsWord s) then skip else fail (.expected [ticked s.toList])

/-- A keyword, if it is next. -/
def word? (s : String) : Reader Bool := do
  if ← next (nextIsWord s) then
    skip
    return true
  else return false

/-- An identifier that is no keyword. -/
def ident : Reader (Ident × Span) := do
  match ← tokens with
  | .ident i span :: _ =>
    if isKeyword i then fail (.keyword i.text)
    else
      skip
      return (i, span)
  | _ => failExpected "identifier"

/-- An identifier or a keyword. -/
def name : Reader (Ident × Span) := do
  match ← tokens with
  | .ident i span :: _ =>
    skip
    return (i, span)
  | _ => failExpected "ident"

/-- The name of a lifetime. -/
def lifetime : Reader Unit := do
  if ← next nextIsLifetime then
    skip
    skip
  else failExpected "lifetime"

/-- The name of a lifetime, if it is next. -/
def lifetime? : Reader Bool := do
  if ← next nextIsLifetime then
    lifetime
    return true
  else return false

/-- A literal. A minus sign becomes part of the number behind it. -/
def literal : Reader Unit := do
  match ← tokens with
  | .punct '-' _ sign :: .literal text span :: _ =>
    if Literal.isNumber text then
      pass 2
      write [.literal ('-' :: text) (sign.join span)]
    else failExpected "literal"
  | ts => if nextIsLiteral ts then skip else failExpected "literal"

/-- A group in any delimiters, its tokens unread; the delimiters are answered. -/
def anyGroup : Reader Delimiter := do
  match ← tokens with
  | .group d _ _ _ _ :: _ =>
    skip
    return d
  | _ => failExpected "delimiter"

/-- Whatever is left. -/
def skipRest : Reader Unit := do
  let ts ← tokens
  write ts
  pass ts.length

/-! ### Repetition -/

/-- A step again and again, `fuel` times at most, as long as it answers yes. -/
def repeatFor : Nat → Reader Bool → Reader Unit
  | 0, _ => return
  | fuel + 1, step => do
    if ← step then repeatFor fuel step

/-- A step again and again as long as it answers yes. Each time it takes a token. -/
def iterate (step : Reader Bool) : Reader Unit := do
  repeatFor ((← tokens).length + 1) step

/-- As many as there are of what `item` reads, with this mark behind each but the last. -/
def listUntil (done : List Tree → Bool) (separator : String) (item : Reader Unit) : Reader Unit :=
  iterate do
    if ← next done then return false
    item
    if ← next done then return false
    mark separator
    return true

/-- As many as there are of what `item` reads, a comma behind each but the last, to the end. -/
def commaList (item : Reader Unit) : Reader Unit := listUntil List.isEmpty "," item

/-- What `item` reads, again and again as long as this mark stands behind it. -/
def chainUntil (done : List Tree → Bool) (separator : String) (item : Reader Unit) : Reader Unit :=
  iterate do
    if ← next done then return false
    item
    mark? separator

/-- What stands behind a colon, if the colon is there. A colon with nothing behind it is not written. -/
def afterColon (content : Reader Unit) : Reader Unit := do
  if ← next (nextIsMark ":") then
    let (_, colon) ← capture (mark ":")
    let (_, read) ← capture content
    if !read.isEmpty then write (colon ++ read)

/-- What `item` reads, again and again to the end. -/
def untilEnd (item : Reader Unit) : Reader Unit :=
  iterate do
    if ← atEnd then return false
    item
    return true

/-! ### Wishes -/

/-- What may be next: how a message calls it, and whether it is there. -/
structure Wish where
  text : Text
  isNext : List Tree → Bool

namespace Wish

def mark (s : String) : Wish := ⟨ticked s.toList, nextIsMark s⟩

def word (s : String) : Wish := ⟨ticked s.toList, nextIsWord s⟩

def group (d : Delimiter) : Wish := ⟨d.plural.toList, nextIsGroup d⟩

def ident : Wish := ⟨"identifier".toList, nextIsIdent⟩

def lifetime : Wish := ⟨"lifetime".toList, nextIsLifetime⟩

def literal : Wish := ⟨"literal".toList, nextIsLiteral⟩

end Wish

/-- None of these is in place. What is there, but not where it is wanted, is not listed. -/
def failAmong {α : Type} (wishes : List Wish) : Reader α := do
  let c ← cursor
  match wishes.filter fun wish => !wish.isNext c.tokens with
  | [] =>
    match c.tokens with
    | t :: _ => failAt t.span (.unexpected none)
    | [] => failAt c.close .endOfInput
  | absent => fail (.expected (absent.map Wish.text))

/-! ### Laws -/

theorem takeMark_single (c : Char) (joint : Bool) (span : Span) (ts : List Tree) :
    takeMark [c] (.punct c joint span :: ts) = some ts := by
  simp only [takeMark, if_true]

theorem takeMark_single_eq_some {c : Char} {ts rest : List Tree} :
    takeMark [c] ts = some rest ↔ ∃ joint span, ts = .punct c joint span :: rest := by
  constructor
  · intro h
    cases ts with
    | nil => cases h
    | cons t ts =>
      cases t with
      | punct d joint span =>
        by_cases same : c = d
        · subst same
          rw [takeMark_single] at h
          exact ⟨joint, span, by rw [Option.some.inj h]⟩
        · simp only [takeMark, if_neg same, reduceCtorEq] at h
      | ident i span => cases h
      | literal text span => cases h
      | group d inner span opening closing => cases h
  · rintro ⟨joint, span, rfl⟩
    exact takeMark_single c joint span rest

theorem takeMark_markTrees {mark : Text} (h : mark ≠ []) (ts : List Tree) :
    takeMark mark (markTrees mark ++ ts) = some ts := by
  induction mark with
  | nil => exact absurd rfl h
  | cons c mark ih =>
    cases mark with
    | nil => exact takeMark_single c false .whole ts
    | cons d mark => simp [markTrees, takeMark, ih (List.cons_ne_nil d mark)]

theorem nextIsMark_single {s : String} {c : Char} (h : s.toList = [c]) {ts : List Tree} :
    nextIsMark s ts = true ↔ ∃ joint span rest, ts = .punct c joint span :: rest := by
  rw [nextIsMark, h, Option.isSome_iff_exists]
  constructor
  · rintro ⟨rest, taken⟩
    obtain ⟨joint, span, e⟩ := takeMark_single_eq_some.1 taken
    exact ⟨joint, span, rest, e⟩
  · rintro ⟨joint, span, rest, rfl⟩
    exact ⟨rest, takeMark_single c joint span rest⟩

/-- Behind a mark of punctuation. -/
def Cursor.behindMark (c : Cursor) (s : String) : Cursor :=
  { c with tokens := c.tokens.drop s.toList.length, written := c.written ++ markTrees s.toList }

theorem mark_of_next {s : String} {c : Cursor} (h : nextIsMark s c.tokens = true) :
    (mark s).run c = .ok ((), c.behindMark s) := by
  show (if nextIsMark s c.tokens = true then _ else _ : Reader Unit).run c = _
  rw [if_pos h]
  rfl

theorem mark_of_not_next {s : String} {c : Cursor} (h : ¬ nextIsMark s c.tokens = true) :
    (mark s).run c = .error ⟨c.here, false, .expected [ticked s.toList]⟩ := by
  show (if nextIsMark s c.tokens = true then _ else _ : Reader Unit).run c = _
  rw [if_neg h]
  rfl

theorem mark_eq_ok {s : String} {c after : Cursor} :
    (mark s).run c = .ok ((), after) ↔ nextIsMark s c.tokens = true ∧ after = c.behindMark s := by
  by_cases h : nextIsMark s c.tokens = true
  · rw [mark_of_next h]
    exact ⟨fun e => by cases e; exact ⟨h, rfl⟩, fun e => by rw [e.2]⟩
  · rw [mark_of_not_next h]
    exact ⟨nofun, fun e => absurd e.1 h⟩

theorem mark?_of_next {s : String} {c : Cursor} (h : nextIsMark s c.tokens = true) :
    (mark? s).run c = .ok (true, c.behindMark s) := by
  show (if nextIsMark s c.tokens = true then _ else _ : Reader Bool).run c = _
  rw [if_pos h, Reading.run_bind, mark_of_next h]
  rfl

theorem mark?_of_not_next {s : String} {c : Cursor} (h : ¬ nextIsMark s c.tokens = true) :
    (mark? s).run c = .ok (false, c) := by
  show (if nextIsMark s c.tokens = true then _ else _ : Reader Bool).run c = _
  rw [if_neg h]
  rfl

/-- Whether the mark is there or not, the reading goes on. -/
theorem mark?_ok (s : String) (c : Cursor) : ∃ found after, (mark? s).run c = .ok (found, after) := by
  by_cases h : nextIsMark s c.tokens = true
  · exact ⟨true, _, mark?_of_next h⟩
  · exact ⟨false, _, mark?_of_not_next h⟩

theorem name_eq_ok {c after : Cursor} {i : Ident} {span : Span} :
    name.run c = .ok ((i, span), after) ↔
      ∃ rest, c.tokens = .ident i span :: rest ∧
        after = { c with tokens := rest, written := c.written ++ [.ident i span] } := by
  obtain ⟨ts, close, leftover, written⟩ := c
  cases ts with
  | nil => exact ⟨nofun, fun ⟨_, h, _⟩ => nomatch h⟩
  | cons t ts =>
    cases t with
    | ident j at_ =>
      constructor
      · intro h
        cases h
        exact ⟨ts, rfl, rfl⟩
      · rintro ⟨rest, h, rfl⟩
        cases h
        rfl
    | punct d joint at_ => exact ⟨nofun, fun ⟨_, h, _⟩ => nomatch h⟩
    | literal text at_ => exact ⟨nofun, fun ⟨_, h, _⟩ => nomatch h⟩
    | group d inner at_ opening closing => exact ⟨nofun, fun ⟨_, h, _⟩ => nomatch h⟩

end Dimensional.Derive
