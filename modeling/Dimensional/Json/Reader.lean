import Dimensional.Json.Numeral
import Dimensional.Json.Quoted
import Dimensional.Scalar

/-!
# Reading JSON for a wanted type

A reader takes what it wants from the head of a text and gives back the rest. Where the head holds a
value of another type, `wrongType` names it, reading no further than it has to. How decimals become
floating-point values is a parameter of all readers.

* `skipBlanks_of_not_blank` — only blanks are skipped;
* `readEnd_eq_ok` — nothing but blanks may follow the value.
-/

namespace Dimensional.Json

/-- White space of JSON. -/
def isBlank (c : Char) : Bool := c == ' ' || c == '\t' || c == '\n' || c == '\r'

/-- The text from its first character that is not blank. -/
def skipBlanks (cs : Text) : Text := cs.dropWhile isBlank

/-- Braces, written by number. -/
def openBrace : Char := '\x7b'

def closeBrace : Char := '\x7d'

/-- The rest of a word, after its first letter. -/
def readWord : Text → Text → Except Error Unit
  | [], _ => .ok ()
  | _ :: _, [] => .error (.ended .value)
  | w :: word, c :: rest => if c = w then readWord word rest else .error .expectedWord

/-- What a numeral is when a numeral was not wanted. -/
def Numeral.found (reals : RealReader) (n : Numeral) : Except Error Found :=
  match n.integer? with
  | some z => .ok (.integer z)
  | none =>
    match n.real? reals .double with
    | some a => .ok (.real (realText a))
    | none => .error .numberOutOfRange

section Reals

variable (reals : RealReader)

/-- What stands at the head of a text; a sequence or a map is not looked into. -/
def find (cs : Text) : Except Error Found :=
  match cs with
  | [] => .error (.ended .value)
  | 'n' :: rest => (readWord "ull".toList rest).map fun _ => .null
  | 't' :: rest => (readWord "rue".toList rest).map fun _ => .boolean true
  | 'f' :: rest => (readWord "alse".toList rest).map fun _ => .boolean false
  | '[' :: _ => .ok .sequence
  | c :: rest =>
    if c = openBrace then .ok .map
    else if c = '\x22' then (Quoted.read rest).map fun (s, _) => .string s
    else if c = '-' ∨ c.isDigit then (Numeral.read cs).bind fun (n, _) => n.found reals
    else .error .expectedValue

/-- The error for a text that holds something else than what was wanted. -/
def wrongType (wanted : Wanted) (cs : Text) : Error :=
  match find reals cs with
  | .ok found => .wrongType found wanted
  | .error error => error

/-! ### Numbers -/

/-- The numeral at the head of a text, blanks before it skipped. -/
def readNumeral (wanted : Wanted) (cs : Text) : Except Error (Numeral × Text) :=
  match skipBlanks cs with
  | [] => .error (.ended .value)
  | c :: rest =>
    if c = '-' ∨ c.isDigit then Numeral.read (c :: rest) else .error (wrongType reals wanted (c :: rest))

/-- What was found, if it is an integer that the kind holds. -/
def Found.toFixed (k : IntKind) : Found → Except Error (Fixed k)
  | .integer n =>
    match Fixed.ofInt? k n with
    | some a => .ok a
    | none => .error (.outOfRange n (.scalar k.name))
  | found => .error (.wrongType found (.scalar k.name))

/-- An integer of a kind of at most 64 bits. -/
def readShortInteger (k : IntKind) (cs : Text) : Except Error (Fixed k × Text) := do
  let (numeral, rest) ← readNumeral reals (.scalar k.name) cs
  let found ← numeral.found reals
  return (← found.toFixed k, rest)

/-- An integer of 128 bits: a sign and digits, and nothing is asked about what follows. -/
def readLongInteger (k : IntKind) (cs : Text) : Except Error (Fixed k × Text) :=
  match skipBlanks cs with
  | [] => .error (.ended .value)
  | c :: rest =>
    if c = '-' ∧ !k.signed then .error .numberOutOfRange
    else
      let (negative, rest) := Numeral.sign (c :: rest)
      let (digits, rest) := rest.span Char.isDigit
      match digits with
      | [] | '0' :: _ :: _ => .error .invalidNumber
      | _ =>
        let size : Int := Nat.ofDigitChars 10 digits 0
        match Fixed.ofInt? k (if negative then -size else size) with
        | some a => .ok (a, rest)
        | none => .error .numberOutOfRange

def readInteger (k : IntKind) (cs : Text) : Except Error (Fixed k × Text) :=
  if k.width = .w128 then readLongInteger k cs else readShortInteger reals k cs

/-- A floating-point value. A number beyond the finite values is refused. -/
def readReal (p : Precision) (cs : Text) : Except Error (Binary p × Text) := do
  let (numeral, rest) ← readNumeral reals (.scalar p.name) cs
  match numeral.real? reals p with
  | some a => return (a, rest)
  | none => .error .numberOutOfRange

/-- A scalar. -/
def readScalar : (k : ScalarKind) → Text → Except Error (Scalar k × Text)
  | .int k, cs => readInteger reals k cs
  | .float p, cs => readReal reals p cs

end Reals

/-! ### Lists and members -/

/-- Is there an element left in a list? The text then starts with it. -/
def readNext (first : Bool) (cs : Text) : Except Error (Option Text) :=
  match skipBlanks cs with
  | [] => .error (.ended .list)
  | ']' :: _ => .ok none
  | c :: rest =>
    if first then .ok (some (c :: rest))
    else if c = ',' then
      match skipBlanks rest with
      | [] => .error (.ended .value)
      | ']' :: _ => .error .trailingComma
      | rest => .ok (some rest)
    else .error .expectedCommaOrBracket

/-- The closing bracket of a list whose elements have all been read. -/
def readClose (cs : Text) : Except Error Text :=
  match skipBlanks cs with
  | [] => .error (.ended .list)
  | ']' :: rest => .ok rest
  | ',' :: rest =>
    match skipBlanks rest with
    | ']' :: _ => .error .trailingComma
    | _ => .error .trailingCharacters
  | _ => .error .trailingCharacters

/-- Is there a member left in an object? Its key is then read too. -/
def readKey (first : Bool) (cs : Text) : Except Error (Option Text × Text) :=
  match skipBlanks cs with
  | [] => .error (.ended .object)
  | c :: rest =>
    if c = closeBrace then .ok (none, rest)
    else if first then
      if c = '\x22' then key rest else .error .keyMustBeString
    else if c = ',' then
      match skipBlanks rest with
      | [] => .error (.ended .value)
      | c :: rest =>
        if c = '\x22' then key rest
        else if c = closeBrace then .error .trailingComma
        else .error .keyMustBeString
    else .error .expectedCommaOrBrace
where
  key (rest : Text) : Except Error (Option Text × Text) :=
    (Quoted.read rest).map fun (s, rest) => (some s, rest)

/-- The colon between a key and its value. -/
def readColon (cs : Text) : Except Error Text :=
  match skipBlanks cs with
  | [] => .error (.ended .object)
  | ':' :: rest => .ok rest
  | _ => .error .expectedColon

/-- Nothing but blanks may follow a complete value. -/
def readEnd (cs : Text) : Except Error Unit :=
  if (skipBlanks cs).isEmpty then .ok () else .error .trailingCharacters

/-! ### Laws -/

theorem skipBlanks_of_not_blank {c : Char} (h : isBlank c = false) (cs : Text) :
    skipBlanks (c :: cs) = c :: cs := by
  rw [skipBlanks, List.dropWhile_cons, h]
  rfl

theorem skipBlanks_eq_nil {cs : Text} : skipBlanks cs = [] ↔ ∀ c ∈ cs, isBlank c = true := by
  induction cs with
  | nil => exact ⟨fun _ _ h => (nomatch h), fun _ => rfl⟩
  | cons c cs ih =>
    cases blank : isBlank c with
    | false =>
      rw [skipBlanks_of_not_blank blank]
      exact ⟨nofun, fun h => absurd (h c List.mem_cons_self) (by rw [blank]; decide)⟩
    | true =>
      have same : skipBlanks (c :: cs) = skipBlanks cs := by
        rw [skipBlanks, List.dropWhile_cons, blank]
        rfl
      rw [same, ih, List.forall_mem_cons]
      exact ⟨fun h => ⟨blank, h⟩, fun h => h.2⟩

theorem toFixed_eq_ok {k : IntKind} {found : Found} {a : Fixed k} :
    found.toFixed k = .ok a ↔ found = .integer a.toInt := by
  cases found with
  | integer n =>
    simp only [Found.toFixed]
    cases value : Fixed.ofInt? k n with
    | some b =>
      have same : b.toInt = n := Fixed.ofInt?_eq_some.1 value
      constructor
      · intro h
        cases h
        rw [same]
      · intro h
        cases h
        exact congrArg Except.ok (Fixed.ext same)
    | none =>
      constructor
      · exact nofun
      · intro h
        cases h
        rw [Fixed.ofInt?_toInt] at value
        cases value
  | _ => exact ⟨nofun, nofun⟩

/-- The first element of a list. -/
theorem readNext_of_first {cs more : Text} {c : Char} (hskip : skipBlanks cs = c :: more) (h : c ≠ ']') :
    readNext true cs = .ok (some (c :: more)) := by
  rw [readNext, hskip]
  split
  · next heq => cases heq
  · next heq => exact absurd (List.cons.inj heq).1 h
  · next heq =>
    rw [heq]
    rfl

/-- An element behind a comma. -/
theorem readNext_of_comma {cs rest more : Text} {c : Char} (hcomma : skipBlanks cs = ',' :: rest)
    (hskip : skipBlanks rest = c :: more) (h : c ≠ ']') : readNext false cs = .ok (some (c :: more)) := by
  rw [readNext, hcomma]
  show (match skipBlanks rest with | [] => _ | ']' :: _ => _ | rest => _) = _
  rw [hskip]
  split
  · next heq => cases heq
  · next heq => exact absurd (List.cons.inj heq).1 h
  · rfl

theorem readNext_of_bracket {cs rest : Text} (first : Bool) (hskip : skipBlanks cs = ']' :: rest) :
    readNext first cs = .ok none := by
  rw [readNext, hskip]
  rfl

/-- An element where the list should end. -/
theorem readClose_of_comma {cs rest more : Text} {c : Char} (hcomma : skipBlanks cs = ',' :: rest)
    (hskip : skipBlanks rest = c :: more) (h : c ≠ ']') : readClose cs = .error .trailingCharacters := by
  rw [readClose, hcomma]
  show (match skipBlanks rest with | ']' :: _ => _ | _ => _) = _
  rw [hskip]
  split
  · next heq => exact absurd (List.cons.inj heq).1 h
  · rfl

/-- The key of the first member. -/
theorem readKey_of_first {cs rest : Text} (hskip : skipBlanks cs = '\x22' :: rest) :
    readKey true cs = readKey.key rest := by
  rw [readKey, hskip]
  rfl

/-- A key behind a comma. -/
theorem readKey_of_comma {cs rest more : Text} (hcomma : skipBlanks cs = ',' :: rest)
    (hskip : skipBlanks rest = '\x22' :: more) : readKey false cs = readKey.key more := by
  rw [readKey, hcomma]
  show (match skipBlanks rest with | [] => _ | c :: rest => _) = _
  rw [hskip]
  rfl

theorem readKey_of_brace {cs rest : Text} (first : Bool) (hskip : skipBlanks cs = closeBrace :: rest) :
    readKey first cs = .ok (none, rest) := by
  rw [readKey, hskip]
  rfl

theorem readEnd_eq_ok {cs : Text} : readEnd cs = .ok () ↔ ∀ c ∈ cs, isBlank c = true := by
  rw [← skipBlanks_eq_nil, readEnd, ← List.isEmpty_iff]
  split <;> simp_all

end Dimensional.Json
