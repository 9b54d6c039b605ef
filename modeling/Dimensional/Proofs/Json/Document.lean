import Dimensional.Json.Reader

/-!
# JSON documents as they are written

The grammar of JSON as a tree that keeps everything a text says: blanks, the digits of every number, the
escapes of every string, the members of every object in their order, repeats included. `Document.text`
writes the tree down; a text is valid JSON when it is the text of a document.

* `Spelling.decode` — the characters that a written string stands for, if it stands for any;
* `Value.entries` — an object, as the list of its keys and contents.
-/

namespace Dimensional.Json

/-- White space between two parts of a document. -/
structure Blanks where
  text : Text
  blank : ∀ c ∈ text, isBlank c = true

/-- No white space. -/
def Blanks.none : Blanks := ⟨[], List.forall_mem_nil _⟩

/-- Digits, one at least. -/
structure Digits where
  text : Text
  ne_nil : text ≠ []
  digit : ∀ c ∈ text, c.isDigit = true

/-! ### Numbers -/

/-- The power of ten behind a number: its mark in either case, a sign if one is written, its digits. -/
structure TenPower where
  capital : Bool
  negative? : Option Bool
  digits : Digits

namespace TenPower

def signText (p : TenPower) : Text :=
  match p.negative? with
  | none => []
  | some false => ['+']
  | some true => ['-']

def text (p : TenPower) : Text := (if p.capital then 'E' else 'e') :: (p.signText ++ p.digits.text)

end TenPower

/-- A written number. A zero in front stands alone. -/
structure Number where
  negative : Bool
  integral : Digits
  no_leading_zero : ∀ c more, integral.text ≠ '0' :: c :: more
  decimals? : Option Digits
  power? : Option TenPower

namespace Number

def decimalsText (n : Number) : Text :=
  match n.decimals? with
  | none => []
  | some digits => '.' :: digits.text

def powerText (n : Number) : Text :=
  match n.power? with
  | none => []
  | some p => p.text

def text (n : Number) : Text :=
  (if n.negative then ['-'] else []) ++ (n.integral.text ++ (n.decimalsText ++ n.powerText))

end Number

/-! ### Strings -/

/-- A character that stands for itself in a string. -/
def IsPlain (c : Char) : Prop := c ≠ '\x22' ∧ c ≠ '\\' ∧ ¬ c.toNat < 0x20

instance (c : Char) : Decidable (IsPlain c) := inferInstanceAs (Decidable (_ ∧ _))

/-- The escapes of a single letter. -/
inductive Escape where
  | quote
  | backslash
  | slash
  | backspace
  | formFeed
  | newline
  | carriageReturn
  | tab

/-- What is written behind the backslash. -/
def Escape.letter : Escape → Char
  | quote => '\x22'
  | backslash => '\\'
  | slash => '/'
  | backspace => 'b'
  | formFeed => 'f'
  | newline => 'n'
  | carriageReturn => 'r'
  | tab => 't'

/-- The character that is meant. -/
def Escape.char : Escape → Char
  | quote => '\x22'
  | backslash => '\\'
  | slash => '/'
  | backspace => Char.ofNat 8
  | formFeed => Char.ofNat 12
  | newline => '\n'
  | carriageReturn => '\r'
  | tab => '\t'

/-- A hexadecimal digit as it is written, and its value. -/
structure HexDigit where
  char : Char
  value : Nat
  reads : Quoted.hexDigit? char = some value

/-- A numeric escape: four hexadecimal digits. -/
structure CodeUnit where
  first : HexDigit
  second : HexDigit
  third : HexDigit
  fourth : HexDigit

namespace CodeUnit

def digits (u : CodeUnit) : List HexDigit := [u.first, u.second, u.third, u.fourth]

def text (u : CodeUnit) : Text := u.digits.map HexDigit.char

def value (u : CodeUnit) : Nat := (u.digits.map HexDigit.value).foldl (fun n d => 16 * n + d) 0

end CodeUnit

/-- A piece of a written string. -/
inductive Piece where
  | plain (c : Char) (h : IsPlain c)
  | escape (e : Escape)
  | unit (u : CodeUnit)

def Piece.text : Piece → Text
  | plain c _ => [c]
  | escape e => ['\\', e.letter]
  | unit u => '\\' :: 'u' :: u.text

/-- What is written between the quotes of a string. -/
abbrev Spelling := List Piece

namespace Spelling

def text (s : Spelling) : Text := s.flatMap Piece.text

/-- The characters of a string. Half of a surrogate pair stands for no character. -/
def decode : Spelling → Except Error Text
  | [] => .ok []
  | .plain c _ :: s => (decode s).map (c :: ·)
  | .escape e :: s => (decode s).map (e.char :: ·)
  | .unit u :: s =>
    if Quoted.isTrailing u.value then .error .loneSurrogate
    else if Quoted.isLeading u.value then
      match s with
      | .unit w :: s =>
        if Quoted.isTrailing w.value then
          (decode s).map (Char.ofNat (0x10000 + (u.value - 0xd800) * 0x400 + (w.value - 0xdc00)) :: ·)
        else .error .loneSurrogate
      | _ => .error .endOfHexEscape
    else (decode s).map (Char.ofNat u.value :: ·)

/-- A string with its quotes. -/
def quoted (s : Spelling) : Text := '\x22' :: (s.text ++ ['\x22'])

end Spelling

/-! ### Values -/

/-- Something between blanks. -/
structure Spaced (α : Type) where
  before : Blanks
  body : α
  after : Blanks

/-- Something without blanks around it. -/
def Spaced.tight {α : Type} (a : α) : Spaced α := ⟨.none, a, .none⟩

/-- A written value. -/
inductive Value where
  | null
  | boolean (b : Bool)
  | number (n : Number)
  | string (s : Spelling)
  | array (lead : Blanks) (items : List (Spaced Value))
  | object (lead : Blanks) (members : List (Spaced Spelling × Spaced Value))

/-- A key between blanks. -/
def keyText (key : Spaced Spelling) : Text := key.before.text ++ (key.body.quoted ++ key.after.text)

mutual

/-- The text of a value. -/
def Value.text : Value → Text
  | .null => ['n', 'u', 'l', 'l']
  | .boolean true => ['t', 'r', 'u', 'e']
  | .boolean false => ['f', 'a', 'l', 's', 'e']
  | .number n => n.text
  | .string s => s.quoted
  | .array lead items => '[' :: (lead.text ++ ([','].intercalate (Value.itemTexts items) ++ [']']))
  | .object lead members =>
    openBrace :: (lead.text ++ ([','].intercalate (Value.memberTexts members) ++ [closeBrace]))

/-- The text of a value between blanks. -/
def Value.spacedText : Spaced Value → Text
  | ⟨before, body, after⟩ => before.text ++ (body.text ++ after.text)

def Value.itemTexts : List (Spaced Value) → List Text
  | [] => []
  | item :: items => Value.spacedText item :: Value.itemTexts items

def Value.memberText : Spaced Spelling × Spaced Value → Text
  | (key, content) => keyText key ++ ':' :: Value.spacedText content

def Value.memberTexts : List (Spaced Spelling × Spaced Value) → List Text
  | [] => []
  | m :: members => Value.memberText m :: Value.memberTexts members

end

theorem Value.spacedText_tight (v : Value) : spacedText (.tight v) = v.text := List.append_nil _

/-- A value and the blanks around it. -/
abbrev Document := Spaced Value

def Document.text (doc : Document) : Text := Value.spacedText doc

/-- A key of an object and its content. -/
structure Entry where
  key : Spelling
  content : Value

/-- The entries of an object, in the order in which they are written. -/
def Value.entries : Value → List Entry
  | .object _ members => members.map fun m => ⟨m.1.body, m.2.body⟩
  | _ => []

end Dimensional.Json
