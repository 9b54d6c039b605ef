import Dimensional.Exponents
import Dimensional.Text.Quoted

/-!
# What can be wrong with a JSON text

A text can break the grammar, end too early, or hold something other than what was asked for. The
causes are constructors; `Error.category` and `Error.message` say how each is reported.
-/

namespace Dimensional.Json

/-- The three kinds of trouble. -/
inductive Category where
  | malformed
  | content
  | ended
  deriving DecidableEq, Repr

/-- The word a report uses for the category. -/
def Category.name : Category → String
  | malformed => "Syntax"
  | content => "Data"
  | ended => "Eof"

/-- What was being read when the text ended. -/
inductive Place where
  | value
  | object
  | list
  | string
  deriving DecidableEq, Repr

/-- What was found in place of what was asked for. -/
inductive Found where
  | boolean (b : Bool)
  | integer (n : Int)
  /-- A number with decimals or an exponent, or too long for an integer; its text as it is printed. -/
  | real (text : Text)
  | string (s : Text)
  | null
  | sequence
  | map
  deriving DecidableEq, Repr

/-- The members of a tagged quantity. -/
inductive Field where
  | value
  | exponents
  deriving DecidableEq, Repr

/-- The key of a member. -/
def Field.key : Field → Text
  | value => "value".toList
  | exponents => "exponents".toList

/-- The member with this key. -/
def Field.ofKey? (key : Text) : Option Field :=
  if key = Field.value.key then some value
  else if key = Field.exponents.key then some exponents
  else none

/-- What was asked for. -/
inductive Wanted where
  /-- A scalar of the type with this name. -/
  | scalar (name : String)
  /-- The eight exponents. -/
  | exponents
  /-- A quantity with its exponents. -/
  | quantity
  deriving DecidableEq, Repr

inductive Error where
  /-- The text ended too early. -/
  | ended (place : Place)
  | expectedValue
  | expectedWord
  | expectedColon
  | expectedCommaOrBrace
  | expectedCommaOrBracket
  | keyMustBeString
  | trailingComma
  | trailingCharacters
  | invalidNumber
  | numberOutOfRange
  | invalidEscape
  | controlCharacter
  | loneSurrogate
  | endOfHexEscape
  /-- A value of another type. -/
  | wrongType (found : Found) (wanted : Wanted)
  /-- An integer outside the wanted type. -/
  | outOfRange (n : Int) (wanted : Wanted)
  /-- A list that is too short for the wanted one. -/
  | wrongLength (length : Nat) (wanted : Wanted)
  | unknownField (key : Text)
  | duplicateField (field : Field)
  | missingField (field : Field)
  /-- The exponents are those of another dimension. -/
  | dimension (error : Exponents.Error)
  deriving DecidableEq

namespace Error

def category : Error → Category
  | ended _ => .ended
  | expectedValue | expectedWord | expectedColon | expectedCommaOrBrace | expectedCommaOrBracket
  | keyMustBeString | trailingComma | trailingCharacters | invalidNumber | numberOutOfRange
  | invalidEscape | controlCharacter | loneSurrogate | endOfHexEscape => .malformed
  | wrongType _ _ | outOfRange _ _ | wrongLength _ _ | unknownField _ | duplicateField _
  | missingField _ | dimension _ => .content

end Error

/-- Name of a place in a report. -/
def Place.text : Place → Text
  | value => "a value".toList
  | object => "an object".toList
  | list => "a list".toList
  | string => "a string".toList

/-- How a find is described. -/
def Found.text : Found → Text
  | boolean b => "boolean ".toList ++ ticked (if b then "true" else "false").toList
  | integer n => "integer ".toList ++ ticked (Decimal.ofInt n)
  | real text => "floating point ".toList ++ ticked text
  | string s => "string ".toList ++ Quoted.encode s
  | null => "null".toList
  | sequence => "sequence".toList
  | map => "map".toList

/-- How a wish is described. -/
def Wanted.text : Wanted → Text
  | scalar name => name.toList
  | exponents => "an array of length 8".toList
  | quantity => "struct Quantity with value and exponents fields".toList

/-- The message of an error. -/
def Error.message : Error → Text
  | ended place => "EOF while parsing ".toList ++ place.text
  | expectedValue => "expected value".toList
  | expectedWord => "expected ident".toList
  | expectedColon => "expected ".toList ++ ticked [':']
  | expectedCommaOrBrace => "expected ".toList ++ ticked [','] ++ " or ".toList ++ ticked ['\x7d']
  | expectedCommaOrBracket => "expected ".toList ++ ticked [','] ++ " or ".toList ++ ticked [']']
  | keyMustBeString => "key must be a string".toList
  | trailingComma => "trailing comma".toList
  | trailingCharacters => "trailing characters".toList
  | invalidNumber => "invalid number".toList
  | numberOutOfRange => "number out of range".toList
  | invalidEscape => "invalid escape".toList
  | controlCharacter => "control character (\\u0000-\\u001F) found while parsing a string".toList
  | loneSurrogate => "lone leading surrogate in hex escape".toList
  | endOfHexEscape => "unexpected end of hex escape".toList
  | wrongType found wanted =>
    "invalid type: ".toList ++ found.text ++ ", expected ".toList ++ wanted.text
  | outOfRange n wanted =>
    "invalid value: ".toList ++ (Found.integer n).text ++ ", expected ".toList ++ wanted.text
  | wrongLength length wanted =>
    "invalid length ".toList ++ Decimal.ofNat length ++ ", expected ".toList ++ wanted.text
  | unknownField key =>
    "unknown field ".toList ++ ticked key ++ ", expected ".toList ++ ticked Field.value.key ++
      " or ".toList ++ ticked Field.exponents.key
  | duplicateField field => "duplicate field ".toList ++ ticked field.key
  | missingField field => "missing field ".toList ++ ticked field.key
  | dimension error => error.message

theorem Field.ofKey?_key (field : Field) : Field.ofKey? field.key = some field := by
  cases field <;> decide

theorem Field.ofKey?_eq_some {key : Text} {field : Field} : ofKey? key = some field ↔ key = field.key := by
  constructor
  · intro h
    unfold ofKey? at h
    split at h
    · next hvalue =>
      cases h
      exact hvalue
    · split at h
      · next hexponents =>
        cases h
        exact hexponents
      · cases h
  · rintro rfl
    exact ofKey?_key field

end Dimensional.Json
