import Dimensional.Axis
import Dimensional.Fault
import Dimensional.Source.Token

/-!
# Why a declaration is not understood

A report points at a stretch of source text and names its cause. `Cause.message` holds the wording;
`greatestExponent` is the limit that one of the causes speaks of. Reading tokens ends in a report or not at
all; a failure is a report, a text without tokens, or arithmetic that stopped.
-/

namespace Dimensional.Derive

open Source

/-- The greatest exponent that may be written. -/
def greatestExponent : Nat := 64

/-- What cannot follow the type of a cast. -/
inductive Suffix where
  | await
  | method
  | field
  | question
  | index
  | call
  deriving DecidableEq, Repr

/-- What a message calls it. -/
def Suffix.text : Suffix → Text
  | await => ticked ".await".toList
  | method => "a method call".toList
  | field => "a field access".toList
  | question => ticked "?".toList
  | index => "indexing".toList
  | call => "a function call".toList

/-- What is wrong at a place of the source. -/
inductive Cause where
  /-- None of these is there. -/
  | expected (alternatives : List Text)
  /-- A keyword is there in place of an identifier. -/
  | keyword (word : Text)
  /-- More tokens than are wanted, before a closing delimiter or before the end. -/
  | unexpected (closing : Option Delimiter)
  /-- The source ends where something is wanted that has no name. -/
  | endOfInput
  | integerExponent
  | exponentTooLarge
  | numberTooLarge
  | numberTooSmall
  /-- An index has a sign. -/
  | invalidDigit
  | unknownKey (key : Text)
  | duplicateKey (key : Text)
  /-- The type has parameters. -/
  | generics
  | secondAttribute
  /-- The attribute has no arguments. -/
  | noArguments
  /-- The attribute has a value in place of arguments. -/
  | noParentheses
  /-- A path ends in its separator. -/
  | openPath
  /-- An attribute is the value of an attribute. -/
  | nestedAttribute
  /-- Only lifetimes are given to an object type. -/
  | noTraitInObject
  /-- No trait is given to an anonymous type. -/
  | noTrait
  /-- Lifetimes are captured where nothing can be. -/
  | capture
  /-- A bound is constant, under conditions or without, where no bound can be. -/
  | constantBound (conditional : Bool)
  /-- A relaxed bound has lifetimes of its own. -/
  | relaxedBinder
  /-- Conditions have parameters of their own. -/
  | conditionParameters
  | castBefore (suffix : Suffix)
  | chainedComparison
  /-- An attribute stands before a range without a start. -/
  | attributeOnRange
  /-- A loop with a label is the value of a jump with that label. -/
  | parenthesesRequired
  /-- A statement ends without its semicolon. -/
  | openStatement
  /-- A range without both its ends is an element of a slice. -/
  | openRange
  /-- A function has a receiver that is not its first argument, or has a second one. -/
  | receiver (second : Bool)
  | negativeInherent
  deriving DecidableEq, Repr

/-- Something is wrong at a place; `atEnd` when nothing is there that could be wrong. -/
structure Report where
  span : Span
  atEnd : Bool
  cause : Cause
  deriving DecidableEq

/-- Why a declaration is refused. -/
inductive Failure where
  /-- The text has no tokens. -/
  | unreadable
  /-- The tokens are not what is wanted. -/
  | report (span : Span) (atEnd : Bool) (cause : Cause)
  /-- The arithmetic on exponents stopped. -/
  | fault (fault : Fault)
  deriving DecidableEq

/-- A report as the reason of a refusal. -/
def Report.failure (r : Report) : Failure := .report r.span r.atEnd r.cause

/-- The alternatives of a wish, as a message lists them. -/
def alternativesText : List Text → Text
  | [a] => "expected ".toList ++ a
  | [a, b] => "expected ".toList ++ a ++ " or ".toList ++ b
  | as => "expected one of: ".toList ++ List.intercalate ", ".toList as

/-- The message of a cause. -/
def Cause.message : Cause → Text
  | expected alternatives => alternativesText alternatives
  | keyword word => "expected identifier, found keyword ".toList ++ ticked word
  | unexpected none => "unexpected token".toList
  | unexpected (some d) => "unexpected token, expected ".toList ++ ticked [d.closing]
  | endOfInput => "unexpected end of input".toList
  | integerExponent => "expected an integer exponent".toList
  | exponentTooLarge =>
    "exponent magnitude must not exceed ".toList ++ Decimal.ofNat greatestExponent
  | numberTooLarge => "number too large to fit in target type".toList
  | numberTooSmall => "number too small to fit in target type".toList
  | invalidDigit => "invalid digit found in string".toList
  | unknownKey key =>
    "unknown attribute ".toList ++ ticked key ++ ", expected one of ".toList ++
      List.intercalate ", ".toList
        (["time", "mass", "length", "angle", "crate"].map fun known => ticked known.toList)
  | duplicateKey key => "duplicate attribute ".toList ++ ticked key
  | generics =>
    ticked "Dimension".toList ++
      " can only be derived for types without generic parameters".toList
  | secondAttribute => "only one #[dimension(...)] attribute is allowed".toList
  | noArguments => "expected attribute arguments in parentheses: #[dimension(...)]".toList
  | noParentheses => "expected parentheses: #[dimension(...)]".toList
  | openPath => "expected path segment after ".toList ++ ticked "::".toList
  | nestedAttribute => "unexpected attribute inside of attribute".toList
  | noTraitInObject => "at least one trait is required for an object type".toList
  | noTrait => "at least one trait must be specified".toList
  | capture =>
    ticked "use<...>".toList ++ " precise capturing syntax is not allowed here".toList
  | constantBound conditional =>
    ticked (if conditional then "[const]" else "const").toList ++ " is not allowed here".toList
  | relaxedBinder =>
    ticked "for<...>".toList ++ " binder not allowed with ".toList ++ ticked "?".toList ++
      " trait polarity modifier".toList
  | conditionParameters =>
    "generic parameters on ".toList ++ ticked "where".toList ++
      " clauses are reserved for future use".toList
  | castBefore suffix => "casts cannot be followed by ".toList ++ suffix.text
  | chainedComparison => "comparison operators cannot be chained".toList
  | attributeOnRange =>
    "attributes are not allowed on range expressions starting with ".toList ++ ticked "..".toList
  | parenthesesRequired => "parentheses required".toList
  | openStatement => "unexpected token, expected ".toList ++ ticked ";".toList
  | openRange => "range pattern is not allowed unparenthesized inside slice pattern".toList
  | receiver second =>
    "unexpected ".toList ++ (if second then "second ".toList else []) ++ "method receiver".toList
  | negativeInherent => "inherent impls cannot be negative".toList

/-- The message of a report. -/
def reportText (atEnd : Bool) (cause : Cause) : Text :=
  (if atEnd then "unexpected end of input, ".toList else []) ++ cause.message

end Dimensional.Derive
