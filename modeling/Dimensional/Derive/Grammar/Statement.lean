import Dimensional.Derive.Grammar.Pattern

/-!
# Statements

Declarations of names, items, calls of macros in braces, and expressions. An expression needs a semicolon
behind it unless it is the last statement or ends in a block.
-/

namespace Dimensional.Derive.Grammar

open Source

/-- An item is next. Words that are kept only for some places decide together with what follows. -/
def nextIsItem (ts : List Tree) : Bool :=
  let second := behind ts
  let third := behind second
  nextIsWordIn ["pub", "extern", "use", "fn", "mod", "type", "struct", "enum", "trait", "impl",
      "macro"] ts ||
    (nextIsWord "crate" ts && !nextIsMark "::" second) ||
    (nextIsWord "static" ts && (nextIsWord "mut" second || nextIsIdent second)) ||
    (nextIsWord "const" ts &&
      !(nextIsGroup .brace second || nextIsWordIn ["static", "move"] second || nextIsMark "|" second ||
        (nextIsWord "async" second && !nextIsWordIn ["unsafe", "extern", "fn"] third))) ||
    (nextIsWord "unsafe" ts && !nextIsGroup .brace second) ||
    (nextIsWord "async" ts && nextIsWordIn ["unsafe", "extern", "fn"] second) ||
    (nextIsWord "union" ts && nextIsIdent second) ||
    (nextIsWord "auto" ts && nextIsWord "trait" second) ||
    (nextIsWord "default" ts && nextIsWordIn ["unsafe", "impl"] second)

/-- The declaration of a name, possibly with a value and with what is done if the value does not
match. -/
def declaration (g : Rules) : Reader Unit := do
  word "let"
  let _ ← g.pattern
  if ← mark? ":" then g.anyType
  if ← mark? "=" then
    let (_, read) ← capture g.anyExpression
    write read
    let braces := (read.getLast?.map fun t => nextIsGroup .brace [t]).getD false
    if ← next fun ts => !braces && nextIsWord "else" ts then
      skip
      block g
  mark ";"

/-- Without a semicolon an expression is only the last statement. -/
def needsSemicolon : Form → Bool
  | .block | .bracedMacro => false
  | _ => true

/-- What the sign of a macro's call behind a path shows a statement to be. -/
inductive Call where
  /-- An item. -/
  | item
  /-- A statement, its arguments in braces and nothing applied to it. -/
  | statement
  /-- An expression, or no call. -/
  | other
  deriving DecidableEq

/-- The call that is next behind its path. -/
def callOf (ts : List Tree) : Call :=
  let second := behind ts
  let third := behind second
  if !nextIsMark "!" ts then .other
  else if nextIsIdent second || nextIsWord "try" second then .item
  else if nextIsGroup .brace second &&
      !((nextIsMark "." third && !nextIsMark ".." third) || nextIsMark "?" third) then .statement
  else .other

/-- One statement. Does it need a semicolon that is not there? -/
def statement (g : Rules) : Reader Bool := do
  let before ← cursor
  skipTags g
  let ts ← tokens
  let call ← ahead do
    let _ ← Path.readPlain
    return callOf (← tokens)
  if call = some .statement then
    let _ ← Path.readPlain
    mark "!"
    let _ ← anyGroup
    let _ ← mark? ";"
    return false
  else if nextIsWord "let" ts then
    declaration g
    return false
  else if nextIsItem ts || call = some .item then
    g.item before
    return false
  else
    let form ← g.bounded
    return !(← mark? ";") && needsSemicolon form

/-- Statements to the end, with semicolons as needed. -/
def statements (g : Rules) : Reader Unit :=
  iterate do
    if ← mark? ";" then return true
    if ← atEnd then return false
    let unfinished ← statement g
    if ← atEnd then return false
    if unfinished then fail .openStatement
    return true

end Dimensional.Derive.Grammar
