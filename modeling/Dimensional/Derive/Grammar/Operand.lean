import Dimensional.Derive.Grammar.Bound
import Dimensional.Derive.Grammar.Member
import Dimensional.Derive.Grammar.Pattern

/-!
# Operands

What an operator joins may be called, indexed, or asked for its members; it may be a range, a choice or
a loop. An operator on its right that holds it more tightly than the one on its left comes first.
-/

namespace Dimensional.Derive.Grammar

open Source

/-! ### Operations that an operand may contain -/

/-- Operations on a right operand that hold it more tightly, `fuel` at most. Reading stops where a range
cannot be an operand. -/
def tighterFor (g : Rules) (structures : Bool) (p : Precedence) : Nat → Form → Reader Form
  | 0, form => return form
  | fuel + 1, form => do
    let ts ← tokens
    let after := nextPrecedence ts
    if p < after || (after == p && p == .assign) then
      let form ← g.operation structures form after
      if (← tokens).length = ts.length then return form
      else tighterFor g structures p fuel form
    else return form

/-- The right operand of an operator. -/
def rightOperand (g : Rules) (structures : Bool) (p : Precedence) : Reader Form := do
  tighterFor g structures p ((← tokens).length + 1) (← g.unary structures)

/-- A range without an upper end is over here. -/
def endOfRange (structures : Bool) (ts : List Tree) : Bool :=
  ts.isEmpty || (nextIsMark "." ts && !nextIsMark ".." ts) ||
    nextIsMarkIn [",", ";", "?", "=>", "=", "+", "/", "%", "^", ">", "<=", "!=", "-=", "*=", "&=", "|=",
      "<<="] ts ||
    (!structures && nextIsGroup .brace ts) || nextIsWord "as" ts

/-- The mark of a range, and its upper end. -/
def rangeFrom (g : Rules) (structures : Bool) : Reader Form := do
  let (closed, span) ← rangeMark false
  if closed || !(← next (endOfRange structures)) then
    let _ ← rightOperand g structures .range
  return .range span

/-! ### What is applied -/

/-- Arguments in parentheses. -/
def callArguments (g : Rules) : Reader Unit := group .parenthesis (commaList g.anyExpression)

/-- A member behind its point, and the arguments if it is called. -/
def memberAccess (g : Rules) : Reader Unit := do
  mark "."
  if ← pointedMembers? then return
  if ← word? "await" then return
  if ← member then
    if ← mark? "::" then
      g.arguments
      callArguments g
    else if ← next (nextIsGroup .parenthesis) then callArguments g

/-- What is applied to an operand, `fuel` times at most. To a range only arguments and indices are. -/
def trailersFor (g : Rules) : Nat → Form → Reader Form
  | 0, form => return form
  | fuel + 1, form => do
    let ts ← tokens
    let ranges : Bool := match form with
      | .range _ => true
      | _ => false
    if nextIsGroup .parenthesis ts then
      callArguments g
      trailersFor g fuel .other
    else if nextIsMark "." ts && !nextIsMark ".." ts && !ranges then
      memberAccess g
      trailersFor g fuel .other
    else if nextIsGroup .bracket ts then
      group .bracket g.anyExpression
      trailersFor g fuel .other
    else if nextIsMark "?" ts && !ranges then
      mark "?"
      trailersFor g fuel .other
    else return form

/-- What is applied to an operand. -/
def trailers (g : Rules) (form : Form) : Reader Form := do
  trailersFor g ((← tokens).length + 1) form

/-! ### Branches and loops -/

/-- A condition, its block, and what is done otherwise, `fuel` conditions at most. -/
def branchesFor (g : Rules) : Nat → Reader Unit
  | 0 => return
  | fuel + 1 => do
    word "if"
    let _ ← g.expression false
    block g
    if ← word? "else" then
      let ts ← tokens
      if nextIsWord "if" ts then branchesFor g fuel
      else if nextIsGroup .brace ts then block g
      else failAmong [Wish.word "if", Wish.group .brace]

/-- Branches. -/
def branches (g : Rules) : Reader Unit := do
  branchesFor g ((← tokens).length + 1)

/-- A loop under a condition. -/
def whileLoop (g : Rules) : Reader Unit := do
  word "while"
  let _ ← g.expression false
  body g

/-- A loop over a sequence. -/
def forLoop (g : Rules) : Reader Unit := do
  word "for"
  anyPatterns g
  word "in"
  let _ ← g.expression false
  body g

/-- A loop without a condition. -/
def endlessLoop (g : Rules) : Reader Unit := do
  word "loop"
  body g

/-- The parameters of a closure begin here, and not a path in angles. -/
def nextIsClosureBinder (ts : List Tree) : Bool := nextIsWord "for" ts && nextIsParameters (ts.drop 1)

/-- A block that is constant or asynchronous, or may fail, is next. -/
def nextIsWordThenBlock (s : String) (ts : List Tree) : Bool :=
  nextIsWord s ts && nextIsGroup .brace (ts.drop 1)

/-- An expression is next that ends in a block and may begin a statement. -/
def nextIsBlockLike (ts : List Tree) : Bool :=
  nextIsWordIn ["if", "while", "loop", "match", "unsafe"] ts ||
    (nextIsWord "for" ts && !nextIsClosureBinder ts) || nextIsWordThenBlock "try" ts ||
    nextIsWordThenBlock "const" ts || nextIsGroup .brace ts || nextIsLifetime ts

/-- One arm of a choice. -/
def arm (g : Rules) : Reader Unit := do
  skipTags g
  anyPatterns g
  if ← word? "if" then g.anyExpression
  mark "=>"
  let form ← g.bounded
  if form != .block && !(← atEnd) then mark ","
  else
    let _ ← mark? ","

/-- A choice. -/
def choice (g : Rules) : Reader Unit := do
  word "match"
  let _ ← g.expression false
  group .brace do
    innerTags g
    untilEnd (arm g)

end Dimensional.Derive.Grammar
