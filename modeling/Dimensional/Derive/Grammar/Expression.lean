import Dimensional.Derive.Grammar.Operand

/-!
# Expressions

An atom, the signs before it and what is applied behind it, and the operators between such operands. Where
a block is about to follow, the braces behind a name are that block and no structure.
-/

namespace Dimensional.Derive.Grammar

open Source

/-! ### What may begin an expression -/

/-- An expression may begin here. -/
def nextIsExpression (ts : List Tree) : Bool :=
  (nextIsName ts && !nextIsWord "as" ts) || nextIsGroup .parenthesis ts || nextIsGroup .bracket ts ||
    nextIsGroup .brace ts || nextIsLiteral ts || nextIsBang ts ||
    (nextIsMark "-" ts && !nextIsMarkIn ["-=", "->"] ts) ||
    (nextIsMark "*" ts && !nextIsMark "*=" ts) || (nextIsMark "|" ts && !nextIsMark "|=" ts) ||
    (nextIsMark "&" ts && !nextIsMark "&=" ts) || nextIsMarkIn ["..", "::", "#"] ts ||
    nextIsAngle ts || nextIsLifetime ts

/-- An expression, if one may begin here. -/
def expression? (g : Rules) : Reader Unit := do
  if ← next nextIsExpression then g.anyExpression

/-- An asynchronous block is next. -/
def nextIsAsyncBlock (ts : List Tree) : Bool :=
  nextIsWordThenBlock "async" ts || (nextIsWord "async" ts && nextIsWordThenBlock "move" (ts.drop 1))

/-- A closure is next. -/
def nextIsClosure (ts : List Tree) : Bool :=
  nextIsMark "|" ts || nextIsWordIn ["move", "static"] ts || nextIsClosureBinder ts ||
    (nextIsWord "const" ts && !nextIsGroup .brace (ts.drop 1)) ||
    (nextIsWord "async" ts && (nextIsMark "|" (ts.drop 1) || nextIsWord "move" (ts.drop 1)))

/-- A path is next, or the call of a macro whose name is kept for the language. -/
def nextIsNamed (ts : List Tree) : Bool :=
  nextIsPath ts || (nextIsWord "try" ts && nextIsMarkIn ["!", "::"] (ts.drop 1))

/-! ### Atoms -/

/-- The argument of a closure, with a type or without. -/
def closureArgument (g : Rules) : Reader Unit := do
  skipTags g
  let _ ← g.pattern
  if ← mark? ":" then g.anyType

/-- A closure. -/
def closure (g : Rules) (structures : Bool) : Reader Unit := do
  if ← next (nextIsWord "for") then g.binder
  let _ ← word? "const"
  let _ ← word? "static"
  let _ ← word? "async"
  let _ ← word? "move"
  mark "|"
  listUntil (nextIsMark "|") "," (closureArgument g)
  mark "|"
  if ← mark? "->" then
    g.anyType
    block g
  else
    let _ ← g.expression structures

/-- The value of a field in a structure. -/
def fieldValue (g : Rules) : Reader Unit := do
  skipTags g
  let named ← member
  if ← next fun ts => !named || nextIsMark ":" ts then
    mark ":"
    g.anyExpression

/-- The fields of a structure, and possibly a structure from which the others are taken. -/
def structureValue (g : Rules) : Reader Unit :=
  group .brace do
    iterate do
      if ← atEnd then return false
      if ← mark? ".." then
        if !(← atEnd) then g.anyExpression
        return false
      fieldValue g
      if ← atEnd then return false
      mark ","
      return true

/-- A path, the call of a macro, or a structure. -/
def namedValue (g : Rules) (structures : Bool) : Reader Form := do
  let (qualified, p) ← qualifiedPath g true
  match ← macroCall? qualified p with
  | some d => return if d = .brace then .bracedMacro else .other
  | none =>
    if ← next fun ts => structures && nextIsGroup .brace ts then structureValue g
    return .other

/-- An array: its elements, or an element and their number. -/
def arrayValue (g : Rules) : Reader Unit :=
  group .bracket do
    if ← atEnd then return
    g.anyExpression
    if ← atEnd then return
    if ← mark? "," then commaList g.anyExpression
    else if ← mark? ";" then g.anyExpression
    else fail (.expected [ticked [','], ticked [';']])

/-- A jump out of a loop or a block, possibly with a value. A loop with a label is no such value. -/
def breakJump (g : Rules) (structures : Bool) : Reader Unit := do
  word "break"
  let ts ← tokens
  if nextIsLifetime ts && nextIsMark ":" (behind ts) then
    let ((), span) ← spanned g.anyExpression
    failAt span .parenthesesRequired
  let _ ← lifetime?
  if ← next fun ts => nextIsExpression ts && (structures || !nextIsGroup .brace ts) then
    g.anyExpression

/-- A matter that is bound by a condition. -/
def bindingCondition (g : Rules) (structures : Bool) : Reader Unit := do
  word "let"
  anyPatterns g
  mark "="
  let _ ← g.operation structures (← g.unary structures) .compare

/-- A loop or a block behind its label. -/
def labeled (g : Rules) : Reader Unit := do
  lifetime
  mark ":"
  let ts ← tokens
  if nextIsWord "while" ts then whileLoop g
  else if nextIsWord "for" ts then forLoop g
  else if nextIsWord "loop" ts then endlessLoop g
  else if nextIsGroup .brace ts then body g
  else failExpected "loop or block expression"

/-- Expressions that end in a block, by what begins them. -/
def blockLike? (g : Rules) (ts : List Tree) : Option (Reader Unit) :=
  if nextIsWord "if" ts then some (branches g)
  else if nextIsWord "while" ts then some (whileLoop g)
  else if nextIsWord "for" ts then some (forLoop g)
  else if nextIsWord "loop" ts then some (endlessLoop g)
  else if nextIsWord "match" ts then some (choice g)
  else if nextIsWord "unsafe" ts then some (do word "unsafe"; body g)
  else if nextIsWord "const" ts then some (constantBlock g)
  else if nextIsGroup .brace ts then some (body g)
  else if nextIsLifetime ts then some (labeled g)
  else none

/-- An operand without signs and with nothing applied. -/
def atom (g : Rules) (structures : Bool) : Reader Form := do
  let ts ← tokens
  if nextIsLiteral ts then
    literal
    return .other
  else if nextIsAsyncBlock ts then
    word "async"
    let _ ← word? "move"
    block g
    return .other
  else if nextIsWordThenBlock "try" ts then
    word "try"
    block g
    return .block
  else if nextIsClosure ts then
    closure g structures
    return .other
  else if nextIsBuiltin ts then
    builtin
    return .other
  else if nextIsNamed ts then namedValue g structures
  else if nextIsMark ".." ts then rangeFrom g structures
  else
    match blockLike? g ts with
    | some reader =>
      reader
      return .block
    | none =>
      if nextIsGroup .parenthesis ts then group .parenthesis (commaList g.anyExpression)
      else if nextIsGroup .bracket ts then arrayValue g
      else if nextIsWord "break" ts then breakJump g structures
      else if nextIsWord "continue" ts then
        skip
        let _ ← lifetime?
      else if nextIsWordIn ["return", "yield"] ts then
        skip
        expression? g
      else if nextIsWord "become" ts then
        copied do
          skip
          g.anyExpression
      else if nextIsWord "let" ts then bindingCondition g structures
      else if nextIsWord "_" ts then skip
      else failExpected "an expression"
      return .other

/-! ### Operands with signs, and operations -/

/-- A reference, which may be raw. -/
def referenceValue (g : Rules) (structures : Bool) : Reader Unit := do
  mark "&"
  let raw ← next fun ts => nextIsWord "raw" ts && nextIsWordIn ["mut", "const"] (ts.drop 1)
  if raw then skip
  if !(← word? "mut") && raw then word "const"
  let _ ← g.unary structures

/-- An operand with its tags and signs, and with what is applied to it. -/
def unary (g : Rules) (structures : Bool) : Reader Form := do
  let tags ← tags g
  let ts ← tokens
  if nextIsMark "&" ts then
    referenceValue g structures
    return .other
  else
    match ["*", "!", "-"].find? fun sign => nextIsMark sign ts with
    | some sign =>
      mark sign
      let _ ← g.unary structures
      return .other
    | none =>
      let form ← trailers g (← atom g structures)
      match form with
      | .range limits => if tags.isEmpty then return form else failAt limits .attributeOnRange
      | _ => return form

/-- What is applied to the type of a cast, in vain. -/
def suffix? (ts : List Tree) : Option Suffix :=
  let second := behind ts
  let third := behind second
  if nextIsMark "." ts && !nextIsMark ".." ts then
    if nextIsWord "await" second then some .await
    else if nextIsIdent second && (nextIsGroup .parenthesis third || nextIsMark "::" third) then
      some .method
    else some .field
  else if nextIsMark "?" ts then some .question
  else if nextIsGroup .bracket ts then some .index
  else if nextIsGroup .parenthesis ts then some .call
  else none

/-- A cast. -/
def cast (g : Rules) : Reader Unit := do
  word "as"
  let _ ← g.type false
  match suffix? (← tokens) with
  | some suffix => fail (.castBefore suffix)
  | none => return

/-- The operations on a left operand that hold it at least as tightly as `base`, `fuel` at most. -/
def operationFor (g : Rules) (structures : Bool) (base : Precedence) : Nat → Form → Reader Form
  | 0, form => return form
  | _, .range limits => return .range limits
  | fuel + 1, form => do
    let ts ← tokens
    match operator? ts with
    | some (operator, precedence) =>
      if precedence < base then return form
      if precedence == .compare && form == .comparison then fail .chainedComparison
      mark operator
      let _ ← rightOperand g structures precedence
      operationFor g structures base fuel (if precedence == .compare then .comparison else .other)
    | none =>
      if base ≤ .assign && nextIsAssignment ts then
        mark "="
        let _ ← rightOperand g structures .assign
        operationFor g structures base fuel .other
      else if base ≤ .range && nextIsMark ".." ts then
        operationFor g structures base fuel (← rangeFrom g structures)
      else if base ≤ .cast && nextIsWord "as" ts then
        cast g
        operationFor g structures base fuel .other
      else return form

/-- The operations on a left operand that hold it at least as tightly as `base`. -/
def operation (g : Rules) (structures : Bool) (form : Form) (base : Precedence) : Reader Form := do
  operationFor g structures base ((← tokens).length + 1) form

/-- An expression that is over behind its block if it begins with one, unless something is applied to
it. -/
def bounded (g : Rules) : Reader Form := do
  skipTags g
  if ← next nextIsBlockLike then
    let form ← atom g true
    if ← next fun ts => (nextIsMark "." ts && !nextIsMark ".." ts) || nextIsMark "?" ts then
      g.operation true (← trailers g form) .jump
    else return form
  else g.expression true

end Dimensional.Derive.Grammar
