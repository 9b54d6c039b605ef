import Dimensional.Derive.Grammar.Fields
import Dimensional.Derive.Grammar.Type

/-!
# Items

Functions, modules, imports, constants, types, traits and their implementations, and what stands inside
them. Some forms are read that mean nothing, such as a function without a body; these are kept as they
stand.
-/

namespace Dimensional.Derive.Grammar

open Source

/-! ### Functions -/

/-- The tokens behind a word, if it is next. -/
def afterWord (s : String) (ts : List Tree) : List Tree := if nextIsWord s ts then ts.drop 1 else ts

/-- A function begins here, possibly behind its qualifiers. -/
def startsFunction (safe : Bool) (ts : List Tree) : Bool :=
  let ts := afterWord "async" (afterWord "const" ts)
  let ts := if safe && nextIsWord "safe" ts then ts.drop 1 else afterWord "unsafe" ts
  let ts :=
    if nextIsWord "extern" ts then
      match ts.drop 1 with
      | .literal text span :: rest => if Literal.isString text then rest else .literal text span :: rest
      | rest => rest
    else ts
  nextIsWord "fn" ts

/-- The receiver of a method, and where it is. -/
def receiver (g : Rules) : Reader Span := do
  let referred ← mark? "&"
  if referred then
    let _ ← lifetime?
  let _ ← word? "mut"
  let ((), span) ← spanned (word "self")
  if !referred then
    if ← mark? ":" then g.anyType
  return span

/-- A parameter of a function, the first of which may be a receiver; has there been one? There is no
answer for parameters without end. -/
def functionParameter (g : Rules) (first received : Bool) : Reader (Option Bool) := do
  if ← mark? "..." then return none
  match ← attempt (receiver g) with
  | some span => if first then return some true else failAt span (.receiver received)
  | none =>
    if ← next fun ts => nextIsIdent ts && nextIsMark "<" (behind ts) then
      write [.ident (.plain ['_']) .whole, .punct ':' false .whole]
    else
      let _ ← g.pattern
      mark ":"
      if ← mark? "..." then return none
    g.anyType
    return some received

/-- The parameters of a function, `fuel` at most. -/
def functionParametersFor (g : Rules) : Nat → (first received : Bool) → Reader Unit
  | 0, _, _ => return
  | fuel + 1, first, received => do
    if ← atEnd then return
    skipTags g
    match ← functionParameter g first received with
    | none => if !(← atEnd) then mark ","
    | some received =>
      if ← atEnd then return
      mark ","
      functionParametersFor g fuel false received

/-- The head of a function. Is it called safe? -/
def signature (g : Rules) (safe : Bool) : Reader Bool := do
  let _ ← word? "const"
  let _ ← word? "async"
  let guarded ← word? "unsafe"
  let called ← next fun ts => safe && !guarded && nextIsWord "safe" ts
  if called then skip
  convention
  word "fn"
  let _ ← ident
  let _ ← parameters g
  let inner : Reader Unit := do
    functionParametersFor g ((← tokens).length + 1) true false
  groupThen .parenthesis inner fun () => do
    returnType g true
    let _ ← conditions g
  return called

/-! ### Constants and types -/

/-- A name, or a mark in place of it. -/
def nextIsConstantName (ts : List Tree) : Bool := nextIsIdent ts || nextIsWord "_" ts

/-- A constant behind its keyword; is it one with parameters, with conditions, or without a value? -/
def constantItem (g : Rules) : Reader Bool := do
  if ← next nextIsConstantName then skip else failAmong [Wish.ident, Wish.word "_"]
  let angles ← next (nextIsMark "<")
  let _ ← parameters g
  mark ":"
  g.anyType
  let valued ← mark? "="
  if valued then g.anyExpression
  let conditional ← conditions g
  mark ";"
  return angles || conditional || !valued

/-- A named type behind its visibility; `early` conditions stand before its definition, `late` ones
behind it. Is it one with bounds, or without a definition? -/
def namedType (g : Rules) (early late : Bool) : Reader Bool := do
  word "type"
  let _ ← ident
  let _ ← parameters g
  let bounded ← next (nextIsMark ":")
  afterColon (chainUntil (fun ts => nextIsWord "where" ts || nextIsMarkIn ["=", ";"] ts) "+" (anyBound g))
  let conditional ← if early then conditions g else pure false
  let defined ← mark? "="
  if defined then g.anyType
  if late && !conditional then
    let _ ← conditions g
  mark ";"
  return bounded || !defined

/-! ### Calls of macros -/

/-- What may begin an item that is the call of a macro. -/
def macroWishes : List Wish := [.ident, .word "self", .word "super", .word "crate", .mark "::"]

/-- The call of a macro may begin here. -/
def nextIsMacro (ts : List Tree) : Bool := macroWishes.any fun wish => wish.isNext ts

/-- The call of a macro among items; possibly with a name in front of its arguments. -/
def macroItem (named : Bool) : Reader Unit := do
  let _ ← Path.readPlain
  mark "!"
  if named then
    if ← next fun ts => nextIsIdent ts || nextIsWord "try" ts then skip
  if (← anyGroup) ≠ .brace then mark ";"

/-! ### What stands inside items -/

/-- An item among those that are defined elsewhere. -/
def foreignItem (g : Rules) : Reader Unit := do
  let before ← cursor
  skipTags g
  let visible ← visibility
  let ts ← tokens
  if startsFunction true ts then
    let safe ← signature g true
    if ← mark? ";" then
      if safe then copySince before
    else if ← next (nextIsGroup .brace) then
      body g
      copySince before
    else mark ";"
  else if nextIsWord "static" ts || (nextIsWordIn ["unsafe", "safe"] ts && nextIsWord "static" (ts.drop 1))
  then
    let qualified ← next (nextIsWordIn ["unsafe", "safe"])
    if qualified then skip
    word "static"
    let _ ← word? "mut"
    let _ ← ident
    mark ":"
    g.anyType
    let valued ← mark? "="
    if valued then g.anyExpression
    mark ";"
    if qualified || valued then copySince before
  else if nextIsWord "type" ts then
    let _ ← namedType g true true
  else if !visible && nextIsMacro ts then macroItem false
  else
    failAmong ([.word "fn", .word "static", .word "type"] ++ if visible then [] else macroWishes)

/-- An item of a trait. -/
def traitItem (g : Rules) : Reader Unit := do
  let before ← cursor
  skipTags g
  let visible ← visibility
  let preset ← word? "default"
  let qualified := visible || preset
  let ts ← tokens
  if startsFunction false ts then method
  else if nextIsWord "const" ts then
    let second := ts.drop 1
    if nextIsConstantName second then
      skip
      let _ ← constantItem g
    else if nextIsWordIn ["async", "unsafe", "extern", "fn"] second then method
    else
      skip
      failAmong [Wish.ident, Wish.word "_", Wish.word "async", Wish.word "unsafe", Wish.word "extern",
        Wish.word "fn"]
  else if nextIsWord "type" ts then
    let _ ← namedType g false true
  else if !qualified && nextIsMacro ts then macroItem false
  else failAmong ([.word "fn", .word "const", .word "type"] ++ if qualified then [] else macroWishes)
  if qualified then copySince before
where
  /-- A method, with a body or without. -/
  method : Reader Unit := do
    let _ ← signature g false
    if ← next (nextIsGroup .brace) then body g
    else if !(← mark? ";") then failAmong [Wish.group .brace, Wish.mark ";"]

/-- An item of an implementation. -/
def implementedItem (g : Rules) : Reader Unit := do
  let before ← cursor
  skipTags g
  let visible ← visibility
  let preset ← next fun ts => nextIsWord "default" ts && !nextIsMark "!" (ts.drop 1)
  if preset then skip
  let qualified := visible || preset
  let ts ← tokens
  if startsFunction false ts then
    let _ ← signature g false
    if ← mark? ";" then copySince before else body g
  else if nextIsWord "const" ts then
    skip
    if ← constantItem g then copySince before
  else if nextIsWord "type" ts then
    if ← namedType g false true then copySince before
  else if !qualified && nextIsMacro ts then macroItem false
  else
    failAmong ((if preset then [] else [.word "default"]) ++
      [.word "fn", .word "const", .word "type"] ++ if qualified then [] else macroWishes)

/-! ### Modules, imports, traits and implementations -/

/-- Items in braces behind the tags of the whole. -/
def itemsIn (g : Rules) (item : Reader Unit) : Reader Unit :=
  group .brace do
    innerTags g
    untilEnd item

/-- An item with its tags. -/
def taggedItem (g : Rules) : Reader Unit := do
  let before ← cursor
  skipTags g
  g.item before

/-- A module. -/
def moduleItem (g : Rules) : Reader Unit := do
  word "mod"
  if !(← word? "try") then
    let _ ← ident
  if ← next (nextIsGroup .brace) then itemsIn g (taggedItem g)
  else if !(← mark? ";") then failAmong [Wish.mark ";", Wish.group .brace]

/-- Items that are defined elsewhere. -/
def foreignItems (g : Rules) : Reader Unit := do
  let _ ← word? "unsafe"
  if !(← next (nextIsWord "extern")) then word "extern"
  convention
  itemsIn g (foreignItem g)

mutual

/-- The names that are imported, in at most `fuel` steps. Where `root` allows it a name may have a
separator in front, and the answer is whether one has. -/
def importsFor : Nat → (root : Bool) → Reader Bool
  | 0, _ => fail (.unexpected none)
  | fuel + 1, root => do
    let ts ← tokens
    if nextIsIdent ts || nextIsWordIn ["self", "super", "crate", "try"] ts then
      skip
      if ← mark? "::" then
        let _ ← importsFor fuel false
      else if ← word? "as" then
        if ← next nextIsConstantName then skip else failExpected "identifier or underscore"
      return false
    else if nextIsMark "*" ts then
      mark "*"
      return false
    else if nextIsGroup .brace ts then group .brace (importListFor fuel root)
    else
      failAmong [Wish.ident, Wish.word "self", Wish.word "super", Wish.word "crate", Wish.word "try",
        Wish.mark "*", Wish.group .brace]

/-- Several of them between commas. -/
def importListFor : Nat → (root : Bool) → Reader Bool
  | 0, _ => return false
  | fuel + 1, root => do
    if ← atEnd then return false
    let rooted ← next fun ts => root && nextIsMark "::" ts
    if rooted then mark "::"
    let inner ← importsFor fuel (root && !rooted)
    if ← atEnd then return rooted || inner
    mark ","
    let others ← importListFor fuel root
    return rooted || inner || others

end

/-- An import; is there a separator in front of one of several names? -/
def importItem : Reader Bool := do
  word "use"
  let fuel := 2 * Tree.sizes (← tokens) + 2
  let leading ← mark? "::"
  let rooted ← importsFor fuel (!leading)
  mark ";"
  return rooted

/-- A trait behind its visibility. -/
def traitItemBody (g : Rules) : Reader Unit := do
  let ending : List Tree → Bool := fun ts => nextIsWord "where" ts || nextIsGroup .brace ts
  afterColon (listUntil ending "+" (anyBound g))
  let _ ← conditions g
  itemsIn g (traitItem g)

/-- A trait. One without qualifiers may be another name for bounds. -/
def traitDeclaration (g : Rules) : Reader Unit := do
  let guarded ← word? "unsafe"
  let automatic ← word? "auto"
  word "trait"
  let _ ← ident
  let _ ← parameters g
  let ts ← tokens
  if guarded || automatic || nextIsGroup .brace ts || nextIsMark ":" ts || nextIsWord "where" ts then
    traitItemBody g
  else if nextIsMark "=" ts then
    mark "="
    listUntil (fun ts => nextIsWord "where" ts || nextIsMark ";" ts) "+" (anyBound g)
    let _ ← conditions g
    mark ";"
  else failAmong [Wish.group .brace, Wish.mark ":", Wish.word "where", Wish.mark "="]

/-- An implementation behind its visibility; is it one that is kept as it stands? -/
def implementation (g : Rules) : Reader Bool := do
  let _ ← word? "default"
  let _ ← word? "unsafe"
  word "impl"
  if ← next nextIsParameters then
    let _ ← parameters g
  let isConstant ← next fun ts =>
    nextIsWord "const" ts || (nextIsMark "?" ts && nextIsWord "const" (ts.drop 1))
  if isConstant then
    let _ ← mark? "?"
    word "const"
  let sign := (← cursor).here
  let negative ← next fun ts => nextIsMark "!" ts && !nextIsGroup .brace (ts.drop 1)
  if negative then mark "!"
  let form ← g.type true
  let ofTrait ← word? "for"
  let isPath : Bool := match form with
    | .path qualified _ => !qualified
    | _ => false
  if ofTrait then g.anyType
  else if negative then failAt sign .negativeInherent
  let _ ← conditions g
  itemsIn g (implementedItem g)
  return isConstant || (ofTrait && !isPath)

/-- A macro that is declared by rules, with parameters or without. -/
def macroDeclaration : Reader Unit := do
  word "macro"
  let _ ← ident
  let parenthesized ← next (nextIsGroup .parenthesis)
  if parenthesized then skip
  if ← next (nextIsGroup .brace) then skip
  else failAmong ((if parenthesized then [] else [.group .parenthesis]) ++ [.group .brace])

/-- The name of a package that is brought in, possibly under another name. -/
def packageItem : Reader Unit := do
  word "extern"
  word "crate"
  if !(← word? "self") then
    let _ ← ident
  if ← word? "as" then
    if !(← word? "_") then
      let _ ← ident
  mark ";"

/-- A static variable; is it one without a type, or without a value? -/
def staticItem (g : Rules) : Reader Bool := do
  word "static"
  let _ ← word? "mut"
  let _ ← ident
  if ← mark? "=" then
    g.anyExpression
    mark ";"
    return true
  mark ":"
  g.anyType
  if ← mark? ";" then return true
  mark "="
  g.anyExpression
  mark ";"
  return false

/-! ### Any item -/

/-- What may begin an item behind its visibility. -/
def itemWishes (visible : Bool) : List Wish :=
  (["fn", "extern", "use", "static", "const", "unsafe", "mod", "type", "struct", "enum", "union", "trait",
    "auto", "impl", "default", "macro"].map Wish.word) ++ if visible then [] else macroWishes

/-- Items that are defined elsewhere. They have no visibility of their own. -/
def hiddenForeignItems (g : Rules) (visible : Bool) (start : Span) : Reader Unit := do
  if visible then failAt start (.expected [ticked "extern".toList])
  foreignItems g

/-- Neither a package nor items elsewhere are declared. -/
def failPackage : Reader Unit :=
  failAmong [Wish.word "crate", Wish.group .brace, ⟨"string literal".toList, fun _ => false⟩]

/-- What a keyword begins that stands before packages and before items elsewhere, by what is behind it. -/
def externItem (g : Rules) (visible : Bool) (start : Span) : List Tree → Reader Unit
  | .literal text _ :: third =>
    if !Literal.isString text then do
      skip
      failPackage
    else if nextIsGroup .brace third then hiddenForeignItems g visible start
    else do
      skip
      skip
      failAmong [Wish.group .brace]
  | second =>
    if nextIsWord "crate" second then packageItem
    else if nextIsGroup .brace second then hiddenForeignItems g visible start
    else do
      skip
      failPackage

/-- An item behind its tags, which began at `before`. -/
def item (g : Rules) (before : Cursor) : Reader Unit := do
  let start ← cursor
  let visible ← visibility
  let ts ← tokens
  let second := behind ts
  let keep (kept : Bool) : Reader Unit := do
    if kept then copySince before
  if startsFunction false ts then
    let _ ← signature g false
    if ← mark? ";" then keep true else body g
  else if nextIsWord "extern" ts then externItem g visible start.here second
  else if nextIsWord "use" ts then keep (← importItem)
  else if nextIsWord "static" ts then keep (← staticItem g)
  else if nextIsWord "const" ts then
    skip
    keep (← constantItem g)
  else if nextIsWord "unsafe" ts then
    if nextIsWord "trait" second || (nextIsWord "auto" second && nextIsWord "trait" (second.drop 1)) then
      traitDeclaration g
    else if nextIsWord "impl" second then
      let kept ← implementation g
      keep (visible || kept)
    else if nextIsWord "extern" second then hiddenForeignItems g visible start.here
    else if nextIsWord "mod" second then
      skip
      moduleItem g
    else
      skip
      failAmong (["trait", "auto", "impl", "extern", "mod"].map Wish.word)
  else if nextIsWord "mod" ts then moduleItem g
  else if nextIsWord "type" ts then keep (← namedType g true false)
  else if nextIsWord "struct" ts then
    declared
    structureBody g
  else if nextIsWord "enum" ts then
    declared
    enumerationBody g
  else if nextIsWord "union" ts && nextIsIdent second then
    declared
    unionBody g
  else if nextIsWord "trait" ts || (nextIsWord "auto" ts && nextIsWord "trait" second) then
    traitDeclaration g
  else if nextIsWord "impl" ts || (nextIsWord "default" ts && !nextIsMark "!" second) then
    let kept ← implementation g
    keep (visible || kept)
  else if nextIsWord "macro" ts then
    macroDeclaration
    keep true
  else if !visible && nextIsMacro ts then macroItem true
  else failAmong (itemWishes visible)
where
  /-- The keyword of a type that is declared, its name and its parameters. -/
  declared : Reader Unit := do
    skip
    let _ ← ident
    let _ ← parameters g

end Dimensional.Derive.Grammar
