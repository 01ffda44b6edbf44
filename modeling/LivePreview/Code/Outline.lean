import LivePreview.Code.Grammar

/-!
# The outline of a module

Reading a whole module checks all of its statements and keeps the imports, and what is raised, in
the blocks where they stand. A statement is read through `Blocks`, whose nested statements are one
block deeper.
-/

namespace LivePreview.Code

open LivePreview.Text (normalForm)

/-- What an outline keeps of a statement. -/
inductive Part where
  /-- Modules imported by name. -/
  | imports (modules : List String)
  /-- Names imported from a module, which is `level` packages up if the level is not zero. -/
  | importFrom (level : Nat) (module : Option String)
  /-- An exception; a module that gets there runs no further. -/
  | raised (value : Option Expr)
  | block (parts : List Part)

/-- How expressions and nested statements are read. -/
structure Blocks where
  within : Within
  nested : Reader (List Part)

open Reader

namespace Outline

/-- Something before a comma or not, at least once. -/
def commaList {α : Type} (rounds : Nat) (item : Reader α) : Reader (List α) := do
  let first ← item
  let next : Reader (Option α) := do
    if ← acceptSymbol "," then return some (← item) else return none
  return first :: (← gather next rounds)

def dotted (names : List String) : String := ".".intercalate names

def dottedName (rounds : Nat) : Reader String := do
  let first ← name
  let next : Reader (Option String) := do
    if ← acceptSymbol "." then return some (← name) else return none
  return dotted (first :: (← gather next rounds))

/-- A new name for what is imported. -/
def otherName : Reader Unit := do
  if ← acceptKeyword "as" then discard name

def importNames (rounds : Nat) : Reader (List Part) := do
  let module : Reader String := do
    let m ← dottedName rounds
    otherName
    return m
  return [.imports (← commaList rounds module)]

/-- Points before the name of a module, three of which may be one token. -/
def levelMark : Reader (Option Nat) := do
  if ← acceptSymbol "." then return some 1
  else if ← acceptSymbol "..." then return some 3
  else return none

/-- One name to import. -/
def importedItem : Reader Unit := do
  discard name
  otherName

def importTargets (rounds : Nat) : Reader Unit := do
  if ← acceptSymbol "*" then pure ()
  else if ← acceptSymbol "(" then
    let items ← sequence (isSymbolNext ")") importedItem rounds
    require !items.isEmpty
    expectSymbol ")"
  else discard (commaList rounds importedItem)

def importFrom (rounds : Nat) : Reader (List Part) := do
  let level := (← gather levelMark rounds).foldl (· + ·) 0
  let module ← if ← isKeywordNext "import" then pure none else some <$> dottedName rounds
  require (0 < level || module.isSome)
  expectKeyword "import"
  importTargets rounds
  return [.importFrom level module]

/-- Whether one name, attribute or subscript stands alone. -/
def isSingleTarget : Expr → Bool
  | .name _ | .attribute _ _ | .subscript _ _ => true
  | _ => false

mutual

/-- Whether the expression can be deleted. -/
def isDeletable : Expr → Bool
  | .name _ | .attribute _ _ | .subscript _ _ => true
  | .tuple es => areDeletable es
  | .list es => areDeletable es
  | _ => false

def areDeletable : List Expr → Bool
  | [] => true
  | e :: es => isDeletable e && areDeletable es

end

def updateSymbols : List String :=
  ["+=", "-=", "*=", "@=", "/=", "%=", "&=", "|=", "^=", "<<=", ">>=", "**=", "//="]

/-- A value to assign. -/
def assigned (w : Within) : Reader Expr := do
  if ← isKeywordNext "yield" then w.yield else w.items

/-- The rest of an assignment: what was read is a target as long as an equals sign follows. -/
def assignments (w : Within) (e : Expr) : Reader (Option Expr) := do
  if ← acceptSymbol "=" then
    require (isTarget e)
    return some (← assigned w)
  else return none

/-- A statement that is an expression or starts with one. -/
def expressionStatement (w : Within) : Reader Unit := do
  let e ← w.items
  if ← acceptSymbol ":" then
    require (isSingleTarget e)
    discard w.expression
    if ← acceptSymbol "=" then discard (assigned w)
  else
    match ← peek with
    | some (.symbol s) =>
      if updateSymbols.contains s then
        skip
        require (isSingleTarget e)
        discard (assigned w)
      else discard (extend (assignments w) w.bound e)
    | _ => pure ()

def isStatementEnd : Reader Bool := do
  return (← isSymbolNext ";") || (← isNext .newline)

def deletion (w : Within) : Reader Unit := do
  let target : Reader Unit := do
    let e ← w.primary
    require (isDeletable e)
  let targets ← sequence isStatementEnd target w.bound
  require !targets.isEmpty

def raised (w : Within) : Reader (List Part) := do
  if ← isStatementEnd then return [.raised none]
  else
    let e ← w.expression
    if ← acceptKeyword "from" then discard w.expression
    return [.raised (some e)]

def asserted (w : Within) : Reader Unit := do
  discard w.expression
  if ← acceptSymbol "," then discard w.expression

/-- A statement without a block that imports and raises nothing. -/
def plain (w : Within) : Reader Unit := do
  if ← acceptKeyword "return" then
    if ← isStatementEnd then pure () else discard w.items
  else if ← acceptKeyword "del" then deletion w
  else if ← acceptKeyword "assert" then asserted w
  else if ← acceptKeyword "pass" then pure ()
  else if ← acceptKeyword "break" then pure ()
  else if ← acceptKeyword "continue" then pure ()
  else if ← acceptKeyword "global" then discard (commaList w.bound name)
  else if ← acceptKeyword "nonlocal" then discard (commaList w.bound name)
  else if ← isKeywordNext "yield" then discard w.yield
  else expressionStatement w

/-- A statement without a block. -/
def simple (w : Within) : Reader (List Part) := do
  if ← acceptKeyword "import" then importNames w.bound
  else if ← acceptKeyword "from" then importFrom w.bound
  else if ← acceptKeyword "raise" then raised w
  else
    plain w
    return []

/-- Statements on one line. -/
def simpleLine (w : Within) : Reader (List Part) := do
  let first ← simple w
  let next : Reader (Option (List Part)) := do
    if ← acceptSymbol ";" then
      if ← isNext .newline then return none else return some (← simple w)
    else return none
  let rest ← gather next w.bound
  expect .newline
  return first ++ rest.flatten

/-- Whether a name is this word, which is no keyword elsewhere. -/
def acceptWord (s : String) : Reader Bool := accept (.name s)

end Outline

open Outline

/-- Statements up to the end of their block. -/
def Blocks.statements (b : Blocks) : Reader (List Part) := do
  let next : Reader (Option (List Part)) := do
    if (← isNext .dedent) || (← peek).isNone then return none else return some (← b.nested)
  return (← gather next b.within.bound).flatten

/-- A colon and the block after it. -/
def Blocks.block (b : Blocks) : Reader (List Part) := do
  expectSymbol ":"
  if ← accept .newline then
    expect .indent
    let parts ← b.statements
    expect .dedent
    return parts
  else simpleLine b.within

/-- The block after a keyword, if that comes next. -/
def Blocks.optional (b : Blocks) (keyword : String) : Reader (List Part) := do
  if ← acceptKeyword keyword then b.block else return []

def Blocks.conditional (b : Blocks) : Reader (List Part) := do
  discard b.within.named
  let body ← b.block
  let next : Reader (Option (List Part)) := do
    if ← acceptKeyword "elif" then
      discard b.within.named
      return some (← b.block)
    else return none
  let others ← gather next b.within.bound
  return body ++ others.flatten ++ (← b.optional "else")

def Blocks.whileLoop (b : Blocks) : Reader (List Part) := do
  discard b.within.named
  let body ← b.block
  return body ++ (← b.optional "else")

def Blocks.forLoop (b : Blocks) : Reader (List Part) := do
  discard b.within.targets
  expectKeyword "in"
  discard b.within.items
  let body ← b.block
  return body ++ (← b.optional "else")

def withItem (w : Within) : Reader Unit := do
  discard w.expression
  if ← acceptKeyword "as" then discard w.target

/-- The items in parentheses, with the colon in view. -/
def withParenthesized (w : Within) : Reader Unit := do
  expectSymbol "("
  let items ← sequence (isSymbolNext ")") (withItem w) w.bound
  require !items.isEmpty
  expectSymbol ")"
  require (← isSymbolNext ":")

def Blocks.withBlock (b : Blocks) : Reader (List Part) := do
  withParenthesized b.within <|> discard (commaList b.within.bound (withItem b.within))
  b.block

/-- One handler; all handlers of a statement have a star or none has. -/
def Blocks.handler (b : Blocks) (starred : Bool) : Reader (Option (List Part)) := do
  if ← acceptKeyword "except" then
    require ((← acceptSymbol "*") == starred)
    if !starred && (← isSymbolNext ":") then return some (← b.block)
    discard b.within.expression
    otherName
    return some (← b.block)
  else return none

def Blocks.tryBlock (b : Blocks) : Reader (List Part) := do
  let body ← b.block
  if ← acceptKeyword "finally" then return body ++ (← b.block)
  let starred := (← peekSecond) = some (.symbol "*")
  let handlers ← gather (b.handler starred) b.within.bound
  require !handlers.isEmpty
  let rest ← b.optional "else"
  return body ++ handlers.flatten ++ rest ++ (← b.optional "finally")

/-- The type of a parameter after a colon. -/
def paramHint (w : Within) : TypeHint := fun collecting => do
  if ← acceptSymbol ":" then
    if collecting then discard w.starExpression else discard w.expression

def Blocks.function (b : Blocks) : Reader (List Part) := do
  discard name
  expectSymbol "("
  discard (b.within.params (paramHint b.within) ")" b.within.bound .start)
  expectSymbol ")"
  if ← acceptSymbol "->" then discard b.within.expression
  b.block

def Blocks.classBlock (b : Blocks) : Reader (List Part) := do
  discard name
  if ← acceptSymbol "(" then
    discard (b.within.arguments false b.within.bound false false true)
  b.block

/-! ## Patterns -/

namespace Pattern

/-- How patterns inside others are read. -/
structure Inner where
  within : Within
  read : Reader Unit

/-- A number, perhaps with a minus, and whether it is imaginary. -/
def signedNumber : Reader Bool := do
  discard (acceptSymbol "-")
  plainNumber
where
  plainNumber : Reader Bool := do
    match ← peek with
    | some (.constant (.imaginary _)) => skip; return true
    | some (.constant _) => skip; return false
    | _ => failure

def isNumberNext : Reader Bool := do
  match ← peek with
  | some (.constant _) => return true
  | some (.symbol s) => return s = "-"
  | _ => return false

/-- The sign of a second number. -/
def acceptSign : Reader Bool := do
  if ← acceptSymbol "+" then return true else acceptSymbol "-"

/-- A number, or a real number and an imaginary one with a sign between them. -/
def number : Reader Unit := do
  let imaginary ← signedNumber
  if ← acceptSign then
    require (!imaginary && (← signedNumber.plainNumber))

/-- A literal, if one comes next. -/
def literal (w : Within) : Reader Bool := do
  if ← isNumberNext then
    number
    return true
  match ← peek with
  | some (.literal _ _) =>
    discard w.atom
    return true
  | some (.keyword s) =>
    if ["None", "True", "False"].contains s then
      skip
      return true
    else return false
  | _ => return false

/-- A name that a match gives a value; the underscore is none. -/
def capture : Reader Unit := do
  require ((← peek) != some (.name "_"))
  discard name
  require !((← isSymbolNext ".") || (← isSymbolNext "(") || (← isSymbolNext "="))

def starPattern : Reader Unit := do
  if ← acceptWord "_" then pure () else capture

def Inner.item (p : Inner) : Reader Bool := do
  if ← acceptSymbol "*" then
    starPattern
    return true
  else
    p.read
    return false

/-- Arguments of a class pattern: plain ones first, then those by name. -/
def Inner.classArguments (p : Inner) : (rounds : Nat) → (seenName : Bool) → Reader Unit
  | 0, _ => failure
  | rounds + 1, seenName => do
    if ← acceptSymbol ")" then return ()
    let byName ← isNameBefore "="
    if byName then
      skip
      skip
    else require !seenName
    p.read
    if ← acceptSymbol "," then Inner.classArguments p rounds (seenName || byName)
    else expectSymbol ")"

/-- A pattern that starts with a name: a capture, a value or a class. -/
def Inner.named (p : Inner) : Reader Unit := do
  if ← isNameBefore "." then
    discard (dottedName p.within.bound)
    if ← acceptSymbol "(" then p.classArguments p.within.bound false
    else require !(← isSymbolNext "=")
  else if ← isNameBefore "(" then
    skip
    skip
    p.classArguments p.within.bound false
  else if ← acceptWord "_" then pure ()
  else capture

/-- Patterns up to a closing bracket. A lone pattern in parentheses is a group and has no star. -/
def Inner.sequenceUpTo (p : Inner) (closing : String) (grouping : Bool) : Reader Unit := do
  if ← acceptSymbol closing then return ()
  let starred ← p.item
  if ← acceptSymbol "," then
    discard (sequence (isSymbolNext closing) p.item p.within.bound)
  else require !(grouping && starred)
  expectSymbol closing

/-- The key of a mapping pattern and what it has to match. -/
def Inner.entry (p : Inner) : Reader Unit := do
  if ← literal p.within then pure ()
  else
    require (← isNameBefore ".")
    discard (dottedName p.within.bound)
  expectSymbol ":"
  p.read

/-- The entries up to the closing brace; the rest of a mapping may come last. -/
def Inner.entries (p : Inner) : (rounds : Nat) → Reader Unit
  | 0 => failure
  | rounds + 1 => do
    if ← acceptSymbol "\x7d" then return ()
    if ← acceptSymbol "**" then
      capture
      discard (acceptSymbol ",")
      expectSymbol "\x7d"
    else
      p.entry
      if ← acceptSymbol "," then Inner.entries p rounds else expectSymbol "\x7d"

def Inner.closed (p : Inner) : Reader Unit := do
  if ← literal p.within then return ()
  match ← peek with
  | some (.name _) => p.named
  | some (.symbol s) =>
    skip
    if s = "(" then p.sequenceUpTo ")" true
    else if s = "[" then p.sequenceUpTo "]" false
    else if s = "\x7b" then p.entries p.within.bound
    else failure
  | _ => failure

/-- Alternatives, and a name for what matched. -/
def Inner.step (p : Inner) : Reader Unit := do
  p.closed
  let next : Reader (Option Unit) := do
    if ← acceptSymbol "|" then return some (← p.closed) else return none
  discard (gather next p.within.bound)
  if ← acceptKeyword "as" then capture

def readAt (w : Within) : (depth : Nat) → Reader Unit
  | 0 => failure
  | depth + 1 => (Inner.mk w (readAt w depth)).step

/-- The patterns of a case; more than one make up a sequence. -/
def patterns (w : Within) : Reader Unit := do
  let p : Inner := ⟨w, readAt w w.bound⟩
  let starred ← p.item
  if ← acceptSymbol "," then
    discard (sequence (do return (← isSymbolNext ":") || (← isKeywordNext "if")) p.item w.bound)
  else require !starred

end Pattern

def Blocks.caseBlock (b : Blocks) : Reader (Option (List Part)) := do
  if ← acceptWord "case" then
    Pattern.patterns b.within
    if ← acceptKeyword "if" then discard b.within.named
    return some (← b.block)
  else return none

/-- What a match statement looks at. -/
def matchSubject (w : Within) : Reader Unit := do
  let first ← w.starItem
  if ← acceptSymbol "," then
    discard (sequence (isSymbolNext ":") w.starItem w.bound)
  else require !(isStarred first)

def Blocks.matchBlock (b : Blocks) : Reader (List Part) := do
  expect (.name "match")
  matchSubject b.within
  expectSymbol ":"
  expect .newline
  expect .indent
  let cases ← gather b.caseBlock b.within.bound
  require !cases.isEmpty
  expect .dedent
  return cases.flatten

/-- A class or a function, after its decorators if it has any. -/
def Blocks.definition (b : Blocks) : Reader (List Part) := do
  if ← acceptKeyword "class" then b.classBlock
  else
    discard (acceptKeyword "async")
    expectKeyword "def"
    b.function

def Blocks.decorator (b : Blocks) : Reader (Option Unit) := do
  if ← acceptSymbol "@" then
    discard b.within.named
    expect .newline
    return some ()
  else return none

/-- A statement with a block of its own, if one comes next. -/
def Blocks.compound (b : Blocks) : Reader (Option (List Part)) := do
  if ← isSymbolNext "@" then
    discard (gather b.decorator b.within.bound)
    return some (← b.definition)
  else if (← isKeywordNext "def") || (← isKeywordNext "class") then return some (← b.definition)
  else if ← isKeywordNext "async" then
    if (← peekSecond) = some (.keyword "def") then return some (← b.definition)
    skip
    if ← acceptKeyword "for" then return some (← b.forLoop)
    expectKeyword "with"
    return some (← b.withBlock)
  else if ← acceptKeyword "if" then return some (← b.conditional)
  else if ← acceptKeyword "while" then return some (← b.whileLoop)
  else if ← acceptKeyword "for" then return some (← b.forLoop)
  else if ← acceptKeyword "with" then return some (← b.withBlock)
  else if ← acceptKeyword "try" then return some (← b.tryBlock)
  else return none

/-- One statement, or several on one line. A word that opens a match statement may also be a
name. -/
def Blocks.step (b : Blocks) : Reader (List Part) := do
  match ← b.compound with
  | some parts => return [.block parts]
  | none =>
    if ← isNext (.name "match") then
      (do return [.block (← b.matchBlock)]) <|> simpleLine b.within
    else simpleLine b.within

/-- Read a statement with blocks at most `depth` deep. -/
def statementAt (w : Within) : (depth : Nat) → Reader (List Part)
  | 0 => failure
  | depth + 1 => (Blocks.mk w (statementAt w depth)).step

/-- The outline of a module, if its text is one. -/
def Outline.ofChars? (cs : List Char) : Option (List Part) := do
  let w := Within.ofLength cs.length
  let ts ← moduleTokens cs
  let (parts, rest) ← (Blocks.statements ⟨w, statementAt w w.bound⟩).run ts
  if rest.isEmpty then some parts else none

/-- Read a text as a module, however deep it is. -/
def Outline.read (text : String) : Except HostFault (List Part) :=
  if text.toList.contains '\x00' then .error .nullInCode
  else match Outline.ofChars? text.toList with
    | some parts => .ok parts
    | none => .error .unreadableCode

/-! ## Chains -/

def operatorMarks : List String :=
  ["+", "-", "*", "/", "//", "%", "@", "<<", ">>", "&", "|", "^", "~", "**"]

/-- The length of the longest chain of operators with nothing but operands between them. `begun` is
the length of the chain so far. -/
def chainOf : (begun : Nat) → List Token → Nat
  | begun, [] => begun
  | begun, .symbol s :: ts =>
    if operatorMarks.contains s then chainOf (begun + 1) ts else max begun (chainOf 0 ts)
  | begun, .newline :: ts => max begun (chainOf 0 ts)
  | begun, _ :: ts => chainOf begun ts

/-- The length of the longest chain of operators in a text. Where these bind alike, the tree of the
chain is that deep. -/
def longestChain (text : String) : Nat :=
  match moduleTokens text.toList with
  | some ts => chainOf 0 ts
  | none => 0

end LivePreview.Code
