import LivePreview.Code.FormatLiteral
import LivePreview.Code.Layout
import LivePreview.Code.Reader
import LivePreview.Failure

/-!
# Reading expressions

Every level of binding has a reader built on the next tighter one. Where an expression stands inside
another one it is read through `Within`, which is one level less deep; a token has always been taken
before, so the length of the text bounds the depth. Readers look at most two tokens ahead.
-/

namespace LivePreview.Code

open LivePreview.Text (normalForm)

/-- The forms of expression that are read inside others. -/
inductive Goal where
  | expression
  | disjunction
  | inversion
  | union
  | factor
  | primary
  | items
  deriving DecidableEq, Repr

/-- How parts are read, and a bound on the number of tokens. -/
structure Within where
  bound : Nat
  read : Goal → Reader Expr

namespace Reader

/-- A name, a colon and an equals sign: an assignment inside an expression. -/
def isAssignmentNext : Reader Bool := isNameBefore ":="

/-- Whether a token can start an expression, perhaps one with a star. -/
def startsExpression : Token → Bool
  | .name _ | .constant _ | .literal _ _ => true
  | .keyword s => ["lambda", "not", "await", "None", "True", "False"].contains s
  | .symbol s => ["(", "[", "\x7b", "...", "-", "+", "~", "*"].contains s
  | .newline | .indent | .dedent => false

def isExpressionNext : Reader Bool := do
  return (← peek).any startsExpression

def isLoopNext : Reader Bool := do
  return (← isKeywordNext "for") || (← isKeywordNext "async")

end Reader

open Reader

/-- Operators of one level, each a symbol. -/
def binaryOpIn (table : List (String × BinaryOp)) : Reader (Option BinaryOp) := do
  match ← peek with
  | some (.symbol s) =>
    match table.find? fun entry => entry.1 = s with
    | some (_, op) => do skip; return some op
    | none => return none
  | _ => return none

/-- A chain of operators of one level, which join to the left. -/
def binaryChain (w : Within) (table : List (String × BinaryOp)) (operand : Reader Expr) :
    Reader Expr := do
  let first ← operand
  extend (fun left => do
    match ← binaryOpIn table with
    | some op => return some (.binary left op (← operand))
    | none => return none) w.bound first

/-- An expression, or an assignment to a name. -/
def Within.named (w : Within) : Reader Expr := do
  if ← isAssignmentNext then
    let target ← name
    skip
    return .assignment target (← w.read .expression)
  else w.read .expression

/-- An item of a collection, perhaps one that is unpacked. -/
def Within.starItem (w : Within) : Reader Expr := do
  if ← acceptSymbol "*" then return .starred (← w.read .union)
  else w.named

def isStarred : Expr → Bool
  | .starred _ => true
  | _ => false

mutual

/-- Whether a loop can assign to the expression. -/
def isTarget : Expr → Bool
  | .name _ | .attribute _ _ | .subscript _ _ => true
  | .starred e => !isStarred e && isTarget e
  | .tuple es => areTargets es
  | .list es => areTargets es
  | _ => false

def areTargets : List Expr → Bool
  | [] => true
  | e :: es => isTarget e && areTargets es

end

/-- One target of a loop. -/
def Within.target (w : Within) : Reader Expr := do
  let e ← if ← acceptSymbol "*" then pure (.starred (← w.read .primary)) else w.read .primary
  require (isTarget e)
  return e

/-- The targets of a loop, up to its `in`. -/
def Within.targets (w : Within) : Reader Expr := do
  let first ← w.target
  if ← acceptSymbol "," then
    return .tuple (first :: (← sequence (isKeywordNext "in") w.target w.bound))
  else return first

def Within.condition (w : Within) : Reader (Option Expr) := do
  if ← acceptKeyword "if" then return some (← w.read .disjunction) else return none

/-- One `for` of a comprehension. -/
def Within.clause (w : Within) : Reader (Option Clause) := do
  if ← isLoopNext then
    let isAsync ← acceptKeyword "async"
    expectKeyword "for"
    let target ← w.targets
    expectKeyword "in"
    let source ← w.read .disjunction
    return some (.loop isAsync target source (← gather w.condition w.bound))
  else return none

def Within.clauses (w : Within) : Reader (List Clause) := gather w.clause w.bound

def Within.yield (w : Within) : Reader Expr := do
  expectKeyword "yield"
  if ← acceptKeyword "from" then return .yieldFrom (← w.read .expression)
  else if ← isExpressionNext then return .yield (some (← w.read .items))
  else return .yield none

/-- What follows an opening parenthesis. -/
def Within.parenthesis (w : Within) : Reader Expr := do
  if ← acceptSymbol ")" then return .tuple []
  if ← isKeywordNext "yield" then
    let e ← w.yield
    expectSymbol ")"
    return e
  let first ← w.starItem
  if ← acceptSymbol "," then
    let rest ← sequence (isSymbolNext ")") w.starItem w.bound
    expectSymbol ")"
    return .tuple (first :: rest)
  require !(isStarred first)
  let e ← if ← isLoopNext then pure (.comprehension .generator first (← w.clauses)) else pure first
  expectSymbol ")"
  return e

/-- What follows an opening square bracket. -/
def Within.listDisplay (w : Within) : Reader Expr := do
  if ← acceptSymbol "]" then return .list []
  let first ← w.starItem
  if ← isLoopNext then
    require !(isStarred first)
    let clauses ← w.clauses
    expectSymbol "]"
    return .comprehension .list first clauses
  let rest ← if ← acceptSymbol "," then sequence (isSymbolNext "]") w.starItem w.bound
    else pure []
  expectSymbol "]"
  return .list (first :: rest)

def Within.mappingItem (w : Within) : Reader MappingItem := do
  if ← acceptSymbol "**" then return .unpacked (← w.read .union)
  let key ← w.read .expression
  expectSymbol ":"
  return .pair key (← w.read .expression)

/-- The items of a mapping after its first one. -/
def Within.mappingRest (w : Within) (first : MappingItem) : Reader Expr := do
  let rest ← if ← acceptSymbol "," then sequence (isSymbolNext "\x7d") w.mappingItem w.bound
    else pure []
  expectSymbol "\x7d"
  return .mapping (first :: rest)

/-- What follows an opening brace. -/
def Within.braceDisplay (w : Within) : Reader Expr := do
  if ← acceptSymbol "\x7d" then return .mapping []
  if ← acceptSymbol "**" then
    let value ← w.read .union
    w.mappingRest (.unpacked value)
  else
    let isKey := !(← isAssignmentNext) && !(← isSymbolNext "*")
    let first ← w.starItem
    if isKey && (← isSymbolNext ":") then
      expectSymbol ":"
      let value ← w.read .expression
      if ← isLoopNext then
        let clauses ← w.clauses
        expectSymbol "\x7d"
        return .mappingComprehension first value clauses
      else w.mappingRest (.pair first value)
    else if ← isLoopNext then
      require !(isStarred first)
      let clauses ← w.clauses
      expectSymbol "\x7d"
      return .comprehension .set first clauses
    else
      let rest ← if ← acceptSymbol "," then sequence (isSymbolNext "\x7d") w.starItem w.bound
        else pure []
      expectSymbol "\x7d"
      return .set (first :: rest)

def literalToken : Reader (Option LiteralText) := do
  match ← peek with
  | some (.literal marks body) => skip; return some ⟨marks, body⟩
  | _ => return none

/-- The expression of a field; parentheses allow for line breaks in it. -/
def Within.field (w : Within) (text : List Char) : Option Expr := do
  let ts ← moduleTokens ('(' :: text ++ [')'])
  let (e, _) ← (w.read .items).run ts
  return e

def Within.atom (w : Within) : Reader Expr := do
  match ← peek with
  | some (.name _) => return .name (← name)
  | some (.constant value) => skip; return .constant value
  | some (.literal _ _) =>
    let ls ← gather literalToken w.bound
    literals? w.field ls
  | some (.keyword s) =>
    skip
    if s = "None" then return .constant .none
    else if s = "True" then return .constant .true
    else if s = "False" then return .constant .false
    else failure
  | some (.symbol s) =>
    skip
    if s = "(" then w.parenthesis
    else if s = "[" then w.listDisplay
    else if s = "\x7b" then w.braceDisplay
    else if s = "..." then return .constant .ellipsis
    else failure
  | _ => failure

/-- The arguments of a call, and which kinds may still follow. -/
structure Arguments where
  positional : List Expr
  keywords : List Keyword

inductive Argument where
  | positional (value : Expr)
  | keyword (value : Keyword)

/-- One argument. After a keyword no plain argument may follow, and after an unpacked mapping no
unpacked sequence either; a generator has to be the only argument. -/
def Within.argument (w : Within) (seenKeyword seenMapping : Bool) : Reader Argument := do
  if ← acceptSymbol "*" then
    require !seenMapping
    return .positional (.starred (← w.read .expression))
  else if ← acceptSymbol "**" then return .keyword (.unpacked (← w.read .expression))
  else if ← isNameBefore "=" then
    let key ← name
    skip
    return .keyword (.named key (← w.read .expression))
  else
    require !seenKeyword
    return .positional (← w.named)

def isMapping : Keyword → Bool
  | .unpacked _ => true
  | .named _ _ => false

/-- The arguments up to the closing parenthesis, which is taken too. -/
def Within.arguments (w : Within) (generators : Bool) : (rounds : Nat) →
    (seenKeyword seenMapping : Bool) → (isFirst : Bool) → Reader Arguments
  | 0, _, _, _ => failure
  | rounds + 1, seenKeyword, seenMapping, isFirst => do
    if ← acceptSymbol ")" then return ⟨[], []⟩
    -- After an argument comes a comma or the end.
    let others (seenKeyword seenMapping : Bool) : Reader Arguments := do
      if ← acceptSymbol "," then
        Within.arguments w generators rounds seenKeyword seenMapping false
      else
        expectSymbol ")"
        return ⟨[], []⟩
    match ← w.argument seenKeyword seenMapping with
    | .positional value =>
      if generators && isFirst && !isStarred value && (← isLoopNext) then
        let clauses ← w.clauses
        expectSymbol ")"
        return ⟨[.comprehension .generator value clauses], []⟩
      let rest ← others seenKeyword seenMapping
      return { rest with positional := value :: rest.positional }
    | .keyword value =>
      let rest ← others true (seenMapping || isMapping value)
      return { rest with keywords := value :: rest.keywords }

/-- One bound of a slice, if there is one before the next colon, comma or bracket. -/
def Within.sliceBound (w : Within) : Reader (Option Expr) := do
  if (← isSymbolNext ":") || (← isSymbolNext ",") || (← isSymbolNext "]") then return none
  else return some (← w.read .expression)

/-- What follows the first colon of a slice. -/
def Within.sliceAfter (w : Within) (lower : Option Expr) : Reader Expr := do
  let upper ← w.sliceBound
  let step ← if ← acceptSymbol ":" then w.sliceBound else pure none
  return .slice lower upper step

def Within.slice (w : Within) : Reader Expr := do
  if ← acceptSymbol ":" then w.sliceAfter none
  else if ← isAssignmentNext then w.named
  else
    let e ← w.read .expression
    if ← acceptSymbol ":" then w.sliceAfter (some e) else return e

def Within.sliceItem (w : Within) : Reader Expr := do
  if ← acceptSymbol "*" then return .starred (← w.read .expression) else w.slice

/-- The index of a subscript, up to the closing bracket, which is taken too. -/
def Within.index (w : Within) : Reader Expr := do
  let first ← w.sliceItem
  if ← acceptSymbol "," then
    let rest ← sequence (isSymbolNext "]") w.sliceItem w.bound
    expectSymbol "]"
    return .tuple (first :: rest)
  else
    expectSymbol "]"
    return if isStarred first then .tuple [first] else first

/-- One attribute, call or subscript after an expression. -/
def Within.trailer (w : Within) (e : Expr) : Reader (Option Expr) := do
  if ← acceptSymbol "." then return some (.attribute e (← name))
  else if ← acceptSymbol "(" then
    let args ← w.arguments true w.bound false false true
    return some (.call e args.positional args.keywords)
  else if ← acceptSymbol "[" then return some (.subscript e (← w.index))
  else return none

def Within.primary (w : Within) : Reader Expr := do
  let e ← w.atom
  extend w.trailer w.bound e

def Within.power (w : Within) : Reader Expr := do
  let base ← if ← acceptKeyword "await" then pure (.await (← w.read .primary)) else w.primary
  if ← acceptSymbol "**" then return .binary base .pow (← w.read .factor) else return base

def Within.factor (w : Within) : Reader Expr := do
  if ← acceptSymbol "+" then return .unary .plus (← w.read .factor)
  else if ← acceptSymbol "-" then return .unary .minus (← w.read .factor)
  else if ← acceptSymbol "~" then return .unary .invert (← w.read .factor)
  else w.power

def productOps : List (String × BinaryOp) :=
  [("*", .mul), ("/", .div), ("//", .floorDiv), ("%", .mod), ("@", .matMul)]

def sumOps : List (String × BinaryOp) := [("+", .add), ("-", .sub)]

def shiftOps : List (String × BinaryOp) := [("<<", .shiftLeft), (">>", .shiftRight)]

def Within.product (w : Within) : Reader Expr := binaryChain w productOps w.factor

def Within.sum (w : Within) : Reader Expr := binaryChain w sumOps w.product

def Within.shift (w : Within) : Reader Expr := binaryChain w shiftOps w.sum

def Within.meet (w : Within) : Reader Expr := binaryChain w [("&", .bitAnd)] w.shift

def Within.exclusive (w : Within) : Reader Expr := binaryChain w [("^", .bitXor)] w.meet

def Within.union (w : Within) : Reader Expr := binaryChain w [("|", .bitOr)] w.exclusive

def compareSymbols : List (String × CompareOp) :=
  [("==", .equal), ("!=", .notEqual), ("<=", .lessEqual), ("<", .less), (">=", .greaterEqual),
    (">", .greater)]

def compareOp : Reader (Option CompareOp) := do
  match ← peek with
  | some (.symbol s) =>
    match compareSymbols.find? fun entry => entry.1 = s with
    | some (_, op) => do skip; return some op
    | none => return none
  | some (.keyword s) =>
    if s = "in" then
      skip
      return some .member
    else if s = "is" then
      skip
      if ← acceptKeyword "not" then return some .notSame else return some .same
    else if s = "not" && (← peekSecond) = some (.keyword "in") then
      skip
      skip
      return some .notMember
    else return none
  | _ => return none

def Within.comparison (w : Within) : Reader (Option Comparison) := do
  match ← compareOp with
  | some op => return some (.step op (← w.union))
  | none => return none

def Within.compare (w : Within) : Reader Expr := do
  let first ← w.union
  match ← gather w.comparison w.bound with
  | [] => return first
  | rest => return .compare first rest

def Within.inversion (w : Within) : Reader Expr := do
  if ← acceptKeyword "not" then return .unary .not (← w.read .inversion) else w.compare

/-- Operands with one keyword between them. -/
def Within.chain (w : Within) (keyword : String) (op : BoolOp) (operand : Reader Expr) :
    Reader Expr := do
  let first ← operand
  let next : Reader (Option Expr) := do
    if ← acceptKeyword keyword then return some (← operand) else return none
  match ← gather next w.bound with
  | [] => return first
  | rest => return .boolean op (first :: rest)

def Within.conjunction (w : Within) : Reader Expr := w.chain "and" .and w.inversion

def Within.disjunction (w : Within) : Reader Expr := w.chain "or" .or w.conjunction

/-- The parameters read so far decide what may follow. -/
structure ParamState where
  /-- The last parameter first. -/
  found : List LambdaParam
  hasDefault : Bool
  hasSlash : Bool
  hasStar : Bool
  /-- A bare star still needs a parameter after it. -/
  needsParam : Bool
  /-- Nothing may follow. -/
  isLast : Bool

def ParamState.start : ParamState := ⟨[], false, false, false, false, false⟩

/-- What may stand between the name of a parameter and its default; a collecting parameter may have
more. -/
abbrev TypeHint := (collecting : Bool) → Reader Unit

def noHint : TypeHint := fun _ => pure ()

def asPositionalOnly : LambdaParam → LambdaParam
  | .param _ name default => .param .positionalOnly name default

/-- One parameter or mark of a parameter list. -/
def Within.param (w : Within) (hint : TypeHint) (st : ParamState) :
    Reader ParamState := do
  require !st.isLast
  if ← acceptSymbol "/" then
    require (!st.hasSlash && !st.hasStar && !st.found.isEmpty)
    return { st with found := st.found.map asPositionalOnly, hasSlash := true }
  else if ← acceptSymbol "**" then
    require !st.needsParam
    let id ← name
    hint false
    return { st with found := .param .keywordRest id none :: st.found, isLast := true }
  else if ← acceptSymbol "*" then
    require !st.hasStar
    if ← isSymbolNext "," then return { st with hasStar := true, needsParam := true }
    else
      let id ← name
      hint true
      return { st with found := .param .rest id none :: st.found, hasStar := true }
  else
    let id ← name
    hint false
    let default ← if ← acceptSymbol "=" then pure (some (← w.read .expression)) else pure none
    require (st.hasStar || default.isSome || !st.hasDefault)
    let kind := if st.hasStar then ParamKind.keywordOnly else .positional
    return { st with
      found := .param kind id default :: st.found
      hasDefault := st.hasDefault || default.isSome
      needsParam := false }

/-- The parameters up to the closing token, which stays. -/
def Within.params (w : Within) (hint : TypeHint) (closing : String) :
    (rounds : Nat) → ParamState → Reader (List LambdaParam)
  | 0, _ => failure
  | rounds + 1, st => do
    if ← isSymbolNext closing then
      require !st.needsParam
      return st.found.reverse
    else
      let st ← w.param hint st
      if ← acceptSymbol "," then w.params hint closing rounds st
      else
        require ((← isSymbolNext closing) && !st.needsParam)
        return st.found.reverse

def Within.lambda (w : Within) : Reader Expr := do
  expectKeyword "lambda"
  let params ← w.params noHint ":" w.bound .start
  expectSymbol ":"
  return .lambda params (← w.read .expression)

def Within.expression (w : Within) : Reader Expr := do
  if ← isKeywordNext "lambda" then w.lambda
  else
    let body ← w.disjunction
    if ← acceptKeyword "if" then
      let test ← w.disjunction
      expectKeyword "else"
      return .conditional test body (← w.read .expression)
    else return body

/-- An expression, or a union that is unpacked. -/
def Within.starExpression (w : Within) : Reader Expr := do
  if ← acceptSymbol "*" then return .starred (← w.union) else w.expression

/-- One item or, with commas, a tuple without parentheses. -/
def Within.tupleOf (w : Within) (item : Reader Expr) : Reader Expr := do
  let first ← item
  if ← acceptSymbol "," then
    return .tuple (first :: (← sequence (do return !(← isExpressionNext)) item w.bound))
  else return first

def Within.items (w : Within) : Reader Expr := w.tupleOf w.starExpression

/-- Read one form of expression, its parts being read as `w` says. -/
def Within.step (w : Within) : Goal → Reader Expr
  | .expression => w.expression
  | .disjunction => w.disjunction
  | .inversion => w.inversion
  | .union => w.union
  | .factor => w.factor
  | .primary => w.primary
  | .items => w.items

/-- Read an expression that is at most `depth` expressions deep. -/
def readAt : (depth : Nat) → Goal → Reader Expr
  | 0 => fun _ => failure
  | depth + 1 => (Within.mk depth (readAt depth)).step

/-- How the parts of a text of this length are read. -/
def Within.ofLength (length : Nat) : Within := ⟨length + 2, readAt (length + 2)⟩

/-- Line ends up to the end of the text. -/
def atEnd (ts : List Token) : Bool := ts.all (· = .newline)

/-- The expression that a whole text is. -/
def Expr.ofChars? (cs : List Char) : Option Expr := do
  let w := Within.ofLength cs.length
  let ts ← tokens (unifyNewlines cs)
  let (e, rest) ← (w.tupleOf w.expression).run ts
  if atEnd rest then some e else none

/-- Read a text as an expression, however deep it is. -/
def Expr.read (text : String) : Except HostFault Expr :=
  if text.toList.contains '\x00' then .error .nullInCode
  else match Expr.ofChars? text.toList with
    | some e => .ok e
    | none => .error .unreadableCode

end LivePreview.Code
