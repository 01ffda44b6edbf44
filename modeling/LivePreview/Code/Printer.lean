import LivePreview.Code.Expr
import LivePreview.Code.Quoted

/-!
# The text of an expression

Each form of expression has a level of binding, and a place in a larger expression asks for a least
level; a form that binds less tightly than its place asks gets parentheses. Inside the field of a
format literal no backslash may be written, so text there is quoted in open form.
-/

namespace LivePreview.Code

open LivePreview.Text (Points)

namespace Level

def tuple : Nat := 2
def yield : Nat := 3
def test : Nat := 4
def or : Nat := 5
def and : Nat := 6
def not : Nat := 7
def compare : Nat := 8
def bitOr : Nat := 9
def bitXor : Nat := 10
def bitAnd : Nat := 11
def shift : Nat := 12
def sum : Nat := 13
def product : Nat := 14
def sign : Nat := 15
def power : Nat := 16
def await : Nat := 17
def atom : Nat := 18

/-- The next tighter level; nothing binds more tightly than an atom. -/
def next (level : Nat) : Nat := min (level + 1) atom

end Level

def UnaryOp.text : UnaryOp → List Char
  | .invert => ['~']
  | .not => ['n', 'o', 't', ' ']
  | .plus => ['+']
  | .minus => ['-']

def UnaryOp.level : UnaryOp → Nat
  | .not => Level.not
  | _ => Level.sign

def BinaryOp.text : BinaryOp → List Char
  | .add => ['+']
  | .sub => ['-']
  | .mul => ['*']
  | .matMul => ['@']
  | .div => ['/']
  | .mod => ['%']
  | .pow => ['*', '*']
  | .shiftLeft => ['<', '<']
  | .shiftRight => ['>', '>']
  | .bitOr => ['|']
  | .bitXor => ['^']
  | .bitAnd => ['&']
  | .floorDiv => ['/', '/']

def BinaryOp.level : BinaryOp → Nat
  | .add | .sub => Level.sum
  | .mul | .matMul | .div | .mod | .floorDiv => Level.product
  | .pow => Level.power
  | .shiftLeft | .shiftRight => Level.shift
  | .bitOr => Level.bitOr
  | .bitXor => Level.bitXor
  | .bitAnd => Level.bitAnd

/-- The level that the left operand has to reach. -/
def BinaryOp.leftLevel (op : BinaryOp) : Nat :=
  if op = .pow then Level.next op.level else op.level

def BinaryOp.rightLevel (op : BinaryOp) : Nat :=
  if op = .pow then op.level else Level.next op.level

def BoolOp.text : BoolOp → List Char
  | .and => ['a', 'n', 'd']
  | .or => ['o', 'r']

def BoolOp.level : BoolOp → Nat
  | .and => Level.and
  | .or => Level.or

def CompareOp.text : CompareOp → List Char
  | .equal => "==".toList
  | .notEqual => "!=".toList
  | .less => "<".toList
  | .lessEqual => "<=".toList
  | .greater => ">".toList
  | .greaterEqual => ">=".toList
  | .same => "is".toList
  | .notSame => "is not".toList
  | .member => "in".toList
  | .notMember => "not in".toList

/-- Text in parentheses if the condition holds. -/
def parenthesized (condition : Bool) (text : List Char) : List Char :=
  if condition then '(' :: (text ++ [')']) else text

/-- Texts with a comma and a space between them. -/
def commaSeparated : List (List Char) → List Char
  | [] => []
  | [t] => t
  | t :: ts => t ++ ',' :: ' ' :: commaSeparated ts

/-- The items of a tuple; a single one is followed by a comma. -/
def tupleItems : List (List Char) → List Char
  | [t] => t ++ [',']
  | ts => commaSeparated ts

def Constant.print (inField : Bool) : Constant → List Char
  | .none => "None".toList
  | .true => "True".toList
  | .false => "False".toList
  | .ellipsis => "...".toList
  | .integer n => Nat.toDigits 10 n
  | .real x => x.text Bool.true
  | .imaginary x => x.text Bool.false ++ ['j']
  | .text value marked =>
    (if marked then ['u'] else []) ++ if inField then openQuoted allQuotes value else quoted value
  | .bytes value => quotedBytes value

/-- Whether a parameter list needs a bare star before this parameter: it is the first one given by
keyword only, and no collecting parameter came before it. -/
def needsStar (seenStar : Bool) (kind : ParamKind) : Bool := kind = .keywordOnly && !seenStar

/-- Text of a format literal with its braces doubled. -/
def doubleBraces (ps : Points) : Points :=
  ps.flatMap fun p => if p = 123 || p = 125 then [p, p] else [p]

/-- The text of a format literal whose pieces are given in order, each with the mark of plain text.
The quotes narrow down from piece to piece. -/
def formatBody (quotes : List Quote) : List (Points × Bool) → List Char × List Quote
  | [] => ([], quotes)
  | (value, isText) :: rest =>
    let (body, fitting) := openLiteral quotes isText value
    let (tail, chosen) := formatBody fitting rest
    (body ++ tail, chosen)

mutual

/-- The text of an expression at a place that asks for the level. -/
def Expr.print (inField : Bool) (level : Nat) : Expr → List Char
  | .constant c => c.print inField
  | .name id => id.toList
  | .attribute v name =>
    v.print inField Level.atom ++
      (match v with
      | .constant c => if c.isInteger then [' '] else []
      | _ => []) ++ '.' :: name.toList
  | .subscript v index =>
    v.print inField Level.atom ++ '[' ::
      ((match index with
      | .tuple (item :: items) => tupleItems (printList inField Level.test (item :: items))
      | other => other.print inField Level.test) ++ [']'])
  | .slice lower upper step =>
    printOption inField lower ++ ':' ::
      (printOption inField upper ++
        match step with
        | some s => ':' :: s.print inField Level.test
        | none => [])
  | .starred v => '*' :: v.print inField Level.bitOr
  | .call f args keywords =>
    f.print inField Level.atom ++ '(' ::
      (commaSeparated (printList inField Level.test args ++ printKeywords inField keywords)
        ++ [')'])
  | .tuple items =>
    parenthesized (items.isEmpty || Level.tuple < level)
      (tupleItems (printList inField Level.test items))
  | .list items => '[' :: (commaSeparated (printList inField Level.test items) ++ [']'])
  | .set items =>
    if items.isEmpty then "{*()}".toList
    else '{' :: (commaSeparated (printList inField Level.test items) ++ ['}'])
  | .mapping items => '{' :: (commaSeparated (printMapping inField items) ++ ['}'])
  | .boolean op operands =>
    parenthesized (op.level < level) (printChain inField op op.level operands)
  | .binary l op r =>
    parenthesized (op.level < level)
      (l.print inField op.leftLevel ++ ' ' :: op.text ++ ' ' :: r.print inField op.rightLevel)
  | .unary op v => parenthesized (op.level < level) (op.text ++ v.print inField op.level)
  | .compare first rest =>
    parenthesized (Level.compare < level)
      (first.print inField (Level.next Level.compare) ++ printComparisons inField rest)
  | .conditional test body orElse =>
    parenthesized (Level.test < level)
      (body.print inField (Level.next Level.test) ++ " if ".toList ++
        test.print inField (Level.next Level.test) ++ " else ".toList ++
        orElse.print inField Level.test)
  | .lambda params body =>
    parenthesized (Level.test < level)
      ("lambda".toList ++ (if params.isEmpty then [] else ' ' :: commaSeparated
          (printParams inField false params)) ++ ':' :: ' ' :: body.print inField Level.test)
  | .comprehension collects item clauses =>
    let body := item.print inField Level.test ++ printClauses inField clauses
    match collects with
    | .list => '[' :: (body ++ [']'])
    | .set => '{' :: (body ++ ['}'])
    | .generator => '(' :: (body ++ [')'])
  | .mappingComprehension key value clauses =>
    '{' :: (key.print inField Level.test ++ ':' :: ' ' :: value.print inField Level.test ++
      printClauses inField clauses ++ ['}'])
  | .assignment target value =>
    parenthesized true (target.toList ++ " := ".toList ++ value.print inField Level.atom)
  | .yield none => parenthesized (Level.yield < level) "yield".toList
  | .yield (some v) =>
    parenthesized (Level.yield < level) ("yield ".toList ++ v.print inField Level.atom)
  | .yieldFrom v =>
    parenthesized (Level.yield < level) ("yield from ".toList ++ v.print inField Level.atom)
  | .await v =>
    parenthesized (Level.await < level) ("await ".toList ++ v.print inField Level.atom)
  | .format pieces =>
    let parts := printPieces pieces
    'f' ::
      if inField then openQuoted allQuotes (parts.flatMap (·.1))
      else
        let (body, quotes) := formatBody allQuotes parts
        enclose body quotes

def printOption (inField : Bool) : Option Expr → List Char
  | none => []
  | some e => e.print inField Level.test

def printList (inField : Bool) (level : Nat) : List Expr → List (List Char)
  | [] => []
  | e :: es => e.print inField level :: printList inField level es

def printKeywords (inField : Bool) : List Keyword → List (List Char)
  | [] => []
  | .named name v :: ks =>
    (name.toList ++ '=' :: v.print inField Level.test) :: printKeywords inField ks
  | .unpacked v :: ks =>
    ('*' :: '*' :: v.print inField Level.test) :: printKeywords inField ks

def printMapping (inField : Bool) : List MappingItem → List (List Char)
  | [] => []
  | .pair k v :: items =>
    (k.print inField Level.test ++ ':' :: ' ' :: v.print inField Level.test) ::
      printMapping inField items
  | .unpacked v :: items =>
    ('*' :: '*' :: v.print inField Level.bitOr) :: printMapping inField items

/-- The operands of a chain; each has to bind more tightly than the one before. -/
def printChain (inField : Bool) (op : BoolOp) (level : Nat) : List Expr → List Char
  | [] => []
  | e :: es =>
    e.print inField (Level.next level) ++
      if es.isEmpty then []
      else ' ' :: op.text ++ ' ' :: printChain inField op (Level.next level) es

def printComparisons (inField : Bool) : List Comparison → List Char
  | [] => []
  | .step op v :: rest =>
    ' ' :: op.text ++ ' ' :: v.print inField (Level.next Level.compare) ++
      printComparisons inField rest

def printClauses (inField : Bool) : List Clause → List Char
  | [] => []
  | .loop isAsync target source conditions :: rest =>
    (if isAsync then " async for ".toList else " for ".toList) ++
      target.print inField Level.tuple ++ " in ".toList ++
      source.print inField (Level.next Level.test) ++ printConditions inField conditions ++
      printClauses inField rest

def printConditions (inField : Bool) : List Expr → List Char
  | [] => []
  | e :: es =>
    " if ".toList ++ e.print inField (Level.next Level.test) ++ printConditions inField es

/-- The parameters with the marks between their kinds, each mark a text of its own. -/
def printParams (inField seenStar : Bool) : List LambdaParam → List (List Char)
  | [] => []
  | .param kind name default :: ps =>
    let sign := match kind with
      | .rest => ['*']
      | .keywordRest => ['*', '*']
      | _ => []
    let text := sign ++ name.toList ++
      match default with
      | some d => '=' :: d.print inField Level.test
      | none => []
    let slash := match kind, ps with
      | .positionalOnly, .param .positionalOnly _ _ :: _ => []
      | .positionalOnly, _ => [['/']]
      | _, _ => []
    (if needsStar seenStar kind then [['*'], text] else [text]) ++ slash ++
      printParams inField (seenStar || kind = .rest || kind = .keywordOnly) ps

/-- The pieces of a format literal before quoting, each with the mark of plain text. -/
def printPieces : List Piece → List (Points × Bool)
  | [] => []
  | .text value :: ps => (doubleBraces value, true) :: printPieces ps
  | .field value conversion spec :: ps =>
    let text := value.print true (Level.next Level.test)
    let apart := if text.head? = some '{' then [' '] else []
    let mark := match conversion with
      | some c => ['!', c]
      | none => []
    let tail := match spec with
      | some inner => 58 :: (printPieces inner).flatMap (·.1)
      | none => []
    (Points.ofChars ('{' :: (apart ++ text ++ mark)) ++ tail ++ [125], false) :: printPieces ps

end

/-- The text of an expression that stands alone. -/
def Expr.text (e : Expr) : String := String.ofList (e.print false Level.test)

end LivePreview.Code
