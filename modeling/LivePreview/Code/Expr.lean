import LivePreview.Code.Binary64
import LivePreview.Text.Points

/-!
# Expressions of the target language

The trees that templates embed and generated modules are made of. Parentheses, comments and layout
are not part of a tree; two spellings of one expression have one tree. Names are in normal form when
they were read from an expression, and as given when the generator put them there.
-/

namespace LivePreview.Code

open LivePreview.Text (Points)

inductive UnaryOp where
  | invert
  | not
  | plus
  | minus
  deriving DecidableEq, Repr

inductive BinaryOp where
  | add
  | sub
  | mul
  | matMul
  | div
  | mod
  | pow
  | shiftLeft
  | shiftRight
  | bitOr
  | bitXor
  | bitAnd
  | floorDiv
  deriving DecidableEq, Repr

inductive BoolOp where
  | and
  | or
  deriving DecidableEq, Repr

inductive CompareOp where
  | equal
  | notEqual
  | less
  | lessEqual
  | greater
  | greaterEqual
  | same
  | notSame
  | member
  | notMember
  deriving DecidableEq, Repr

/-- What a comprehension builds; mappings are apart. -/
inductive Collects where
  | list
  | set
  | generator
  deriving DecidableEq, Repr

inductive Constant where
  | none
  | true
  | false
  | ellipsis
  | integer (value : Nat)
  | real (value : Binary64)
  | imaginary (value : Binary64)
  /-- Text; `marked` when its first literal was written with a `u` in front. -/
  | text (value : Points) (marked : Bool)
  | bytes (value : List Nat)
  deriving DecidableEq, Repr, Inhabited

inductive ParamKind where
  | positionalOnly
  | positional
  | rest
  | keywordOnly
  | keywordRest
  deriving DecidableEq, Repr

mutual

inductive Expr where
  | constant (value : Constant)
  | name (id : String)
  | attribute (value : Expr) (name : String)
  | subscript (value index : Expr)
  | slice (lower upper step : Option Expr)
  | starred (value : Expr)
  | call (function : Expr) (args : List Expr) (keywords : List Keyword)
  | tuple (items : List Expr)
  | list (items : List Expr)
  | set (items : List Expr)
  | mapping (items : List MappingItem)
  | boolean (op : BoolOp) (operands : List Expr)
  | binary (left : Expr) (op : BinaryOp) (right : Expr)
  | unary (op : UnaryOp) (operand : Expr)
  | compare (first : Expr) (rest : List Comparison)
  | conditional (test body orElse : Expr)
  | lambda (params : List LambdaParam) (body : Expr)
  | comprehension (collects : Collects) (item : Expr) (clauses : List Clause)
  | mappingComprehension (key value : Expr) (clauses : List Clause)
  | assignment (target : String) (value : Expr)
  | yield (value : Option Expr)
  | yieldFrom (value : Expr)
  | await (value : Expr)
  | format (pieces : List Piece)

/-- A keyword argument, or an unpacked mapping. -/
inductive Keyword where
  | named (name : String) (value : Expr)
  | unpacked (value : Expr)

inductive MappingItem where
  | pair (key value : Expr)
  | unpacked (value : Expr)

inductive Comparison where
  | step (op : CompareOp) (value : Expr)

/-- One `for` of a comprehension with its conditions. -/
inductive Clause where
  | loop (isAsync : Bool) (target source : Expr) (conditions : List Expr)

inductive LambdaParam where
  | param (kind : ParamKind) (name : String) (default : Option Expr)

/-- A part of a format literal: text, or a field with its conversion and format. -/
inductive Piece where
  | text (value : Points)
  | field (value : Expr) (conversion : Option Char) (spec : Option (List Piece))

end

instance : Inhabited Expr := ⟨.constant .none⟩

/-- A text constant. -/
def Expr.ofText (s : String) : Expr := .constant (.text (Points.ofString s) false)

/-- Whether the constant counts as an integer; the truth values do. -/
def Constant.isInteger : Constant → Bool
  | .integer _ | .true | .false => Bool.true
  | _ => Bool.false

mutual

/-- The expression and all that it is made of, the whole before its parts. -/
def Expr.parts : Expr → List Expr
  | .constant c => [.constant c]
  | .name id => [.name id]
  | .attribute v a => .attribute v a :: v.parts
  | .subscript v i => .subscript v i :: (v.parts ++ i.parts)
  | .slice l u s => .slice l u s :: (optionParts l ++ optionParts u ++ optionParts s)
  | .starred v => .starred v :: v.parts
  | .call f as ks => .call f as ks :: (f.parts ++ listParts as ++ keywordParts ks)
  | .tuple es => .tuple es :: listParts es
  | .list es => .list es :: listParts es
  | .set es => .set es :: listParts es
  | .mapping items => .mapping items :: mappingParts items
  | .boolean op es => .boolean op es :: listParts es
  | .binary l op r => .binary l op r :: (l.parts ++ r.parts)
  | .unary op e => .unary op e :: e.parts
  | .compare e rest => .compare e rest :: (e.parts ++ comparisonParts rest)
  | .conditional t b o => .conditional t b o :: (b.parts ++ t.parts ++ o.parts)
  | .lambda ps b => .lambda ps b :: (lambdaParts ps ++ b.parts)
  | .comprehension k e cs => .comprehension k e cs :: (e.parts ++ clauseParts cs)
  | .mappingComprehension k v cs =>
    .mappingComprehension k v cs :: (k.parts ++ v.parts ++ clauseParts cs)
  | .assignment n v => .assignment n v :: .name n :: v.parts
  | .yield v => .yield v :: optionParts v
  | .yieldFrom v => .yieldFrom v :: v.parts
  | .await v => .await v :: v.parts
  | .format ps => .format ps :: pieceParts ps

def optionParts : Option Expr → List Expr
  | none => []
  | some e => e.parts

def listParts : List Expr → List Expr
  | [] => []
  | e :: es => e.parts ++ listParts es

def keywordParts : List Keyword → List Expr
  | [] => []
  | .named _ v :: ks => v.parts ++ keywordParts ks
  | .unpacked v :: ks => v.parts ++ keywordParts ks

def mappingParts : List MappingItem → List Expr
  | [] => []
  | .pair k v :: items => k.parts ++ v.parts ++ mappingParts items
  | .unpacked v :: items => v.parts ++ mappingParts items

def comparisonParts : List Comparison → List Expr
  | [] => []
  | .step _ v :: rest => v.parts ++ comparisonParts rest

def clauseParts : List Clause → List Expr
  | [] => []
  | .loop _ t s cs :: rest => t.parts ++ s.parts ++ listParts cs ++ clauseParts rest

def lambdaParts : List LambdaParam → List Expr
  | [] => []
  | .param _ _ d :: ps => optionParts d ++ lambdaParts ps

def pieceParts : List Piece → List Expr
  | [] => []
  | .text _ :: ps => pieceParts ps
  | .field v _ none :: ps => v.parts ++ pieceParts ps
  | .field v _ (some spec) :: ps => v.parts ++ pieceParts spec ++ pieceParts ps

end

end LivePreview.Code
