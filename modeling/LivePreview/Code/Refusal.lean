import LivePreview.Code.Printer
import LivePreview.Failure

/-!
# Expressions that cannot be written

A tree can be well formed and still have no text: an integer with too many digits has no decimal
form, and a field of a format literal may not hold a backslash. A name that is spelled as a constant
is refused before.
-/

namespace LivePreview.Code

/-- The most decimal digits that an integer may have in a text. -/
def digitLimit : Nat := 4300

def constantNames : List String := ["None", "True", "False"]

/-- The first name in the expression that is spelled as a constant. -/
def Expr.constantName? (e : Expr) : Option String :=
  e.parts.findSome? fun
    | .name id => if constantNames.contains id then some id else none
    | _ => none

def Constant.unwritable? : Constant → Option HostFault
  | .integer n => if Nat.pow 10 digitLimit ≤ n then Option.some .integerTooLong else Option.none
  | _ => Option.none

mutual

/-- The first reason, in the order of the text, why the expression cannot be written. -/
def Expr.unwritable? : Expr → Option HostFault
  | .constant c => c.unwritable?
  | .name _ => none
  | .attribute v _ => v.unwritable?
  | .subscript v i => v.unwritable? <|> i.unwritable?
  | .slice l u s => unwritableOption l <|> unwritableOption u <|> unwritableOption s
  | .starred v => v.unwritable?
  | .call f as ks => f.unwritable? <|> unwritableList as <|> unwritableKeywords ks
  | .tuple es => unwritableList es
  | .list es => unwritableList es
  | .set es => unwritableList es
  | .mapping items => unwritableMapping items
  | .boolean _ es => unwritableList es
  | .binary l _ r => l.unwritable? <|> r.unwritable?
  | .unary _ e => e.unwritable?
  | .compare e rest => e.unwritable? <|> unwritableComparisons rest
  | .conditional t b o => b.unwritable? <|> t.unwritable? <|> o.unwritable?
  | .lambda ps b => unwritableParams ps <|> b.unwritable?
  | .comprehension _ e cs => e.unwritable? <|> unwritableClauses cs
  | .mappingComprehension k v cs => k.unwritable? <|> v.unwritable? <|> unwritableClauses cs
  | .assignment _ v => v.unwritable?
  | .yield v => unwritableOption v
  | .yieldFrom v => v.unwritable?
  | .await v => v.unwritable?
  | .format ps => unwritablePieces ps

def unwritableOption : Option Expr → Option HostFault
  | none => none
  | some e => e.unwritable?

def unwritableList : List Expr → Option HostFault
  | [] => none
  | e :: es => e.unwritable? <|> unwritableList es

def unwritableKeywords : List Keyword → Option HostFault
  | [] => none
  | .named _ v :: ks => v.unwritable? <|> unwritableKeywords ks
  | .unpacked v :: ks => v.unwritable? <|> unwritableKeywords ks

def unwritableMapping : List MappingItem → Option HostFault
  | [] => none
  | .pair k v :: items => k.unwritable? <|> v.unwritable? <|> unwritableMapping items
  | .unpacked v :: items => v.unwritable? <|> unwritableMapping items

def unwritableComparisons : List Comparison → Option HostFault
  | [] => none
  | .step _ v :: rest => v.unwritable? <|> unwritableComparisons rest

def unwritableClauses : List Clause → Option HostFault
  | [] => none
  | .loop _ t s cs :: rest =>
    t.unwritable? <|> s.unwritable? <|> unwritableList cs <|> unwritableClauses rest

def unwritableParams : List LambdaParam → Option HostFault
  | [] => none
  | .param _ _ d :: ps => unwritableOption d <|> unwritableParams ps

def unwritablePieces : List Piece → Option HostFault
  | [] => none
  | .text _ :: ps => unwritablePieces ps
  | .field v _ none :: ps => unwritableField v <|> unwritablePieces ps
  | .field v _ (some spec) :: ps =>
    unwritableField v <|> unwritablePieces spec <|> unwritablePieces ps

def unwritableField (v : Expr) : Option HostFault :=
  v.unwritable? <|>
    if (v.print true (Level.next Level.test)).contains '\\' then some .backslashInField else none

end

end LivePreview.Code
