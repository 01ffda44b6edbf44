import LivePreview.Code.Printer

/-!
# Generated statements

The statements that generated modules are made of, and their text. A block is set in by four
columns; a class or a function has an empty line before it unless it comes first. The text of a
class opens with its documentation.
-/

namespace LivePreview.Code

/-- A parameter of a function. -/
structure Parameter where
  name : String
  byKeyword : Bool
  hint : Option Expr
  default : Option Expr

/-- A name brought in from a module, and the name it gets. -/
structure Imported where
  name : String
  renamed : Option String
  deriving DecidableEq, Repr

inductive Statement where
  | importModule (module : String)
  | importFrom (module : String) (names : List Imported)
  | classDef (name base doc : String) (body : List Statement)
  | function (name : String) (params : List Parameter) (body : List Statement)
  | assign (target value : Expr)
  | expression (value : Expr)
  | return (value : Expr)
  | pass

instance : Inhabited Statement := ⟨.pass⟩

def Imported.print (i : Imported) : List Char :=
  i.name.toList ++
    match i.renamed with
    | some other => " as ".toList ++ other.toList
    | none => []

def Parameter.print (p : Parameter) : List Char :=
  p.name.toList ++
    (match p.hint with
    | some e => ':' :: ' ' :: e.print false Level.test
    | none => []) ++
    match p.default with
    | some e => '=' :: e.print false Level.test
    | none => []

namespace Statement

def margin (depth : Nat) : List Char := List.replicate (4 * depth) ' '

/-- The parameters, with a bare star before the first one that is given by keyword. -/
def printParameters (ps : List Parameter) : List Char :=
  let (byKeyword, plain) := ps.partition (·.byKeyword)
  commaSeparated (plain.map Parameter.print ++
    if byKeyword.isEmpty then [] else ['*'] :: byKeyword.map Parameter.print)

mutual

/-- The lines of a statement; a line may hold line breaks inside its documentation. -/
def lines (depth : Nat) : Statement → List (List Char)
  | .importModule m => [margin depth ++ "import ".toList ++ m.toList]
  | .importFrom m names =>
    [margin depth ++ "from ".toList ++ m.toList ++ " import ".toList ++
      commaSeparated (names.map Imported.print)]
  | .classDef name base doc body =>
    [[], margin depth ++ "class ".toList ++ name.toList ++ '(' :: base.toList ++ [')', ':'],
      margin (depth + 1) ++ openQuoted tripleQuotes (Text.Points.ofString doc)] ++
      blockLines (depth + 1) body
  | .function name params body =>
    [[], margin depth ++ "def ".toList ++ name.toList ++ '(' :: printParameters params ++
      [')', ':']] ++ blockLines (depth + 1) body
  | .assign target value =>
    [margin depth ++ target.print false Level.test ++ " = ".toList ++
      value.print false Level.test]
  | .expression value => [margin depth ++ value.print false Level.yield]
  | .return value => [margin depth ++ "return ".toList ++ value.print false Level.test]
  | .pass => [margin depth ++ "pass".toList]

def blockLines (depth : Nat) : List Statement → List (List Char)
  | [] => []
  | s :: ss => lines depth s ++ blockLines depth ss

end

/-- Lines with a line break after each. -/
def joinLines : List (List Char) → List Char
  | [] => []
  | l :: ls => l ++ '\n' :: joinLines ls

/-- The lines of a module; no empty line comes first. -/
def moduleLines (ss : List Statement) : List (List Char) :=
  match blockLines 0 ss with
  | [] :: ls => ls
  | ls => ls

/-- The text of a module. -/
def text (ss : List Statement) : String := String.ofList (joinLines (moduleLines ss))

end Statement

end LivePreview.Code
