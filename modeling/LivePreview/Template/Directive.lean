import LivePreview.Location
import LivePreview.Template.Attribute
import LivePreview.Text.Identifier

/-!
# Directive lines

A parameter line is split once: the hint goes from the colon to the first equals sign, and all that
follows the sign is the default. A module line holds a dotted name and nothing else. Objections to
the line as a whole stand at its mark; objections to an expression stand where it begins.
-/

namespace LivePreview.Template

open LivePreview.Text (isBlank isWord isKeyword)

/-- A part of a line, and all that stands before it. -/
structure Clause where
  before : List Char
  text : List Char
  deriving DecidableEq, Repr

/-- What begins the clause: the blanks before its first other character, or all but its last blank
when it has no other. -/
def Clause.lead (c : Clause) : List Char :=
  if c.text.all isBlank then c.text.dropLast else c.text.takeWhile isBlank

def Clause.start (c : Clause) (place : Position) : Position :=
  place.after (c.before ++ c.lead)

/-- A parameter line without its mark and word. -/
structure ParamLine where
  name : List Char
  hint : Option Clause
  default : Option Clause
  deriving DecidableEq, Repr

def isNameStart (c : Char) : Bool := isLetter c || c = '_'

/-- A default behind an equals sign, which may not be empty. -/
def defaultClause? (before : List Char) : List Char → Option Clause
  | [] => none
  | c :: cs => some ⟨before, c :: cs⟩

/-- Split what follows the name; `before` is all that stands before it. -/
def paramRest? (name before rest : List Char) : Option ParamLine :=
  let gap := rest.takeWhile isBlank
  match rest.dropWhile isBlank with
  | [] => some ⟨name, none, none⟩
  | ':' :: cs =>
    let before := before ++ gap ++ [':']
    let hint := cs.takeWhile (· ≠ '=')
    if hint.isEmpty then none
    else match cs.dropWhile (· ≠ '=') with
      | [] => some ⟨name, some ⟨before, hint⟩, none⟩
      | _ :: value =>
        (defaultClause? (before ++ hint ++ ['=']) value).map fun d =>
          ⟨name, some ⟨before, hint⟩, some d⟩
  | '=' :: value =>
    (defaultClause? (before ++ gap ++ ['=']) value).map fun d => ⟨name, none, some d⟩
  | _ => none

def paramLine? (args : List Char) : Option ParamLine :=
  let gap := args.takeWhile isBlank
  match args.dropWhile isBlank with
  | [] => none
  | c :: cs =>
    let name := c :: cs.takeWhile isWord
    if gap.isEmpty || !isNameStart c then none
    else paramRest? name (gap ++ name) (cs.dropWhile isWord)

def moduleLine? (args : List Char) : Option (List Char) :=
  let rest := args.dropWhile isBlank
  let name := rest.takeWhile fun c => isWord c || c = '.'
  let behind := rest.dropWhile fun c => isWord c || c = '.'
  let segments := Location.pieces '.' name
  if !(args.takeWhile isBlank).isEmpty && behind.all isBlank &&
      segments.all (fun s => s.head?.any isNameStart) then some name
  else none

/-- Members of every generated class. -/
def reservedParams : List String := ["self", "render"]

/-- Names that cannot be those of parameters. -/
def isUnusableParam (name : String) : Bool :=
  isKeyword name || name.toList.head? = some '_' || reservedParams.contains name

def clauseExpression (place : Position) : Option Clause → Checked (Option Expression)
  | none => .ok none
  | some c => return some (← expressionAt (c.start place) c.text)

/-- Read a parameter line whose mark stands at `place`. -/
def readParam (place : Position) (args : List Char) : Checked Param := do
  match paramLine? args with
  | none => fail place .parameterExpected
  | some line =>
    let name := String.ofList line.name
    if isUnusableParam name then fail place (.unusableParameter name)
    let start := place.after ('@' :: DirectiveKind.param.word)
    let hint ← clauseExpression start line.hint
    let default ← clauseExpression start line.default
    return ⟨place, name, hint, default⟩

/-- Read a module line whose mark stands at `place`. -/
def readUsing (place : Position) (args : List Char) : Checked Using :=
  match moduleLine? args with
  | none => fail place .moduleExpected
  | some name => .ok ⟨place, String.ofList name⟩

end LivePreview.Template
