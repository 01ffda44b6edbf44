import LivePreview.Template.Directive

/-!
# Reading templates

A template is read from its lexemes, from left to right, with the elements that are still open on a
stack. The declarations can be read alone; markup is then passed over unchecked, so that a half
written body does not hide the surface of a template.
-/

namespace LivePreview

namespace Template

/-- An element that is still open, with its content so far, last node first. -/
structure Frame where
  place : Position
  name : String
  attributes : List Attribute
  content : List Node

/-- What was read so far: the declarations, the open elements from the innermost on, and the nodes
outside of them, last node first. -/
structure Reading where
  params : List Param
  usings : List Using
  frames : List Frame
  content : List Node

namespace Reading

def empty : Reading := ⟨[], [], [], []⟩

/-- Put a node behind others; text joins the text before it. -/
def push (node : Node) : List Node → List Node
  | .data place text :: nodes =>
    match node with
    | .data _ more => .data place (text ++ more) :: nodes
    | other => other :: .data place text :: nodes
  | nodes => node :: nodes

/-- Put a node into the innermost open element. -/
def add (r : Reading) (node : Node) : Reading :=
  match r.frames with
  | [] => { r with content := push node r.content }
  | frame :: frames =>
    { r with frames := { frame with content := push node frame.content } :: frames }

def addParam (r : Reading) (markPlace : Position) (p : Param) : Checked Reading :=
  if r.params.any (·.name = p.name) then
    fail (markPlace.after ['@']) (.duplicateParameter p.name)
  else .ok { r with params := r.params ++ [p] }

def readDirective (r : Reading) (place : Position) (indent : List Char) (args : List Char) :
    DirectiveKind → Checked Reading
  | .param => do
    let mark := place.after indent
    let p ← readParam mark args
    r.addParam mark p
  | .module => do
    let u ← readUsing (place.after indent) args
    return { r with usings := r.usings ++ [u] }

def readText (r : Reading) (place : Position) (cs : List Char) : Checked Reading :=
  match Text.cut? ['\x7b', '\x7b'] cs with
  | some (before, _) => fail (place.after before) .unclosedExpression
  | none => .ok (r.add (.data place (String.ofList cs)))

/-- Whether all segments of a dotted name can be names. -/
def isComponentName (name : List Char) : Bool :=
  (Location.pieces '.' name).all Text.isIdentifier

def openElement (r : Reading) (place : Position) (tag : List Char)
    (attributes : List AttributeText) (slash : Bool) : Checked Reading := do
  let name := String.ofList tag
  let read ← readAttributes (place.after ('<' :: tag)) []
    (findAttributes (attributeChars attributes))
  if isComponentTag name && !isComponentName tag then
    fail (place.after ['<']) (.invalidComponentName name)
  if slash then return r.add (.element place name read [] .slash)
  else if !isComponentTag name && isVoidTag name then
    return r.add (.element place name read [] .void)
  else return { r with frames := ⟨place, name, read, []⟩ :: r.frames }

def closeElement (r : Reading) (place : Position) (tag : List Char) : Checked Reading :=
  let name := String.ofList tag
  match r.frames with
  | [] => fail place (.unexpectedClosing name)
  | frame :: frames =>
    if frame.name = name then
      .ok ({ r with frames }.add
        (.element frame.place name frame.attributes frame.content.reverse .paired))
    else fail place (.mismatchedClosing name frame.name)

/-- Read one lexeme, which begins at `place`. -/
def read (r : Reading) (place : Position) : Lexeme → Checked Reading
  | .text cs => r.readText place cs
  | .directive indent kind args _ => r.readDirective place indent args kind
  | .comment body => .ok (r.add (.data place (String.ofList (Lexeme.comment body).chars)))
  | .output body => do
    let e ← expressionAt (place.after ['\x7b', '\x7b']) body
    return r.add (.output place e)
  | .openTag name attributes _ slash => r.openElement place name attributes slash
  | .closeTag name _ => r.closeElement place name

/-- Read one lexeme if it is a directive, and pass over it otherwise. -/
def readDeclaration (r : Reading) (place : Position) : Lexeme → Checked Reading
  | .directive indent kind args _ => r.readDirective place indent args kind
  | _ => .ok r

/-- Read lexemes from `place` on. -/
def readAll (step : Reading → Position → Lexeme → Checked Reading) (place : Position)
    (r : Reading) : List Lexeme → Checked Reading
  | [] => .ok r
  | l :: ls => do
    let next ← step r place l
    readAll step (place.after l.chars) next ls

/-- The template, unless an element is still open. -/
def finish (r : Reading) : Checked Template :=
  match r.frames with
  | [] => .ok ⟨r.params, r.usings, r.content.reverse⟩
  | frame :: _ => fail frame.place (.unclosedElement frame.name)

end Reading

/-- Read a template text. -/
def ofChars (cs : List Char) : Checked Template := do
  (← Reading.readAll Reading.read .start .empty (lexemes cs)).finish

/-- Read the declarations of a template text; the body is left out. -/
def declarationsOfChars (cs : List Char) : Checked Template := do
  let r ← Reading.readAll Reading.readDeclaration .start .empty (lexemes cs)
  return ⟨r.params, r.usings, []⟩

/-- Name the text and the file in an objection. -/
def reported {α : Type} (source : String) (filename : Option String) :
    Checked α → Except Failure α
  | .ok a => .ok a
  | .error objection => .error (objection.failure source filename)

def ofText (source : String) (filename : Option String) : Except Failure Template :=
  reported source filename (ofChars source.toList)

def declarationsOfText (source : String) (filename : Option String) : Except Failure Template :=
  reported source filename (declarationsOfChars source.toList)

end Template

end LivePreview
