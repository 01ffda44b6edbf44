import LivePreview.Code.Statement
import LivePreview.Component.Name
import LivePreview.Template.Reading

/-!
# Declaration shapes

The shape of a template is the text of a class that shows only what other templates can see of it:
its name, its module, its parameters with their hints, and which of them have no default.
-/

namespace LivePreview.Component

open LivePreview.Code (Expr Statement)

structure Shape where
  path : String
  component : String
  text : String
  deriving DecidableEq, Repr

/-- A text, or the constant for nothing. -/
def optionalText : Option String → Expr
  | some s => .ofText s
  | none => .constant .none

def assignName (name : String) (value : Expr) : Statement := .assign (.name name) value

/-- The attributes that describe the surface of a template; generated classes have them too. -/
def surface (t : Template) (path : String) : List Statement := [
  assignName "__source__" (.ofText path),
  assignName "__generated_module__" (.ofText (moduleName path)),
  assignName "__params__"
    (.tuple (t.params.map fun p => .tuple [.ofText p.name, optionalText (p.hint.map (·.source))])),
  assignName "__required__"
    (.tuple ((t.params.filter (·.required)).map fun p => .ofText p.name))]

def Shape.ofTemplate (t : Template) (path : String) : Shape where
  path := path
  component := componentName path
  text := Statement.text
    [.classDef (componentName path) baseName ("Declaration of " ++ path ++ ".") (surface t path)]

/-- A failure of the reader as one of the file whose shape or document was asked for. -/
def ofObjection (failure : (path reason : String) → Failure) (path : String) :
    Template.Objection → Failure
  | .problem _ what => failure path what.message
  | .nullInExpression => .host .nullInCode

/-- The shape of a template text; only its declarations are read. -/
def Shape.extract (path content : String) : Except Failure Shape :=
  match Template.declarationsOfChars content.toList with
  | .ok t => .ok (.ofTemplate t path)
  | .error o => .error (ofObjection .declaration path o)

end LivePreview.Component
