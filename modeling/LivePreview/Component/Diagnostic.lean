import LivePreview.Failure
import LivePreview.Template.Position

/-!
# Diagnostics

What does not fit between a template and the context it is compiled against. A diagnostic never
stops a document from being made.
-/

namespace LivePreview.Component

/-- How grave a diagnostic is. -/
inductive Gravity where
  | warning
  | error
  deriving DecidableEq, Repr

def Gravity.text : Gravity → String
  | warning => "warning"
  | error => "error"

structure Diagnostic where
  code : Code
  message : String
  place : Template.Position
  gravity : Gravity
  deriving DecidableEq, Repr

namespace Diagnostic

def unresolvedComponent (place : Template.Position) (name : String) : Diagnostic where
  code := .unresolvedComponent
  message := "Component '" ++ name ++ "' is not declared by any template or referenced module; " ++
    "rendered as markup"
  place := place
  gravity := .warning

def unknownAttribute (place : Template.Position) (component name : String) : Diagnostic where
  code := .unknownAttribute
  message := "Component '" ++ component ++ "' has no parameter '" ++ name ++ "'"
  place := place
  gravity := .warning

def missingParameter (place : Template.Position) (component name : String) : Diagnostic where
  code := .missingRequiredParam
  message := "Component '" ++ component ++ "' requires parameter '" ++ name ++ "'"
  place := place
  gravity := .error

def unresolvedModule (place : Template.Position) (name : String) : Diagnostic where
  code := .unresolvedModule
  message := "Module '" ++ name ++ "' is not among the referenced modules"
  place := place
  gravity := .warning

/-- The path under which a diagnostic is shown when no other is given. -/
def unnamedPath : String := "<template>"

/-- One line, with the path and the place in front. -/
def format (d : Diagnostic) (path : String) : String :=
  path ++ ":" ++ toString d.place.line ++ ":" ++ toString d.place.column ++ ": " ++
    d.gravity.text ++ ": " ++ d.code.value ++ " " ++ d.message

/-- In the order of the text; those of one place keep their order. -/
def sort (ds : List Diagnostic) : List Diagnostic := ds.mergeSort fun a b => a.place.le b.place

end Diagnostic

end LivePreview.Component
