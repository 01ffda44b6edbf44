import LivePreview.Failure
import LivePreview.Template.Position

/-!
# Problems of template texts

What the reader of templates can object to, each with its wording. An objection stands at a
position; only a null character in an expression is refused without one.
-/

namespace LivePreview.Template

inductive Problem where
  | emptyExpression
  | invalidExpression (source : String)
  | unclosedExpression
  | moduleExpected
  | parameterExpected
  | unusableParameter (name : String)
  | duplicateParameter (name : String)
  | duplicateAttribute (name : String)
  | mixedAttribute (name : String)
  | invalidComponentName (name : String)
  | unexpectedClosing (tag : String)
  | mismatchedClosing (tag expected : String)
  | unclosedElement (tag : String)
  deriving DecidableEq, Repr

def Problem.message : Problem → String
  | emptyExpression => "Empty expression"
  | invalidExpression source => "Invalid expression '" ++ source ++ "': " ++ unreadable
  | unclosedExpression => "Unclosed expression, expected '\x7d\x7d'"
  | moduleExpected => "Expected a dotted module name after @using"
  | parameterExpected => "Expected '@param name[: annotation][ = default]'"
  | unusableParameter name => "'" ++ name ++ "' cannot be used as a parameter name"
  | duplicateParameter name => "Duplicate parameter '" ++ name ++ "'"
  | duplicateAttribute name => "Duplicate attribute '" ++ name ++ "'"
  | mixedAttribute name =>
    "Attribute '" ++ name ++ "' mixes text and an expression; " ++
      "use a single \x7b\x7b expression \x7d\x7d instead"
  | invalidComponentName name => "Invalid component name '" ++ name ++ "'"
  | unexpectedClosing tag => "Unexpected closing tag </" ++ tag ++ ">"
  | mismatchedClosing tag expected =>
    "Mismatched closing tag </" ++ tag ++ ">, expected </" ++ expected ++ ">"
  | unclosedElement tag => "Unclosed element <" ++ tag ++ ">"

inductive Objection where
  | problem (place : Position) (what : Problem)
  | nullInExpression
  deriving DecidableEq, Repr

abbrev Checked := Except Objection

def fail {α : Type} (place : Position) (what : Problem) : Checked α :=
  .error (.problem place what)

/-- The failure that is reported for a template of this text and, if it has one, this file name. -/
def Objection.failure (source : String) (filename : Option String) : Objection → Failure
  | .problem place what =>
    .template ⟨what.message, some place.line, filename, some source, some place.column⟩
  | .nullInExpression => .host .nullInCode

end LivePreview.Template
