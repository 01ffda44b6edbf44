import LivePreview.Code.Grammar
import LivePreview.Template.Position
import LivePreview.Text.Case

/-!
# Trees of templates

A template declares parameters and modules and has a body of text, outputs and elements. An element
whose name shows an uppercase letter first stands for another component. Every part keeps its
position. An expression carries the tree that its text reads as, so that nothing reads it again.
-/

namespace LivePreview

namespace Template

open LivePreview.Code (Expr)

/-- An expression of the target language in a template, without the blanks around it. -/
structure Expression where
  source : String
  tree : Expr
  reads : Expr.read source = .ok tree

namespace Expression

def ofText (source : String) : Except HostFault Expression :=
  match h : Expr.read source with
  | .ok tree => .ok ⟨source, tree, h⟩
  | .error fault => .error fault

end Expression

inductive AttributeValue where
  /-- A name alone. -/
  | bare
  | literal (text : String)
  | expression (value : Expression)

structure Attribute where
  place : Position
  name : String
  value : AttributeValue

/-- How an element was written: with a closing tag, with a slash at its end, or as one of the
elements that never have content. -/
inductive Closing where
  | paired
  | slash
  | void
  deriving DecidableEq, Repr

inductive Node where
  | data (place : Position) (text : String)
  | output (place : Position) (value : Expression)
  | element (place : Position) (name : String) (attributes : List Attribute) (body : List Node)
      (closing : Closing)

structure Param where
  place : Position
  name : String
  hint : Option Expression
  default : Option Expression

def Param.required (p : Param) : Bool := p.default.isNone

structure Using where
  place : Position
  module : String
  deriving DecidableEq, Repr

end Template

structure Template where
  params : List Template.Param
  usings : List Template.Using
  body : List Template.Node

namespace Template

/-- The last segment of a dotted name. -/
def lastSegment (name : List Char) : List Char :=
  (name.reverse.takeWhile (· ≠ '.')).reverse

/-- Whether a tag stands for another component. -/
def isComponentTag (tag : String) : Bool :=
  match lastSegment tag.toList with
  | [] => false
  | c :: _ => Text.isUpper c

/-- The elements that never have content, and so no closing tag. -/
def voidElements : List String := [
  "area", "base", "br", "col", "embed", "hr", "img", "input", "link", "meta", "source", "track",
  "wbr"]

/-- Whether a tag is, in any case of letters, that of an element without content. -/
def isVoidTag (tag : String) : Bool := voidElements.contains (Text.lower tag)

end Template

end LivePreview
