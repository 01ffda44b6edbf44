import LivePreview.Template.Lexeme
import LivePreview.Template.Node
import LivePreview.Template.Problem

/-!
# Expressions and attributes of a tag

An expression is checked when it is read. The attributes of a tag are found in the text between its
name and its end by looking for names; each name may have a value, which is literal text or one
expression, never both.
-/

namespace LivePreview.Template

open LivePreview.Text (behind? isBlank occurs strip)

/-- The expression in a text; an objection stands at `place`. -/
def expressionAt (place : Position) (text : List Char) : Checked Expression :=
  let source := String.ofList (strip text)
  if (strip text).isEmpty then fail place .emptyExpression
  else match Expression.ofText source with
    | .ok e => .ok e
    | .error .nullInCode => .error .nullInExpression
    | .error _ => fail place (.invalidExpression source)

/-- The attribute that begins at the first name of the text, and what stands behind it. -/
def nextAttribute? (cs : List Char) : Option (AttributeText × List Char) :=
  let gap := cs.takeWhile (!isAttributeChar ·)
  let rest := cs.dropWhile (!isAttributeChar ·)
  let name := rest.takeWhile isAttributeChar
  let rest' := rest.dropWhile isAttributeChar
  if rest.isEmpty then none
  else match quotedValue? rest' with
    | some (value, behind) => some (⟨gap, name, some value⟩, behind)
    | none => some (⟨gap, name, none⟩, rest')

def findAttributesIn : (rounds : Nat) → List Char → List AttributeText
  | 0, _ => []
  | rounds + 1, cs =>
    match nextAttribute? cs with
    | none => []
    | some (a, rest) => a :: findAttributesIn rounds rest

/-- All attributes in the text between the name and the end of a tag. -/
def findAttributes (cs : List Char) : List AttributeText := findAttributesIn cs.length cs

/-- The inside of a value that is one expression from its first to its last mark. -/
def wholeExpression? (cs : List Char) : Option (List Char) := do
  let rest ← behind? ['\x7b', '\x7b'] (strip cs)
  let size := rest.length - 2
  if rest.length ≥ 2 ∧ rest.drop size = ['\x7d', '\x7d'] then some (rest.take size) else none

def attributeValue (place : Position) (name : String) : Option QuotedValue → Checked AttributeValue
  | none => .ok .bare
  | some v =>
    match wholeExpression? v.text with
    | some inner => return .expression (← expressionAt place inner)
    | none =>
      if occurs ['\x7b', '\x7b'] v.text then fail place (.mixedAttribute name)
      else .ok (.literal (String.ofList v.text))

/-- Read attributes from `place` on, where `seen` are the names before. -/
def readAttributes (place : Position) (seen : List String) :
    List AttributeText → Checked (List Attribute)
  | [] => .ok []
  | a :: as => do
    let here := place.after a.gap
    let name := String.ofList a.name
    if seen.contains name then fail here (.duplicateAttribute name)
    let value ← attributeValue here name a.value
    let rest ← readAttributes (place.after a.chars) (name :: seen) as
    return ⟨here, name, value⟩ :: rest

end LivePreview.Template
