import LivePreview.Location
import LivePreview.Text.Identifier
import LivePreview.Text.Word

/-!
# Names of components and generated modules

A component is named by the last segment of its path without its endings, and its module by all
segments. Both kinds of slashes separate segments. What cannot stand in a name becomes an
underscore, and underscores keep a name apart from numbers, keywords and the names that every module
has.
-/

namespace LivePreview.Component

open LivePreview.Text (isWord isDigit isKeyword)

/-- The class that every component derives from. -/
def baseName : String := "ComponentBase"

/-- Names that every generated module binds. -/
def reservedNames : List String := [baseName, "_Markup", "_escape", "_render_component"]

/-- A segment as a name. -/
def nameOfSegment (segment : String) : String :=
  let words := segment.toList.map fun c => if isWord c then c else '_'
  let name := if words.isEmpty then ['_'] else words
  let name := if name.head?.any isDigit then '_' :: name else name
  let name := String.ofList name
  if isKeyword name then name ++ "_" else name

/-- The segments of a path that name something, the last one without its endings. -/
def pathSegments (path : String) : List String :=
  let slashed := path.toList.map fun c => if c = '\\' then '/' else c
  let parts := (Location.ofChars slashed).parts.filter (· ≠ "/")
  match parts.getLast? with
  | none => ["_"]
  | some last => parts.dropLast ++ [String.ofList (last.toList.takeWhile (· ≠ '.'))]

/-- Whether a name begins and ends with two underscores. -/
def isDunder (name : String) : Bool :=
  ['_', '_'].isPrefixOf name.toList && ['_', '_'].isSuffixOf name.toList

/-- The class of the component at a path. -/
def componentName (path : String) : String :=
  let name := nameOfSegment ((pathSegments path).getLastD "")
  if isDunder name || reservedNames.contains name then name ++ "_" else name

/-- The module that is generated for a path. -/
def moduleName (path : String) : String := ".".intercalate ((pathSegments path).map nameOfSegment)

end LivePreview.Component
