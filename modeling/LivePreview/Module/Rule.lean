import LivePreview.Location

/-!
# Discovery rules

Some families of modules are reached by no reference. A rule names a module whose file tells where
such a family lies: in the directory of the file, in another one beside it, in one whose path
differs in a word, or where a host finds it by a way of its own.
-/

namespace LivePreview.Module

/-- How the file of the anchor leads to the directory of a family. -/
inductive Sibling where
  | parent
  | child (name : String)
  | replace (old new : String)
  /-- A way of the host's own. -/
  | other (directory : Location → Location)

/-- The file of a package, by which the package itself lies one directory up. -/
def packageFile : String := "__init__.py"

/-- The directory that holds a module, or the package that a file stands for. -/
def moduleDirectory (l : Location) : Location :=
  if l.name = packageFile then l.parent.parent else l.parent

/-- Where `piece` starts in `text` for the first time. -/
def firstIndex? (piece : List Char) : List Char → Option Nat
  | [] => if piece.isEmpty then some 0 else none
  | c :: cs =>
    if piece.isPrefixOf (c :: cs) then some 0 else (firstIndex? piece cs).map (· + 1)

/-- The segment with the first occurrence of `old`, in any case of letters, replaced. The place is
found in the lower case form and used in the segment itself. -/
def replaceIn (old new segment : String) : String :=
  match firstIndex? (Text.lower old).toList (Text.lower segment).toList with
  | none => segment
  | some index =>
    let cs := segment.toList
    String.ofList (cs.take index) ++ new ++ String.ofList (cs.drop (index + old.length))

def Sibling.directory (s : Sibling) (l : Location) : Location :=
  match s with
  | .parent => moduleDirectory l
  | .child name => (moduleDirectory l).join name
  | .replace old new => Location.ofParts (l.parent.parts.map (replaceIn old new))
  | .other directory => directory l

/-- A family of modules, the module that leads to it, and how. -/
structure Rule where
  family : String
  anchor : String
  sibling : Sibling

/-- The standard library, and its extension modules. -/
def defaultRules : List Rule :=
  [⟨"stdlib", "os", .parent⟩, ⟨"lib-dynload", "os", .child "lib-dynload"⟩]

end LivePreview.Module
