import LivePreview.Text.Case

/-!
# File locations

A location is a root and a list of segments. Reading one from text drops empty and `.` segments and
keeps `..`; two slashes at the start, and only two, are a root of their own. Locations are compared
segment by segment, the root being the first segment of a rooted one.
-/

namespace LivePreview

inductive Root where
  | relative
  | slash
  | twoSlashes
  deriving DecidableEq, Repr

def Root.text : Root → String
  | relative => ""
  | slash => "/"
  | twoSlashes => "//"

structure Location where
  root : Root
  segments : List String
  deriving DecidableEq, Repr

namespace Location

/-- The pieces between the separators. -/
def pieces (separator : Char) : List Char → List (List Char)
  | [] => [[]]
  | c :: cs =>
    if c = separator then [] :: pieces separator cs
    else match pieces separator cs with
      | [] => [[c]]
      | piece :: rest => (c :: piece) :: rest

def rootOf : List Char → Root
  | '/' :: '/' :: '/' :: _ => .slash
  | '/' :: '/' :: _ => .twoSlashes
  | '/' :: _ => .slash
  | _ => .relative

/-- The segments that count: neither empty nor the current directory. -/
def named (piece : List Char) : Bool := piece ≠ [] && piece ≠ ['.']

def ofChars (cs : List Char) : Location :=
  ⟨rootOf cs, ((pieces '/' cs).filter named).map String.ofList⟩

def ofText (s : String) : Location := ofChars s.toList

def text (l : Location) : String :=
  if l.root = .relative ∧ l.segments = [] then "." else l.root.text ++ "/".intercalate l.segments

instance : ToString Location := ⟨text⟩

/-- The segments with the root, if there is one, as the first. -/
def parts (l : Location) : List String :=
  if l.root = .relative then l.segments else l.root.text :: l.segments

/-- The directory that holds the location; a bare root holds itself. -/
def parent (l : Location) : Location := { l with segments := l.segments.dropLast }

def name (l : Location) : String := l.segments.getLastD ""

/-- Go on from `l` by `next`; a rooted location starts anew. -/
def append (l next : Location) : Location :=
  if next.root = .relative then { l with segments := l.segments ++ next.segments } else next

instance : Append Location := ⟨append⟩

def join (l : Location) (next : String) : Location := l ++ ofText next

/-- The location that a list of parts spells, each read as text. -/
def ofParts (ps : List String) : Location :=
  ps.foldl join ⟨.relative, []⟩

def lt (l m : Location) : Bool := decide (l.parts < m.parts)

/-- Ascending order. -/
def sort (ls : List Location) : List Location := ls.mergeSort fun l m => !m.lt l

/-- Whether the last segment has a nonempty stem before this ending. -/
def hasEnding (l : Location) (ending : String) : Bool :=
  let name := l.name.toList
  let ending := ending.toList
  ending.length < name.length && name.drop (name.length - ending.length) == ending

end Location

end LivePreview
