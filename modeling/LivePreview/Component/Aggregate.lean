import LivePreview.Component.Shape
import LivePreview.Component.Stub
import LivePreview.Log
import LivePreview.Table

/-!
# The aggregate of all declarations

All shapes together make one module in memory. Every stub runs by itself, so that none can disturb
another, and only its component reaches the module. Of several shapes for one component the last
counts, at the place of the first; that is logged.
-/

namespace LivePreview.Component

/-- The module made of all shapes. A name of the module that stands for no component has no
surface. -/
structure Aggregate where
  name : String
  /-- The names of the external modules. -/
  references : List String
  members : Table String (Option Surface)
  /-- The paths of the shapes, in order. -/
  sources : List String

namespace Aggregate

/-- The names that every module has before anything is declared, and the base of all components. -/
def firstNames : List String :=
  ["__name__", "__doc__", "__package__", "__loader__", "__spec__", baseName]

def firstMembers : Table String (Option Surface) := .ofList (firstNames.map fun n => (n, none))

/-- The declared components, in the order of the module. -/
def components (a : Aggregate) : List (String × Surface) :=
  a.members.entries.filterMap fun (name, surface?) => surface?.map fun s => (name, s)

def surface? (a : Aggregate) (name : String) : Option Surface := (a.members.get? name).join

/-- What the module takes under a name. Two names can never be set. -/
def taken (name : String) (surface? : Option Surface) : Except Failure (Option Surface) :=
  if name = "__dict__" then .error (.host .readOnlyAttribute)
  else if name = "__class__" then .error (.host .fixedClass)
  else .ok surface?

def uncompiled (path : String) : Failure :=
  .declaration path ("declaration does not compile: " ++ unreadable)

def failed (path : String) (e : HostError) : Failure :=
  .declaration path ("declaration failed: " ++ e.text)

/-- What the module takes under the name of a component, by what the name stands for. -/
def member (path component : String) : Definition → Except Failure (Option Surface)
  | .nothing => .error (.declaration path
      ("declaration does not define component class '" ++ component ++ "'"))
  | .base => taken component none
  | .component surface => taken component (some surface)

/-- What a shape declares under the name of its component. -/
def declared (run : Runner) (path : String) (shape : Shape) : Except Failure (Option Surface) :=
  if path.toList.contains '\x00' then .error (.host .nullInPath)
  else if shape.text.toList.contains '\x00' then .error (.host .nullInCode)
  else match run shape.text shape.component with
    | none => .error (uncompiled path)
    | some (.error e) => .error (failed path e)
    | some (.ok definition) => member path shape.component definition

/-- The state of a build: the members so far, and the path that declared each component last. -/
structure Build where
  members : Table String (Option Surface)
  owners : Table String String
  log : Log

def contextLog : String := "limn.compiler.context"

def replacement (component path previous : String) : LogRecord :=
  ⟨.warning, contextLog, "Component '" ++ component ++ "' from '" ++ path ++
    "' replaces the declaration from '" ++ previous ++ "'"⟩

/-- Enter what a shape declares. -/
def Build.enter (b : Build) (path component : String) (surface? : Option Surface) : Build where
  members := b.members.insert component surface?
  owners := b.owners.insert component path
  log := b.log ++ ((b.owners.get? component).map (replacement component path)).toList

/-- Enter the shapes in order, up to the first that fails. -/
def Build.enterAll (run : Runner) (b : Build) :
    List (String × Shape) → Log × Except Failure Build
  | [] => (b.log, .ok b)
  | (path, shape) :: shapes =>
    match declared run path shape with
    | .error f => (b.log, .error f)
    | .ok surface? => (b.enter path shape.component surface?).enterAll run shapes

/-- Make the aggregate of some shapes. -/
def build (run : Runner) (name : String) (references : List String) (shapes : Table String Shape) :
    Log × Except Failure Aggregate :=
  let (log, result) := Build.enterAll run ⟨firstMembers, ∅, []⟩ shapes.entries
  (log, result.map fun b => ⟨name, references, b.members, shapes.keys⟩)

def empty (name : String) (references : List String) : Aggregate :=
  ⟨name, references, firstMembers, []⟩

end Aggregate

end LivePreview.Component
