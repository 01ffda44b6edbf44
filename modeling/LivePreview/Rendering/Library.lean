import LivePreview.Code.Outline
import LivePreview.Rendering.Output
import LivePreview.Session.Preview

/-!
# Libraries of templates

Templates are added to a session all together, and are then made into components one by one, each
after those it uses. The text of every generated module has to be readable for that. The last
component is the one that is shown.
-/

namespace LivePreview.Rendering

open LivePreview.Component (Context componentName moduleName)

/-- Add templates to a session. -/
def addAll (s : Session) : List (String × String) → Except Failure Session
  | [] => .ok s
  | (path, text) :: rest =>
    let step := s.add (some path) (some text)
    match step.result with
    | .error f => .error f
    | .ok () => addAll step.state rest

/-- Whether the text of a generated module can be run: it can be read, and its parameters differ. -/
def isRunnable (code : String) (t : Template) : Bool :=
  let names := "self" :: t.params.map (Text.normalForm ·.name)
  (Code.Outline.read code).toBool && decide names.Nodup

/-- A resolved name whose module is not there. -/
def missingModule? (context : Context) (own : String) (modules : List (String × Nat))
    (names : List String) : Option String :=
  (Module.sortNames (names.filter (· ≠ own))).findSome? fun name =>
    match Component.binding? context name with
    | some b => if modules.any (·.1 = b.module) then none else some b.module
    | none => none

/-- Make a component from a template and its document. `modules` are those that are there. -/
def componentOf (context : Context) (modules : List (String × Nat)) (path : String)
    (t : Template) : Except Failure Component := do
  let document ← Component.compile context t path
  if !isRunnable document.code t then throw (.host .unreadableCode)
  match missingModule? context document.component modules document.components with
  | some module => throw (.host (.noModuleNamed module))
  | none =>
    match parametersOf t.params with
    | .error fault => throw (.host fault)
    | .ok parameters =>
      return ⟨document.component, parameters, t.params.any (·.name = "children"), t.body, modules⟩

/-- Make the components of the sources at some paths, in this order. -/
def componentsOf (s : Session) (modules : List (String × Nat)) (index : Nat) :
    List String → Except Failure (List Component)
  | [] => .ok []
  | path :: paths => do
    let source ← s.source path
    let t ← match Template.ofChars source.content.toList with
      | .ok t => pure t
      | .error o => throw (Component.ofObjection .generation path o)
    let c ← componentOf s.context modules path t
    let others ← componentsOf s ((moduleName path, index) :: modules) (index + 1) paths
    return c :: others

/-- Render the last of some templates. -/
def renderLast (templates : List (String × String)) (given : Env) (content : Option String) :
    Except Failure String := do
  let config : Session.Config := { rules := [] }
  let (_, session) := Session.start Session.templateEngine (.ofTable []) config []
  let session ← addAll session templates
  let library ← componentsOf session [] 0 (templates.map (·.1))
  match render session.context library (library.length + 1) (library.length - 1) given
      (content.map .ok) with
  | .ok s => return s
  | .error fault => throw (.host fault)

end LivePreview.Rendering
