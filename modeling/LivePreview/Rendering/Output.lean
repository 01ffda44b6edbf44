import LivePreview.Component.Document
import LivePreview.Rendering.Component

/-!
# The output of components

A component is rendered by going through its body: text as it is, values escaped, markup with its
attributes, and resolved components by rendering them with their own parameters and content. Content
is rendered where it stands, and shown where the component asks for it.
-/

namespace LivePreview.Rendering

open LivePreview.Component (Context binding? componentName)
open LivePreview.Template (Node Attribute)

/-- The content that a component is given. -/
abbrev Content := Option (Except HostFault String)

/-- How a component of the library is rendered with given parameters and content. -/
abbrev Call := Nat → Env → Content → Except HostFault String

/-- What a body is rendered in. -/
structure Scene where
  context : Context
  /-- The component and its place in the library. -/
  own : Component
  index : Nat
  env : Env

def attributeValue (env : Env) (a : Attribute) : Except HostFault Value :=
  match a.value with
  | .bare => .ok (.truth true)
  | .literal s => .ok (.text s)
  | .expression e => evaluate env e.tree

def attributeValues (env : Env) : List Attribute → Except HostFault Env
  | [] => .ok []
  | a :: as => do
    let v ← attributeValue env a
    let rest ← attributeValues env as
    return (a.name, v) :: rest

def attributeOutput (env : Env) (a : Attribute) : Except HostFault String :=
  match a.value with
  | .bare => .ok (" " ++ a.name)
  | .literal s => .ok (" " ++ a.name ++ "=\"" ++ s ++ "\"")
  | .expression e => do
    let v ← evaluate env e.tree
    return " " ++ a.name ++ "=\"" ++ v.output ++ "\""

def attributeOutputs (env : Env) : List Attribute → Except HostFault String
  | [] => .ok ""
  | a :: as => do
    let s ← attributeOutput env a
    let rest ← attributeOutputs env as
    return s ++ rest

/-- Where the component that a tag is bound to stands in the library. -/
def Scene.target (s : Scene) (name : String) (module : String) : Except HostFault Nat :=
  match lookup s.env name with
  | some v => .error (.callMismatch ("'" ++ v.typeName ++ "' object is not callable"))
  | none =>
    if name = s.own.name then .ok s.index
    else match s.own.modules.find? (·.1 = module) with
      | some (_, index) => .ok index
      | none => .error (.undefinedName name)

mutual

def nodeOutput (call : Call) (s : Scene) : Node → Except HostFault String
  | .data _ text => .ok text
  | .output _ e => (evaluate s.env e.tree).map Value.output
  | .element _ name attributes body closing =>
    match binding? s.context name with
    | some b => do
      let values ← attributeValues s.env attributes
      let index ← s.target name b.module
      call index values (if body.isEmpty then none else some (nodesOutput call s body))
    | none => do
      let shown ← attributeOutputs s.env attributes
      if closing = .slash then return "<" ++ name ++ shown ++ " />"
      if body.isEmpty && Template.isVoidTag name then return "<" ++ name ++ shown ++ ">"
      let inner ← nodesOutput call s body
      return "<" ++ name ++ shown ++ ">" ++ inner ++ "</" ++ name ++ ">"

def nodesOutput (call : Call) (s : Scene) : List Node → Except HostFault String
  | [] => .ok ""
  | n :: ns => do
    let first ← nodeOutput call s n
    let rest ← nodesOutput call s ns
    return first ++ rest

end

/-- The values that a body sees: the parameters, and the content unless a parameter replaces it. -/
def Component.sceneValues (c : Component) (given : Env) (content : Content) :
    Except HostFault Env := do
  let values ← c.bind given
  if c.takesChildren then return values
  let shown ← content.getD (.ok "")
  return ("children", .markup shown) :: values

/-- Render a component of the library, at most `depth` components deep. -/
def render (context : Context) (library : List Component) : (depth : Nat) → Call
  | 0 => fun _ _ _ => .error .endlessRecursion
  | depth + 1 => fun index given content =>
    match library[index]? with
    | none => .error .endlessRecursion
    | some c => do
      let env ← c.sceneValues given content
      nodesOutput (render context library depth) ⟨context, c, index, env⟩ c.body

end LivePreview.Rendering
