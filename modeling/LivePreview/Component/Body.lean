import LivePreview.Component.Context
import LivePreview.Component.Diagnostic

/-!
# The body of a generated component

The body of a template becomes statements that append text to a buffer. Static text is gathered and
appended in one piece before anything else happens. A resolved component becomes a call, with its
content, if any, in a function of its own just before the call; an unresolved one is written as
markup. What the header of the module needs is noted on the way.
-/

namespace LivePreview.Component

open LivePreview.Code (Expr Statement MappingItem)
open LivePreview.Template (Node Attribute)

/-- Statements, last first, and the static text that follows them. -/
structure Draft where
  statements : List Statement
  pending : String

namespace Draft

def empty : Draft := ⟨[], ""⟩

def callOf (function : String) (args : List Expr) : Expr := .call (.name function) args []

/-- Append a value to the buffer. -/
def appending (value : Expr) : Statement := .expression (callOf "_append" [value])

def text (d : Draft) (s : String) : Draft := { d with pending := d.pending ++ s }

def flush (d : Draft) : Draft :=
  if d.pending.isEmpty then d else ⟨appending (.ofText d.pending) :: d.statements, ""⟩

def statement (d : Draft) (s : Statement) : Draft :=
  let d := d.flush
  { d with statements := s :: d.statements }

def value (d : Draft) (e : Expr) : Draft := d.statement (appending e)

def finish (d : Draft) : List Statement := d.flush.statements.reverse

end Draft

/-- What was found out about the components of a body. -/
structure Findings where
  /-- How many functions for content there are. -/
  contents : Nat
  diagnostics : List Diagnostic
  /-- Declared components and their modules. -/
  imports : Table String String
  /-- External modules of components. -/
  externals : List String
  /-- Names of resolved components in order of first use. -/
  resolved : List String

namespace Findings

def empty : Findings := ⟨0, [], ∅, [], []⟩

def note (f : Findings) (ds : List Diagnostic) : Findings :=
  { f with diagnostics := f.diagnostics ++ ds }

end Findings

/-- What does not fit between a use of a component and its parameters. -/
def misfits (place : Template.Position) (name : String) (attributes : List Attribute)
    (b : Binding) : List Diagnostic :=
  if b.isExternal then []
  else
    ((attributes.filter fun a => !b.accepts a.name).map fun a =>
      .unknownAttribute a.place name a.name) ++
    ((b.required.filter fun r => !attributes.any (·.name = r)).map (.missingParameter place name))

/-- Note the use of a resolved component by the component `own`. -/
def Findings.use (f : Findings) (own : String) (place : Template.Position) (name : String)
    (attributes : List Attribute) (b : Binding) : Findings :=
  let f := f.note (misfits place name attributes b)
  let f := if f.resolved.contains name then f else { f with resolved := f.resolved ++ [name] }
  if b.isExternal then
    if f.externals.contains b.module then f else { f with externals := f.externals ++ [b.module] }
  else if name = own then f
  else { f with imports := f.imports.insert name b.module }

structure Progress where
  draft : Draft
  findings : Findings

namespace Progress

def text (p : Progress) (s : String) : Progress := { p with draft := p.draft.text s }

def value (p : Progress) (e : Expr) : Progress := { p with draft := p.draft.value e }

def escaped (e : Expr) : Expr := Draft.callOf "_escape" [e]

/-- An attribute of markup. -/
def attributeMarkup (p : Progress) (a : Attribute) : Progress :=
  match a.value with
  | .bare => p.text (" " ++ a.name)
  | .literal s => p.text (" " ++ a.name ++ "=\"" ++ s ++ "\"")
  | .expression e =>
    let p := p.text (" " ++ a.name ++ "=\"")
    let p := p.value (escaped e.tree)
    p.text "\""

/-- The opening tag of markup up to its end. -/
def openMarkup (p : Progress) (name : String) (attributes : List Attribute) : Progress :=
  attributes.foldl attributeMarkup (p.text ("<" ++ name))

end Progress

/-- The statements with which every buffer begins. -/
def bufferStart : List Statement := [
  .assign (.name "_buf") (.list []),
  .assign (.name "_append") (.attribute (.name "_buf") "append")]

/-- The statement that returns what is in the buffer. -/
def bufferEnd : Statement :=
  .return (.call (.attribute (.ofText "") "join") [.name "_buf"] [])

def contentName (number : Nat) : String := "_children_" ++ toString number

/-- The value that a component is given for an attribute. -/
def attributeArgument (a : Attribute) : Expr :=
  match a.value with
  | .bare => .constant .true
  | .literal s => .ofText s
  | .expression e => e.tree

/-- The call that renders a component. -/
def renderCall (target : Expr) (attributes : List Attribute) (content : Expr) : Expr :=
  Draft.callOf "_render_component"
    [target, .mapping (attributes.map fun a => .pair (.ofText a.name) (attributeArgument a)),
      content]

/-- What a component is called by. -/
def targetOf (name : String) (b : Binding) : Except HostFault Expr :=
  if b.isExternal then Expr.read name else .ok (.name name)

def binding? (c : Context) (name : String) : Option Binding :=
  if Template.isComponentTag name then c.resolve name else none

mutual

/-- Write a node of the component `own`. -/
def writeNode (c : Context) (own : String) (p : Progress) : Node → Except HostFault Progress
  | .data _ text => .ok (p.text text)
  | .output _ e => .ok (p.value (Progress.escaped e.tree))
  | .element place name attributes body closing =>
    match binding? c name with
    | none => do
      let p :=
        if Template.isComponentTag name then
          { p with findings := p.findings.note [.unresolvedComponent place name] }
        else p
      let p := p.openMarkup name attributes
      if closing = .slash then return p.text " />"
      let p := p.text ">"
      if body.isEmpty && Template.isVoidTag name then return p
      let p ← writeNodes c own p body
      return p.text ("</" ++ name ++ ">")
    | some b => do
      let p := { p with findings := p.findings.use own place name attributes b }
      let target ← targetOf name b
      if body.isEmpty then
        return p.value (renderCall target attributes (.constant .none))
      let number := p.findings.contents + 1
      let inner ← writeNodes c own ⟨.empty, { p.findings with contents := number }⟩ body
      let content : Statement :=
        .function (contentName number) [] (bufferStart ++ inner.draft.finish ++ [bufferEnd])
      let p : Progress := ⟨p.draft.statement content, inner.findings⟩
      return p.value (renderCall target attributes (.name (contentName number)))

def writeNodes (c : Context) (own : String) (p : Progress) :
    List Node → Except HostFault Progress
  | [] => .ok p
  | n :: ns => do
    let p ← writeNode c own p n
    writeNodes c own p ns

end

end LivePreview.Component
