import LivePreview.Code.Placement
import LivePreview.Code.Refusal
import LivePreview.Component.Body

/-!
# Generated documents

A document is the text of the module that renders a template, with the diagnostics met on the way.
The module imports what its body uses, and defines one class with the surface of the template, a way
to take parameters, and a way to render. It is checked as a whole before it is written.
-/

namespace LivePreview.Component

open LivePreview.Code (Expr Statement Parameter checkModule)

structure Document where
  path : String
  component : String
  code : String
  diagnostics : List Diagnostic
  /-- The names of resolved components in order of first use. -/
  components : List String
  /-- The generation of the context it was made against. -/
  version : Nat
  deriving DecidableEq, Repr

namespace Document

def errors (d : Document) : List Diagnostic := d.diagnostics.filter (·.gravity = .error)

def warnings (d : Document) : List Diagnostic := d.diagnostics.filter (·.gravity = .warning)

def hasErrors (d : Document) : Bool := d.diagnostics.any (·.gravity = .error)

end Document

/-- The imports of every generated module. -/
def fixedImports : List Statement := [
  .importFrom "__future__" [⟨"annotations", none⟩],
  .importFrom "limn.runtime" [⟨baseName, none⟩, ⟨"Markup", some "_Markup"⟩,
    ⟨"escape", some "_escape"⟩, ⟨"render_component", some "_render_component"⟩]]

/-- The modules that a template names, each once. -/
def usedModules (t : Template) : List String :=
  t.usings.foldl (fun ms u => if ms.contains u.module then ms else ms ++ [u.module]) []

/-- The imported components and their modules, ascending. -/
def sortImports (imports : List (String × String)) : List (String × String) :=
  imports.mergeSort fun a b => !decide (b.1 < a.1)

def header (t : Template) (f : Findings) : List Statement :=
  let used := usedModules t
  let others := Module.sortNames (f.externals.filter fun m => !used.contains m)
  fixedImports ++ (used ++ others).map .importModule ++
    (sortImports f.imports.entries).map fun (name, module) => .importFrom module [⟨name, none⟩]

/-- Modules that a template names and the context does not know. -/
def unknownModules (c : Context) (t : Template) : List Diagnostic :=
  (t.usings.filter fun u => !c.hasModule u.module).map fun u =>
    .unresolvedModule u.place u.module

def selfName : Expr := .name "self"

/-- Keep every parameter on the component. -/
def initializer (t : Template) : Statement :=
  let stores := t.params.map fun p =>
    Statement.assign (.attribute selfName p.name) (.name p.name)
  .function "__init__"
    (⟨"self", false, none, none⟩ ::
      t.params.map fun p => ⟨p.name, true, p.hint.map (·.tree), p.default.map (·.tree)⟩)
    (if stores.isEmpty then [.pass] else stores)

/-- The content that a component is given, as safe text. -/
def contentBinding : Statement :=
  .assign (.name "children")
    (Draft.callOf "_Markup" [
      .conditional (.compare (.name "_children") [.step .notSame (.constant .none)])
        (Draft.callOf "_children" []) (.ofText "")])

/-- Make the parameters names again, and then the output. -/
def renderer (t : Template) (body : List Statement) : Statement :=
  let loads := t.params.map fun p =>
    Statement.assign (.name p.name) (.attribute selfName p.name)
  let content := if t.params.any (·.name = "children") then [] else [contentBinding]
  .function "render"
    [⟨"self", false, none, none⟩, ⟨"_children", false, none, some (.constant .none)⟩]
    (loads ++ content ++ bufferStart ++ body ++ [bufferEnd])

def componentClass (t : Template) (path : String) (body : List Statement) : Statement :=
  .classDef (componentName path) baseName ("Generated from " ++ path ++ ".")
    (surface t path ++ [initializer t, renderer t body])

/-- The hints of parameters and then their defaults. -/
def parameterParts (ps : List Parameter) : List Expr :=
  ps.filterMap (·.hint) ++ ps.filterMap (·.default)

mutual

/-- The first name that is spelled as a constant. -/
def constantName? : Statement → Option String
  | .importModule _ | .importFrom _ _ | .pass => none
  | .classDef _ _ _ body => blockConstantName? body
  | .function _ params body =>
    blockConstantName? body <|> (parameterParts params).findSome? Expr.constantName?
  | .assign target value => target.constantName? <|> value.constantName?
  | .expression value | .return value => value.constantName?

def blockConstantName? : List Statement → Option String
  | [] => none
  | s :: ss => constantName? s <|> blockConstantName? ss

end

def unwritableParameter? (p : Parameter) : Option HostFault :=
  (p.hint.bind Expr.unwritable?) <|> (p.default.bind Expr.unwritable?)

mutual

/-- The first reason why a statement has no text. -/
def unwritable? : Statement → Option HostFault
  | .importModule _ | .importFrom _ _ | .pass => none
  | .classDef _ _ _ body => blockUnwritable? body
  | .function _ params body => params.findSome? unwritableParameter? <|> blockUnwritable? body
  | .assign target value => target.unwritable? <|> value.unwritable?
  | .expression value | .return value => value.unwritable?

def blockUnwritable? : List Statement → Option HostFault
  | [] => none
  | s :: ss => unwritable? s <|> blockUnwritable? ss

end

/-- The text of a module that passes all checks. -/
def moduleText (path : String) (ss : List Statement) : Except Failure String :=
  if path.toList.contains '\x00' then .error (.host .nullInPath)
  else match blockConstantName? ss with
    | some name => .error (.host (.constantAsName name))
    | none =>
      match checkModule ss with
      | .error fault => .error (.generation path fault.message)
      | .ok () =>
        match blockUnwritable? ss with
        | some fault => .error (.host fault)
        | none => .ok (Statement.text ss)

/-- Compile a template against a context. -/
def compile (c : Context) (t : Template) (path : String) : Except Failure Document :=
  match writeNodes c (componentName path) ⟨.empty, .empty⟩ t.body with
  | .error fault => .error (.host fault)
  | .ok p => do
    let code ← moduleText path
      (header t p.findings ++ [componentClass t path p.draft.finish])
    return {
      path := path
      component := componentName path
      code := code
      diagnostics := Diagnostic.sort (p.findings.diagnostics ++ unknownModules c t)
      components := p.findings.resolved
      version := c.generation }

/-- The document of a template text. -/
def Document.generate (c : Context) (path content : String) : Except Failure Document :=
  match Template.ofChars content.toList with
  | .ok t => compile c t path
  | .error o => .error (ofObjection .generation path o)

end LivePreview.Component
