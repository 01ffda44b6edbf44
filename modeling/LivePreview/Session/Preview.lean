import LivePreview.Module.Closure
import LivePreview.Session.Declarations

/-!
# Preview sessions

A session holds the sources of a preview, their declarations and the context made from them. Its
external modules are found once, at the start. Every edit refreshes the declaration of its source
first; only then is the new text kept, and its document made.
-/

namespace LivePreview

open LivePreview.Component (Context Document Runner)
open LivePreview.Module (Record Registry Resolver Rule)

/-- What is fixed for a session. -/
structure Session.Config where
  aggregateName : String := "__limn_declarations__"
  rules : List Rule := Module.defaultRules
  /-- Whether modules without a file count as external modules. -/
  unlocated : Bool := false
  kind : String := "component"

structure Session where
  config : Session.Config
  engine : Session.Engine
  /-- The modules found at the start. -/
  closure : Registry
  sources : Table String Source
  declarations : Session.Declarations

namespace Session

def context (s : Session) : Context := s.declarations.context

def sessionLog : String := "limn.generator"

/-- A session without sources, and what its start reports. -/
def start (engine : Engine) (resolver : Resolver) (config : Config) (seeds : List Record)
    (run : Runner := Component.Stub.runText) : Log × Session :=
  let found := Module.closure resolver config.rules seeds
  let context := Context.new (found.registry.references config.unlocated) config.aggregateName run
  (found.log ++ [⟨.debug, sessionLog, "Generator ready with " ++
      toString context.external.length ++ " external modules"⟩],
    ⟨config, engine, found.registry, ∅, .new context config.kind⟩)

def missing (s : Session) (path : String) : Failure := .missingSource path s.sources.keys

def source (s : Session) (path : String) : Except Failure Source :=
  match s.sources.get? path with
  | some source => .ok source
  | none => .error (s.missing path)

/-- Register a source, in place of one of the same path. -/
def register (s : Session) (source : Source) : Log × Session :=
  (if s.sources.contains source.path then
      [⟨.debug, "limn.sources", "Replacing registered source '" ++ source.path ++ "'"⟩]
    else [],
    { s with sources := s.sources.insert source.path source })

/-- Refresh the declaration of a path. -/
def refresh (s : Session) (path content : String) : Step Session Bool :=
  let step := s.declarations.refresh s.engine path content
  ⟨step.log, { s with declarations := step.state }, step.result⟩

/-- Add a source, whose path may neither be left out nor be empty. It stays registered when its
declaration fails. -/
def add (s : Session) (path : Option String) (content : Option String) : Step Session Unit :=
  let path := path.getD ""
  if path.isEmpty then ⟨[], s, .error (.invalidArgument "path" "a source path is required")⟩
  else
    let text := content.getD ""
    let (log, registered) := s.register ⟨path, text, s.config.kind⟩
    let step := registered.refresh path text
    ⟨log ++ step.log, step.state, step.result.map fun _ => ()⟩

/-- Give a source a new text and make its document. -/
def update (s : Session) (path : String) (content : Option String) : Step Session Document :=
  match s.sources.get? path with
  | none => ⟨[], s, .error (s.missing path)⟩
  | some source =>
    let text := content.getD ""
    let step := s.refresh path text
    match step.result with
    | .error f => ⟨step.log, step.state, .error f⟩
    | .ok changed =>
      let note := if changed then
          [⟨.debug, sessionLog, "Public surface of '" ++ path ++ "' changed"⟩]
        else []
      let edited := { source with content := text }
      let next := { step.state with sources := step.state.sources.insert path edited }
      ⟨step.log ++ note, next, next.engine.document next.context edited⟩

/-- Make the document of a source once more. -/
def document (s : Session) (path : String) : Except Failure Document :=
  match s.sources.get? path with
  | none => .error (s.missing path)
  | some source => s.engine.document s.context source

/-- Rendering what is only declared fails. -/
def renderDeclaration (name : String) : HostFault := .notRendered name

end Session

end LivePreview
