import LivePreview.Component.Document

/-!
# Cached declarations

The last shape of every source is kept, and the aggregate is made anew from all of them only when
the text of one changes. A new shape is kept before the aggregate is made, and taken back when that
fails. What makes shapes and documents is left open: any engine will do.
-/

namespace LivePreview

/-- What an operation reports, leaves behind and answers. -/
structure Step (σ α : Type) where
  log : Log
  state : σ
  result : Except Failure α

structure Source where
  path : String
  content : String
  kind : String
  deriving DecidableEq, Repr

namespace Session

open LivePreview.Component (Context Document Shape)

/-- What makes the shape and the document of a source. -/
structure Engine where
  shape : Source → Except Failure Shape
  document : Context → Source → Except Failure Document

/-- The engine for component templates. -/
def templateEngine : Engine where
  shape s := Shape.extract s.path s.content
  document c s := Document.generate c s.path s.content

/-- The shapes of all sources, and the context that was made from them. -/
structure Declarations where
  shapes : Table String Shape
  context : Context
  /-- The kind of the sources that the engine is given. -/
  kind : String

namespace Declarations

def new (c : Context) (kind : String) : Declarations := ⟨∅, c, kind⟩

def cacheLog : String := "limn.cache"

def unchanged (path : String) : LogRecord :=
  ⟨.debug, cacheLog, "Declaration of '" ++ path ++ "' unchanged"⟩

def changed (path : String) : LogRecord :=
  ⟨.debug, cacheLog, "Declaration of '" ++ path ++ "' changed; aggregate rebuilt"⟩

def keep (d : Declarations) (path : String) (shape : Shape) : Declarations :=
  { d with shapes := d.shapes.insert path shape }

/-- Put back what was kept for a path before. -/
def restore (d : Declarations) (path : String) : Option Shape → Declarations
  | none => { d with shapes := d.shapes.erase path }
  | some old => d.keep path old

/-- Keep a shape and rebuild the aggregate from all shapes. -/
def store (d : Declarations) (path : String) (shape : Shape) : Step Declarations Bool :=
  let kept := d.keep path shape
  match kept.context.rebuild kept.shapes with
  | (log, .error f) => ⟨log, kept.restore path (d.shapes.get? path), .error f⟩
  | (log, .ok context) => ⟨log ++ [changed path], { kept with context }, .ok true⟩

/-- Bring the shape of a path up to date; the answer is whether it changed. -/
def refresh (engine : Engine) (d : Declarations) (path content : String) :
    Step Declarations Bool :=
  match engine.shape ⟨path, content, d.kind⟩ with
  | .error f => ⟨[], d, .error f⟩
  | .ok shape =>
    match d.shapes.get? path with
    | none => d.store path shape
    | some old =>
      if old.text = shape.text then ⟨[unchanged path], d, .ok false⟩ else d.store path shape

end Declarations

end Session

end LivePreview
