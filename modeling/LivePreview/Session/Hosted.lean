import LivePreview.Component.Host
import LivePreview.Session.History

/-!
# Cached declarations on a host

The declarations are kept as everywhere, but their texts run on a host: its state goes from refresh to
refresh, and is never taken back. A new shape is taken back when the aggregate cannot be made because
of an ordinary exception. Any other exception goes on up, and leaves the shape where it is.
-/

namespace LivePreview.Session

open LivePreview.Component (Context Host Ran Shape)

/-- Declarations, and the state of the host on which their texts run. -/
structure Hosted (W : Type) where
  world : W
  declarations : Declarations

namespace Hosted

variable {W : Type} (host : Host W)

/-- Keep a shape and rebuild the aggregate from all shapes. -/
def store (h : Hosted W) (path : String) (shape : Shape) : Ran (Hosted W) Bool :=
  let kept := h.declarations.keep path shape
  match host.rebuild h.world kept.context kept.shapes with
  | ⟨log, world, .error raised⟩ =>
    let declarations :=
      if raised.isOrdinary then kept.restore path (h.declarations.shapes.get? path) else kept
    ⟨log, ⟨world, declarations⟩, .error raised⟩
  | ⟨log, world, .ok context⟩ =>
    ⟨log ++ [Declarations.changed path], ⟨world, { kept with context }⟩, .ok true⟩

/-- Bring the shape of a path up to date; the answer is whether it changed. -/
def refresh (engine : Engine) (h : Hosted W) (path content : String) : Ran (Hosted W) Bool :=
  match engine.shape ⟨path, content, h.declarations.kind⟩ with
  | .error f => ⟨[], h, .error (.failure f)⟩
  | .ok shape =>
    match h.declarations.shapes.get? path with
    | none => h.store host path shape
    | some old =>
      if old.text = shape.text then ⟨[Declarations.unchanged path], h, .ok false⟩
      else h.store host path shape

def serve (h : Hosted W) (call : Call) : Ran (Hosted W) Bool :=
  h.refresh host call.engine call.path call.content

def serveAll (h : Hosted W) (calls : List Call) : Hosted W :=
  calls.foldl (fun h call => (h.serve host call).state) h

/-- The answers to some refreshes, in order. -/
def answers (h : Hosted W) : List Call → List (Except Raised Bool)
  | [] => []
  | call :: calls => (h.serve host call).result :: answers (h.serve host call).state calls

end Hosted

end LivePreview.Session
