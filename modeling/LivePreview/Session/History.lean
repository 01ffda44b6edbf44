import LivePreview.Session.Preview

/-!
# Runs of sessions

What a user can ask of a session is a request. A run is any list of requests, those that fail among
them, and its history keeps for every cached path the text whose declaration was accepted last. The
declarations alone can also be run, with another engine for every refresh.
-/

namespace LivePreview.Session

open LivePreview.Component (Document)

/-! ## Refreshes alone -/

/-- A refresh and the engine that serves it. -/
structure Call where
  engine : Engine
  path : String
  content : String

namespace Declarations

def serve (d : Declarations) (call : Call) : Step Declarations Bool :=
  d.refresh call.engine call.path call.content

def serveAll (d : Declarations) (calls : List Call) : Declarations :=
  calls.foldl (fun d call => (d.serve call).state) d

/-- The answers to some refreshes, in order. -/
def answers (d : Declarations) : List Call → List (Except Failure Bool)
  | [] => []
  | call :: calls => (d.serve call).result :: answers (d.serve call).state calls

end Declarations

/-- Whether an answer is that the declaration changed. -/
def isChange {ε : Type} : Except ε Bool → Bool
  | .ok changed => changed
  | .error _ => false

/-! ## Requests -/

inductive Request where
  | add (path content : Option String)
  | update (path : String) (content : Option String)
  | document (path : String)
  deriving DecidableEq, Repr

/-- Serve a request. Only two of the three make a document. -/
def perform (s : Session) : Request → Step Session (Option Document)
  | .add path content =>
    let step := s.add path content
    ⟨step.log, step.state, step.result.map fun _ => none⟩
  | .update path content =>
    let step := s.update path content
    ⟨step.log, step.state, step.result.map some⟩
  | .document path => ⟨[], s, (s.document path).map some⟩

/-- The path and the text whose declaration a request refreshes, if it comes to that. -/
def refreshed? (s : Session) : Request → Option (String × String)
  | .add path content =>
    let path := path.getD ""
    if path.isEmpty then none else some (path, content.getD "")
  | .update path content =>
    if s.sources.contains path then some (path, content.getD "") else none
  | .document _ => none

/-- The path and the text of a request whose refresh succeeds. -/
def accepted? (s : Session) (r : Request) : Option (String × String) :=
  (s.refreshed? r).filter fun (path, text) =>
    (s.declarations.refresh s.engine path text).result.toBool

/-- A session with, for every cached path, the text whose declaration was accepted last. -/
structure History where
  session : Session
  accepted : Table String String

namespace History

def start (s : Session) : History := ⟨s, ∅⟩

def step (h : History) (r : Request) : History where
  session := (h.session.perform r).state
  accepted :=
    match h.session.accepted? r with
    | some (path, text) => h.accepted.insert path text
    | none => h.accepted

/-- The history of some requests. -/
def run (s : Session) (requests : List Request) : History := requests.foldl step (start s)

end History

end LivePreview.Session
