import LivePreview.Log
import LivePreview.Module.Resolver
import LivePreview.Module.Rule

/-!
# The closure of a set of modules

From the seeds every reference is followed, breadth first: a module is recorded when it leaves the
queue, and its references are loaded then, unless they are recorded, queued or known to fail. After
that each rule looks for its family, and what it finds is followed in the same way. A failure is
logged and recorded, and never stops the traversal.
-/

namespace LivePreview.Module

/-- The state of a traversal. -/
structure Search where
  registry : Registry
  /-- Names that could not be loaded. -/
  failed : List String
  /-- The names that were loaded, in order, failures included. -/
  loads : List String
  log : Log

def closureLog : String := "limn.modules.closure"

namespace Search

def start : Search := ⟨.empty, [], [], []⟩

def warn (s : Search) (message : String) : Search :=
  { s with log := s.log ++ [⟨.warning, closureLog, message⟩] }

def note (s : Search) (message : String) : Search :=
  { s with log := s.log ++ [⟨.debug, closureLog, message⟩] }

def recordFailure (s : Search) (f : Failure) : Search :=
  { s with registry := s.registry.recordFailure f }

end Search

/-- Modules that wait to be recorded. -/
structure Queue where
  modules : List Record
  /-- Their names, and those under which they were loaded. -/
  pending : List String

def Queue.ofList (ms : List Record) : Queue := ⟨ms, ms.map (·.name)⟩

/-- Follow one reference of a recorded module. -/
def followReference (resolver : Resolver) (state : Search × Queue) (name : String) :
    Search × Queue :=
  let (s, q) := state
  if s.registry.contains name || q.pending.contains name || s.failed.contains name then (s, q)
  else
    let s := { s with loads := s.loads ++ [name] }
    match resolver.load name with
    | .ok m => (s, ⟨q.modules ++ [m], m.name :: q.pending⟩)
    | .error f =>
      let s := s.warn
        ("Could not load referenced module '" ++ name ++ "'. Skipping. " ++ f.message)
      ({ s.recordFailure f with failed := name :: s.failed }, q)

/-- Record the first module of the queue, and follow its references if its name is new. -/
def visit (resolver : Resolver) (s : Search) (m : Record) (rest : Queue) : Search × Queue :=
  let rest := { rest with pending := rest.pending.filter (· ≠ m.name) }
  if s.registry.contains m.name then (s, rest)
  else m.references.foldl (followReference resolver)
    ({ s with registry := s.registry.add m }, rest)

/-- Empty the queue. Every round takes a module from it. -/
def drain (resolver : Resolver) : (rounds : Nat) → Search → Queue → Search
  | 0, s, _ => s
  | rounds + 1, s, q =>
    match q.modules with
    | [] => s
    | m :: ms =>
      let (s, q) := visit resolver s m { q with modules := ms }
      drain resolver rounds s q

/-- Follow all references from some modules on. A name is loaded once at most, so the modules given
and those that can be loaded bound the rounds. -/
def traverse (resolver : Resolver) (s : Search) (ms : List Record) : Search :=
  drain resolver (ms.length + resolver.size) s (.ofList ms)

/-- Read the files of a family; one record for each new name, the first. -/
def inspectFiles (resolver : Resolver) :
    Search → (found : List Record) → List Location → Search × List Record
  | s, found, [] => (s, found)
  | s, found, l :: ls =>
    match resolver.inspect l with
    | .error f =>
      let s := s.warn ("Could not read module file '" ++ l.text ++ "'. Skipping. " ++ f.message)
      inspectFiles resolver (s.recordFailure f) found ls
    | .ok m =>
      if s.registry.contains m.name || found.any (·.name = m.name) then
        inspectFiles resolver s found ls
      else inspectFiles resolver s (found ++ [m]) ls

/-- Record a failure and log it in its own words. -/
def Search.fail (s : Search) (f : Failure) : Search := (s.warn f.message).recordFailure f

/-- The new modules of the family of a rule. -/
def discover (resolver : Resolver) (s : Search) (rule : Rule) : Search × List Record :=
  match (s.registry.get? rule.anchor).map (·.location) with
  | none => (s.fail (.anchorMissing rule.family rule.anchor "not loaded"), [])
  | some none => (s.fail (.anchorMissing rule.family rule.anchor "not file-backed"), [])
  | some (some location) =>
    let directory := rule.sibling.directory location
    match resolver.list directory with
    | .error fault =>
      (s.fail (.moduleLoad rule.family
        ("cannot list " ++ directory.text ++ ": " ++ fault.text) none), [])
    | .ok files =>
      let (s, found) := inspectFiles resolver s [] files
      (s.note ("Discovery '" ++ rule.family ++ "': " ++ toString found.length ++
        " new modules from " ++ directory.text), found)

/-- Apply one rule and follow what it finds. -/
def applyRule (resolver : Resolver) (s : Search) (rule : Rule) : Search :=
  let (s, found) := discover resolver s rule
  traverse resolver s found

/-- Everything that the seeds and the rules lead to. -/
def closure (resolver : Resolver) (rules : List Rule) (seeds : List Record) : Search :=
  let s := rules.foldl (applyRule resolver) (traverse resolver .start seeds)
  s.note ("Module closure: " ++ toString s.registry.records.size ++ " modules, " ++
    toString s.registry.failures.length ++ " skipped")

end LivePreview.Module
