import LivePreview.Module.Closure
import LivePreview.Module.Tree

/-!
# Closures over operations that raise

An exception that no handler takes goes on up, and ends the closure in the end. Here the operations on
module files, and a closure over such operations, stand with the handlers around them, and with
nothing else to stop an exception. The reader of sources may give up on a text.
-/

namespace LivePreview.Module

variable {α : Type}

/-! ## Answers -/

/-- The answer to a module that was asked for: that it cannot be loaded is an answer, too. -/
def loadAnswer : Except Raised α → Except Raised (Except Failure α)
  | .ok a => .ok (.ok a)
  | .error (.failure (.moduleLoad name reason location)) =>
    .ok (.error (.moduleLoad name reason location))
  | .error raised => .error raised

/-- The answer to a listing: what the operating system says against it is an answer, too. -/
def listAnswer : Except Raised α → Except Raised (Except String α)
  | .ok a => .ok (.ok a)
  | .error (.host e) => if Caught.system.takes e then .ok (.error e.message) else .error (.host e)
  | .error raised => .error raised

/-! ## Module files -/

/-- The operations of a resolver, which may end in exceptions of any kind. -/
structure RaisingResolver where
  load : String → Except Raised Record
  list : Location → Except Raised (List Location)
  inspect : Location → Except Raised Record
  /-- A bound on the number of names that can be loaded. -/
  size : Nat

section Files

variable (t : FileTree) (settings : FileSettings) (limits : Limits)

/-- The record of a module; reading its source is guarded. -/
def describeGuarded (name : String) (l : Option Location) (package : Option String) :
    Except Raised Record :=
  match l with
  | none => .ok { name }
  | some l =>
    if l.hasEnding sourceEnding then
      (guarded [.system, .decoding, .code, .value] (fileImports t settings limits l package) fun e =>
        .moduleLoad name e.text (some l)).map fun references =>
          { name, location := some l, references }
    else .ok { name, location := some l }

/-- Load a module; looking for it runs packages, and is guarded. -/
def loadGuarded (name : String) : Except Raised Record := do
  match ← guarded [.ordinary, .exit] (t.locate name) fun e => .moduleLoad name e.text none with
  | none => .error (.failure (.moduleLoad name "no module spec found" none))
  | some found =>
    describeGuarded t settings limits name (found.path?.map t.location)
      (some (if found.directory?.isSome then name else outerPackage name))

/-- List the module files in a directory, with nothing around it. The host takes no null character in
a path. -/
def listUnguarded (l : Location) : Except Raised (List Location) :=
  if l.text.toList.contains '\x00' then .error (.host ⟨"ValueError", "embedded null byte"⟩)
  else (listFiles t settings l).mapError fun fault => .host (.ofFault fault)

def inspectGuarded (l : Location) : Except Raised Record :=
  let name := nameOfFile l
  if Text.isIdentifier name.toList then
    describeGuarded t settings limits name (some l)
      (if "__init__.".toList.isPrefixOf l.name.toList then some name else none)
  else .error (.failure (.moduleLoad name "file name is not a module name" (some l)))

def RaisingResolver.ofFiles : RaisingResolver where
  load := loadGuarded t settings limits
  list := listUnguarded t settings
  inspect := inspectGuarded t settings limits
  size := (Resolver.ofFiles t settings).size

end Files

/-! ## Closures -/

namespace RaisingResolver

variable (resolver : RaisingResolver)

def followReference (state : Search × Queue) (name : String) : Except Raised (Search × Queue) :=
  let (s, q) := state
  if s.registry.contains name || q.pending.contains name || s.failed.contains name then .ok (s, q)
  else do
    let s := { s with loads := s.loads ++ [name] }
    match ← loadAnswer (resolver.load name) with
    | .ok m => return (s, ⟨q.modules ++ [m], m.name :: q.pending⟩)
    | .error f =>
      let s := s.warn
        ("Could not load referenced module '" ++ name ++ "'. Skipping. " ++ f.message)
      return ({ s.recordFailure f with failed := name :: s.failed }, q)

def visit (s : Search) (m : Record) (rest : Queue) : Except Raised (Search × Queue) :=
  let rest := { rest with pending := rest.pending.filter (· ≠ m.name) }
  if s.registry.contains m.name then .ok (s, rest)
  else m.references.foldlM resolver.followReference
    ({ s with registry := s.registry.add m }, rest)

def drain : (rounds : Nat) → Search → Queue → Except Raised Search
  | 0, s, _ => .ok s
  | rounds + 1, s, q =>
    match q.modules with
    | [] => .ok s
    | m :: ms => do
      let (s, q) ← resolver.visit s m { q with modules := ms }
      drain rounds s q

def traverse (s : Search) (ms : List Record) : Except Raised Search :=
  resolver.drain (ms.length + resolver.size) s (.ofList ms)

def inspectFiles : Search → (found : List Record) → List Location →
    Except Raised (Search × List Record)
  | s, found, [] => .ok (s, found)
  | s, found, l :: ls => do
    match ← loadAnswer (resolver.inspect l) with
    | .error f =>
      let s := s.warn ("Could not read module file '" ++ l.text ++ "'. Skipping. " ++ f.message)
      inspectFiles (s.recordFailure f) found ls
    | .ok m =>
      if s.registry.contains m.name || found.any (·.name = m.name) then inspectFiles s found ls
      else inspectFiles s (found ++ [m]) ls

def discover (s : Search) (rule : Rule) : Except Raised (Search × List Record) :=
  match (s.registry.get? rule.anchor).map (·.location) with
  | none => .ok (s.fail (.anchorMissing rule.family rule.anchor "not loaded"), [])
  | some none => .ok (s.fail (.anchorMissing rule.family rule.anchor "not file-backed"), [])
  | some (some location) => do
    let directory := rule.sibling.directory location
    match ← listAnswer (resolver.list directory) with
    | .error reason =>
      return (s.fail (.moduleLoad rule.family
        ("cannot list " ++ directory.text ++ ": " ++ reason) none), [])
    | .ok files => do
      let (s, found) ← resolver.inspectFiles s [] files
      return (s.note ("Discovery '" ++ rule.family ++ "': " ++ toString found.length ++
        " new modules from " ++ directory.text), found)

def applyRule (s : Search) (rule : Rule) : Except Raised Search := do
  let (s, found) ← resolver.discover s rule
  resolver.traverse s found

/-- Everything that the seeds and the rules lead to, unless an exception gets out. -/
def closure (rules : List Rule) (seeds : List Record) : Except Raised Search := do
  let s ← resolver.traverse .start seeds
  let s ← rules.foldlM resolver.applyRule s
  return s.note ("Module closure: " ++ toString s.registry.records.size ++ " modules, " ++
    toString s.registry.failures.length ++ " skipped")

end RaisingResolver

end LivePreview.Module
