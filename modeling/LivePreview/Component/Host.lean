import LivePreview.Component.Context

/-!
# Texts on a host

All texts run on one host, and the base that each of them has in its scope is one object: what a text
leaves there, a later one finds. A run may also end in an exception that is no ordinary one. Here an
aggregate is made on a host whose state goes from text to text, with the handlers that stand around
each text; nothing else stops an exception.
-/

namespace LivePreview.Component

/-- How the compilation and the run of a text end. -/
inductive Ending where
  | unreadable
  /-- The host gives up on the text, though it may be readable. -/
  | refused (e : HostError)
  | raised (e : HostError)
  | defined (definition : Definition)
  deriving DecidableEq, Repr

namespace Ending

def ofResult : Except HostError Definition → Ending
  | .error e => .raised e
  | .ok definition => .defined definition

/-- The end of a text that a runner runs. -/
def ofRun : Option (Except HostError Definition) → Ending
  | none => .unreadable
  | some result => ofResult result

/-- Whether nothing but an ordinary exception comes out. -/
def isContained : Ending → Bool
  | .refused e | .raised e => Caught.ordinary.takes e
  | .unreadable | .defined _ => true

end Ending

/-- How a host with states in `W` runs a text and looks up a name behind it: what is left behind, and
how the text ends. -/
abbrev Host (W : Type) := W → (text wanted : String) → W × Ending

/-- What an operation on a host reports, leaves behind and answers. -/
structure Ran (σ α : Type) where
  log : Log
  state : σ
  result : Except Raised α

namespace Host

variable {W : Type} (host : Host W)

/-- What a shape declares under the name of its component. A handler of ordinary exceptions stands
around the run; around the compilation, only one of unreadable code. -/
def declared (w : W) (path : String) (shape : Shape) : W × Except Raised (Option Surface) :=
  if path.toList.contains '\x00' then (w, .error (.failure (.host .nullInPath)))
  else if shape.text.toList.contains '\x00' then (w, .error (.failure (.host .nullInCode)))
  else
    let (left, ending) := host w shape.text shape.component
    (left, match ending with
      | .unreadable => .error (.failure (Aggregate.uncompiled path))
      | .refused e => .error (.host e)
      | .raised e => guarded [.ordinary] (.error e) (Aggregate.failed path)
      | .defined definition =>
        (Aggregate.member path shape.component definition).mapError .failure)

/-- Enter the shapes in order, up to the first that fails. -/
def enterAll : W → Aggregate.Build → List (String × Shape) → Ran W Aggregate.Build
  | w, b, [] => ⟨b.log, w, .ok b⟩
  | w, b, (path, shape) :: shapes =>
    match host.declared w path shape with
    | (left, .error raised) => ⟨b.log, left, .error raised⟩
    | (left, .ok surface?) => enterAll left (b.enter path shape.component surface?) shapes

/-- Make the aggregate of some shapes. -/
def build (w : W) (name : String) (references : List String) (shapes : Table String Shape) :
    Ran W Aggregate :=
  let entered := host.enterAll w ⟨Aggregate.firstMembers, ∅, []⟩ shapes.entries
  { entered with
    result := entered.result.map fun b => ⟨name, references, b.members, shapes.keys⟩ }

/-- Replace the aggregate of a context by that of other shapes. -/
def rebuild (w : W) (c : Context) (shapes : Table String Shape) : Ran W Context :=
  match host.build w c.aggregateName (c.external.map (·.name)) shapes with
  | ⟨log, left, .error raised⟩ => ⟨log, left, .error raised⟩
  | ⟨log, left, .ok aggregate⟩ =>
    ⟨log ++ [(c.replace aggregate).rebuilt], left, .ok (c.replace aggregate)⟩

end Host

/-! ## Flags -/

/-- Whether the flags are raised that texts have set on the base. -/
abbrev Flags := Table String Bool

/-- Exceptions that are no ordinary ones and show just the text that they are made with. -/
def endingKinds : List String := ["BaseException", "GeneratorExit", "KeyboardInterrupt", "SystemExit"]

abbrev EndingKind := { kind : String // kind ∈ endingKinds }

/-- A text that may reach beyond its own scope. -/
inductive Reach where
  | alone (stub : Stub)
  /-- The text sets a flag on the base, and is a stub otherwise. -/
  | sets (flag : String) (value : Bool) (stub : Stub)
  /-- The class is made unless the flag is raised. -/
  | watches (name flag : String) (kind : PlainKind) (message : String)
  /-- Making the class ends the host. -/
  | ends (name : String) (kind : EndingKind) (message : String)
  deriving DecidableEq, Repr

namespace Reach

open LivePreview.Text (behind?)

/-- A name on the base that stands for nothing else there. -/
def flag : Stub.Part String := fun cs => do
  let rest ← behind? (baseName.toList ++ ['.']) cs
  let (s, rest) ← Stub.name rest
  if s.toList.head? = some '_' || ["render", "mro"].contains s then none else some (s, rest)

def truth : Stub.Part Bool := fun cs =>
  match behind? "True".toList cs with
  | some rest => some (true, rest)
  | none => (behind? "False".toList cs).map fun rest => (false, rest)

def setText? (cs : List Char) : Option Reach := do
  let (s, rest) ← flag cs
  let rest ← behind? " = ".toList rest
  let (value, rest) ← truth rest
  let rest ← behind? ['\n'] rest
  (Stub.ofChars? rest).map (.sets s value)

/-- The head of a class that derives from the base. -/
def head : Stub.Part String := fun cs => do
  let rest ← behind? "class ".toList cs
  let (name, rest) ← Stub.name rest
  let rest ← behind? ("(".toList ++ baseName.toList ++ "):".toList) rest
  let rest ← Stub.bodyStart? rest
  some (name, rest)

def watchText? (cs : List Char) : Option Reach := do
  let (name, rest) ← head cs
  let rest ← behind? "if ".toList rest
  let (s, rest) ← flag rest
  let rest ← behind? ": ".toList rest
  let ((kind, message), rest) ← Stub.raised plainKinds rest
  if Stub.isDone rest then some (.watches name s kind message) else none

def endText? (cs : List Char) : Option Reach := do
  let (name, rest) ← head cs
  let ((kind, message), rest) ← Stub.raised endingKinds rest
  if Stub.isDone rest then some (.ends name kind message) else none

def ofChars? (cs : List Char) : Option Reach :=
  setText? cs <|> watchText? cs <|> endText? cs <|> (Stub.ofChars? cs).map .alone

/-- Run a text where flags have been set, and look up the name `wanted` behind it. -/
def run (flags : Flags) (wanted : String) : Reach → Flags × Except HostError Definition
  | .alone stub => (flags, stub.run wanted)
  | .sets flag value stub => (flags.insert flag value, stub.run wanted)
  | .watches name flag kind message =>
    (flags, match flags.get? flag with
      | none => .error ⟨"AttributeError",
          "type object '" ++ baseName ++ "' has no attribute '" ++ flag ++ "'"⟩
      | some true => .error ⟨kind, message⟩
      | some false => .ok (if name = wanted then .component .empty else Stub.unset wanted))
  | .ends _ kind message => (flags, .error ⟨kind, message⟩)

end Reach

/-- The host on which texts share the flags of the base. -/
def Flags.host : Host Flags := fun flags text wanted =>
  match Reach.ofChars? text.toList with
  | none => (flags, .unreadable)
  | some reach => (reach.run flags wanted).map id .ofResult

end LivePreview.Component
