import LivePreview.Code.Layout
import LivePreview.Code.Literal
import LivePreview.Component.Name
import LivePreview.Exception
import LivePreview.Text.Normal

/-!
# Reading declaration stubs

A stub is the text of a class as other templates see it. A class may show its surface, show nothing,
or raise an exception when it is made; it may derive from the base of all components, from a name
that nothing defines, or from nothing. A text may also define a number or nothing at all. Texts that
are no stubs can be run in a way of their own.
-/

namespace LivePreview.Component

open LivePreview.Text (behind?)

/-- What a class shows of a component. -/
structure Surface where
  source : Option String
  module : Option String
  /-- Names and hints. -/
  params : List (String × Option String)
  required : List String
  deriving DecidableEq, Repr

/-- What the base of all components shows. -/
def Surface.empty : Surface := ⟨none, none, [], []⟩

/-- Ordinary exceptions that show just the text that they are made with. -/
def plainKinds : List String := [
  "ArithmeticError", "AssertionError", "AttributeError", "BufferError", "EOFError", "Exception",
  "FloatingPointError", "ImportError", "IndentationError", "IndexError", "LookupError",
  "MemoryError", "ModuleNotFoundError", "NameError", "NotImplementedError", "OSError",
  "OverflowError", "RecursionError", "ReferenceError", "RuntimeError", "StopAsyncIteration",
  "StopIteration", "SyntaxError", "SystemError", "TabError", "TypeError", "UnboundLocalError",
  "UnicodeError", "ValueError", "ZeroDivisionError"]

abbrev PlainKind := { kind : String // kind ∈ plainKinds }

inductive StubBody where
  | shows (surface : Surface)
  | raises (kind : PlainKind) (message : String)
  deriving DecidableEq, Repr

inductive Stub where
  | empty
  | number (name : String)
  | classDef (name : String) (base : Option String) (body : StubBody)
  deriving DecidableEq, Repr

namespace Stub

abbrev Part (α : Type) := List Char → Option (α × List Char)

/-- A text literal. -/
def text : Part String := fun cs =>
  match cs with
  | quote :: rest =>
    if quote = '"' || quote = '\'' then do
      let (body, behind) ← Code.literalFrom quote rest
      let value ← Code.textValue? false body
      let s ← Text.Points.toString? value
      some (s, behind)
    else none
  | [] => none

def optionalText : Part (Option String) := fun cs =>
  match behind? "None".toList cs with
  | some rest => some (none, rest)
  | none => (text cs).map fun (s, rest) => (some s, rest)

/-- Further items of a tuple, each behind a comma, up to its end. -/
def moreItems {α : Type} (item : Part α) : (rounds : Nat) → Part (List α)
  | 0 => fun _ => none
  | rounds + 1 => fun cs =>
    match behind? [',', ' '] cs with
    | some rest => do
      let (a, rest) ← item rest
      let (as, rest) ← moreItems item rounds rest
      some (a :: as, rest)
    | none => do
      let rest ← behind? [')'] cs
      some ([], rest)

/-- A tuple; one item alone has a comma behind it. -/
def tuple {α : Type} (item : Part α) : Part (List α) := fun cs => do
  let rest ← behind? ['('] cs
  match behind? [')'] rest with
  | some rest => some ([], rest)
  | none => do
    let (a, rest) ← item rest
    match behind? [',', ')'] rest with
    | some rest => some ([a], rest)
    | none => do
      let (as, rest) ← moreItems item rest.length rest
      if as.isEmpty then none else some (a :: as, rest)

/-- A name with its hint. -/
def param : Part (String × Option String) := fun cs => do
  let rest ← behind? ['('] cs
  let (name, rest) ← text rest
  let rest ← behind? [',', ' '] rest
  let (hint, rest) ← optionalText rest
  let rest ← behind? [')'] rest
  some ((name, hint), rest)

/-- A line that sets an attribute. -/
def attributeLine {α : Type} (name : String) (value : Part α) : Part α := fun cs => do
  let rest ← behind? ("    ".toList ++ name.toList ++ " = ".toList) cs
  let (a, rest) ← value rest
  let rest ← behind? ['\n'] rest
  some (a, rest)

/-- The documentation and the four attributes of a surface. -/
def surface : Part Surface := fun cs => do
  let rest ← behind? "\n    ".toList cs
  let (_, rest) ← text rest
  let rest ← behind? ['\n'] rest
  let (source, rest) ← attributeLine "__source__" text rest
  let (module, rest) ← attributeLine "__generated_module__" text rest
  let (params, rest) ← attributeLine "__params__" (tuple param) rest
  let (required, rest) ← attributeLine "__required__" (tuple text) rest
  some (⟨some source, some module, params, required⟩, rest)

/-- The space before a body: a new line, or a blank on the same line. -/
def bodyStart? (cs : List Char) : Option (List Char) :=
  match behind? "\n    ".toList cs with
  | some rest => some rest
  | none => behind? [' '] cs

/-- A character of a name, as far as its extent goes. -/
def isNameChar (c : Char) : Bool := !("(): \n".toList.contains c)

/-- A name in normal form. -/
def name : Part String := fun cs =>
  let raw := cs.takeWhile isNameChar
  let s := String.ofList raw
  if Text.isIdentifier raw && !Text.isKeyword s then
    some (Text.normalForm s, cs.dropWhile isNameChar)
  else none

/-- The exception of a statement that raises one of some kinds. -/
def raised (kinds : List String) : Part ({ kind : String // kind ∈ kinds } × String) :=
  fun cs => do
    let rest ← behind? "raise ".toList cs
    let (kind, rest) ← name rest
    if h : kind ∈ kinds then
      let rest ← behind? ['('] rest
      let (message, rest) ← text rest
      let rest ← behind? [')'] rest
      some ((⟨kind, h⟩, message), rest)
    else none

def body : Part StubBody := fun cs =>
  match surface cs with
  | some (s, rest) => some (.shows s, rest)
  | none => do
    let rest ← bodyStart? cs
    match behind? "pass".toList rest with
    | some rest => some (.shows .empty, rest)
    | none =>
      (raised plainKinds rest).map fun ((kind, message), rest) => (.raises kind message, rest)

/-- The names that every text finds, whatever it defines. -/
def hostNames : List String := [
  "ArithmeticError", "AssertionError", "AttributeError", "BaseException", "BaseExceptionGroup",
  "BlockingIOError", "BrokenPipeError", "BufferError", "BytesWarning", "ChildProcessError",
  "ConnectionAbortedError", "ConnectionError", "ConnectionRefusedError", "ConnectionResetError",
  "DeprecationWarning", "EOFError", "Ellipsis", "EncodingWarning", "EnvironmentError",
  "Exception", "ExceptionGroup", "FileExistsError", "FileNotFoundError", "FloatingPointError",
  "FutureWarning", "GeneratorExit", "IOError", "ImportError", "ImportWarning", "IndentationError",
  "IndexError", "InterruptedError", "IsADirectoryError", "KeyError", "KeyboardInterrupt",
  "LookupError", "MemoryError", "ModuleNotFoundError", "NameError", "NotADirectoryError",
  "NotImplemented", "NotImplementedError", "OSError", "OverflowError",
  "PendingDeprecationWarning", "PermissionError", "ProcessLookupError", "RecursionError",
  "ReferenceError", "ResourceWarning", "RuntimeError", "RuntimeWarning", "StopAsyncIteration",
  "StopIteration", "SyntaxError", "SyntaxWarning", "SystemError", "SystemExit", "TabError",
  "TimeoutError", "TypeError", "UnboundLocalError", "UnicodeDecodeError", "UnicodeEncodeError",
  "UnicodeError", "UnicodeTranslateError", "UnicodeWarning", "UserWarning", "ValueError",
  "Warning", "ZeroDivisionError", "__build_class__", "__builtins__", "__debug__", "__doc__",
  "__import__", "__loader__", "__name__", "__package__", "__spec__", "abs", "aiter", "all",
  "anext", "any", "ascii", "bin", "bool", "breakpoint", "bytearray", "bytes", "callable", "chr",
  "classmethod", "compile", "complex", "copyright", "credits", "delattr", "dict", "dir", "divmod",
  "enumerate", "eval", "exec", "exit", "filter", "float", "format", "frozenset", "getattr",
  "globals", "hasattr", "hash", "help", "hex", "id", "input", "int", "isinstance", "issubclass",
  "iter", "len", "license", "list", "locals", "map", "max", "memoryview", "min", "next", "object",
  "oct", "open", "ord", "pow", "print", "property", "quit", "range", "repr", "reversed", "round",
  "set", "setattr", "slice", "sorted", "staticmethod", "str", "sum", "super", "tuple", "type",
  "vars", "zip"]

/-- The base in parentheses, if there is one: that of all components, or a name that nothing
defines. -/
def base : Part (Option String) := fun cs =>
  match behind? ['('] cs with
  | none => some (none, cs)
  | some rest => do
    let (s, rest) ← name rest
    let rest ← behind? [')'] rest
    if s ≠ baseName && hostNames.contains s then none else some (some s, rest)

def classText : Part Stub := fun cs => do
  let rest ← behind? "class ".toList cs
  let (name, rest) ← name rest
  let (base, rest) ← base rest
  let rest ← behind? [':'] rest
  let (body, rest) ← body rest
  some (.classDef name base body, rest)

def numberText : Part Stub := fun cs => do
  let (name, rest) ← name cs
  let rest ← behind? " = ".toList rest
  let digits := rest.takeWhile Char.isDigit
  if digits.isEmpty then none else some (.number name, rest.dropWhile Char.isDigit)

/-- Whether only line ends are left. -/
def isDone (cs : List Char) : Bool := cs.all (· = '\n')

/-- The stub that a whole text is. -/
def ofChars? (cs : List Char) : Option Stub :=
  if isDone cs then some .empty
  else do
    let (stub, rest) ← if "class ".toList.isPrefixOf cs then classText cs else numberText cs
    if isDone rest then some stub else none

end Stub

/-- What a name stands for after a stub has run. -/
inductive Definition where
  | nothing
  /-- The base of all components itself. -/
  | base
  | component (surface : Surface)
  deriving DecidableEq, Repr

namespace Stub

/-- What `wanted` stands for when nothing has defined it. -/
def unset (wanted : String) : Definition := if wanted = baseName then .base else .nothing

/-- Run a stub by itself, and look up the name `wanted` behind it. -/
def run (wanted : String) : Stub → Except HostError Definition
  | .empty => .ok (unset wanted)
  | .number name => .ok (if name = wanted then .nothing else unset wanted)
  | .classDef name base body =>
    match base with
    | some b =>
      if b = baseName then
        match body with
        | .raises kind message => .error ⟨kind, message⟩
        | .shows s => .ok (if name = wanted then .component s else unset wanted)
      else .error ⟨"NameError", (HostFault.undefinedName b).text⟩
    | none =>
      match body with
      | .raises kind message => .error ⟨kind, message⟩
      | .shows _ => .ok (if name = wanted then .nothing else unset wanted)

end Stub

/-- How a text that keeps to itself is run, and a name looked up behind it. There is no answer for a
text that cannot be read, and a run that fails raises an ordinary exception. -/
structure Runner where
  run : (text wanted : String) → Option (Except HostError Definition)
  ordinary : ∀ {text wanted e}, run text wanted = some (.error e) → Caught.ordinary.takes e = true

instance : CoeFun Runner fun _ => (text wanted : String) → Option (Except HostError Definition) :=
  ⟨Runner.run⟩

namespace Stub

theorem ordinary_of_plain {kind : String} (h : kind ∈ plainKinds) (message : String) :
    Caught.ordinary.takes ⟨kind, message⟩ = true := by
  have hall : ∀ kind ∈ plainKinds, !abruptKinds.contains kind := by decide
  exact hall kind h

theorem ordinary_of_run {wanted : String} {stub : Stub} {e : HostError}
    (h : stub.run wanted = .error e) : Caught.ordinary.takes e = true := by
  unfold run at h
  split at h
  · cases h
  · cases h
  · split at h
    · split at h
      · split at h
        · cases h
          exact ordinary_of_plain (Subtype.property _) _
        · cases h
      · cases h
        exact ordinary_of_plain (by decide) _
    · split at h
      · cases h
        exact ordinary_of_plain (Subtype.property _) _
      · cases h

/-- Every text is read as a stub. -/
def runText : Runner where
  run text wanted := (ofChars? text.toList).map (run wanted)
  ordinary h := by
    obtain ⟨stub, -, hrun⟩ := Option.map_eq_some_iff.mp h
    exact ordinary_of_run hrun

theorem runText_eq (text wanted : String) :
    runText text wanted = (ofChars? text.toList).map (run wanted) := rfl

end Stub

end LivePreview.Component
