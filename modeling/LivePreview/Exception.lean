import LivePreview.Failure

/-!
# Exceptions and their handlers

What the host cannot do it answers with an exception of some kind. A handler takes the exceptions of
the kinds that it names; every other one goes on up.
-/

namespace LivePreview

/-- An exception in the words of the host. -/
structure HostError where
  kind : String
  message : String
  deriving DecidableEq, Repr

def HostError.text (e : HostError) : String := e.kind ++ ": " ++ e.message

/-- The failure to read or to understand a source. -/
def HostError.ofFault : HostFault → HostError
  | .unreadableCode => ⟨"SyntaxError", unreadable⟩
  | .noSuchFile path => ⟨"FileNotFoundError", (HostFault.noSuchFile path).text⟩
  | .notADirectory path => ⟨"NotADirectoryError", (HostFault.notADirectory path).text⟩
  | .isADirectory path => ⟨"IsADirectoryError", (HostFault.isADirectory path).text⟩
  | fault => ⟨"ValueError", fault.text⟩

/-- What goes up from an operation: a failure of this library, or an exception of the host. -/
inductive Raised where
  | failure (f : Failure)
  | host (e : HostError)
  deriving DecidableEq, Repr

/-- What a handler can name: ordinary exceptions, the end of the host, exceptions of the operating
system, undecodable bytes, unreadable code, and wrong values. -/
inductive Caught where
  | ordinary
  | exit
  | system
  | decoding
  | code
  | value
  deriving DecidableEq, Repr

/-- The kinds of exceptions that are no ordinary ones. -/
def abruptKinds : List String :=
  ["BaseException", "BaseExceptionGroup", "GeneratorExit", "KeyboardInterrupt", "SystemExit"]

def systemKinds : List String := [
  "OSError", "BlockingIOError", "BrokenPipeError", "ChildProcessError", "ConnectionAbortedError",
  "ConnectionError", "ConnectionRefusedError", "ConnectionResetError", "FileExistsError",
  "FileNotFoundError", "InterruptedError", "IsADirectoryError", "NotADirectoryError",
  "PermissionError", "ProcessLookupError", "TimeoutError"]

def codeKinds : List String := ["SyntaxError", "IndentationError", "TabError"]

def valueKinds : List String := [
  "ValueError", "UnicodeError", "UnicodeDecodeError", "UnicodeEncodeError",
  "UnicodeTranslateError"]

def Caught.takes : Caught → HostError → Bool
  | .ordinary, e => !abruptKinds.contains e.kind
  | .exit, e => e.kind = "SystemExit"
  | .system, e => systemKinds.contains e.kind
  | .decoding, e => e.kind = "UnicodeDecodeError"
  | .code, e => codeKinds.contains e.kind
  | .value, e => valueKinds.contains e.kind

/-- Whether a handler of ordinary exceptions takes it. -/
def Raised.isOrdinary : Raised → Bool
  | .failure _ => true
  | .host e => Caught.ordinary.takes e

/-- Do something that the host may refuse; what one of these handlers takes becomes a failure. -/
def guarded {α : Type} (handlers : List Caught) (action : Except HostError α)
    (failure : HostError → Failure) : Except Raised α :=
  match action with
  | .ok a => .ok a
  | .error e =>
    if handlers.any (·.takes e) then .error (.failure (failure e)) else .error (.host e)

end LivePreview
