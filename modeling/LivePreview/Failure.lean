import LivePreview.Code.Quoted
import LivePreview.Location
import LivePreview.Text.Blank
import LivePreview.Text.Similar

/-!
# Failures

Every failure of the library is a cause with the facts that its message shows. A code groups causes
for search, and a category groups codes. Failures that only the target language's own reader,
checker or interpreter words are kept apart as host faults.
-/

namespace LivePreview

/-- Searchable codes of failures and diagnostics. -/
inductive Code where
  | invalidArgument
  | sourceNotFound
  | moduleLoadFailed
  | anchorModuleMissing
  | malformedTemplate
  | declarationFailed
  | generationFailed
  | unresolvedComponent
  | unknownAttribute
  | missingRequiredParam
  | unresolvedModule
  deriving DecidableEq, Repr

namespace Code

def all : List Code := [
  invalidArgument, sourceNotFound, moduleLoadFailed, anchorModuleMissing, malformedTemplate,
  declarationFailed, generationFailed, unresolvedComponent, unknownAttribute, missingRequiredParam,
  unresolvedModule]

def label : Code → String
  | invalidArgument => "INVALID_ARGUMENT"
  | sourceNotFound => "SOURCE_NOT_FOUND"
  | moduleLoadFailed => "MODULE_LOAD_FAILED"
  | anchorModuleMissing => "ANCHOR_MODULE_MISSING"
  | malformedTemplate => "SYNTAX_ERROR"
  | declarationFailed => "DECLARATION_FAILED"
  | generationFailed => "GENERATION_FAILED"
  | unresolvedComponent => "UNRESOLVED_COMPONENT"
  | unknownAttribute => "UNKNOWN_ATTRIBUTE"
  | missingRequiredParam => "MISSING_REQUIRED_PARAM"
  | unresolvedModule => "UNRESOLVED_MODULE"

def value : Code → String
  | invalidArgument => "L-ARG-001"
  | sourceNotFound => "L-SRC-001"
  | moduleLoadFailed => "L-MOD-001"
  | anchorModuleMissing => "L-MOD-002"
  | malformedTemplate => "L-PAR-001"
  | declarationFailed => "L-DEC-001"
  | generationFailed => "L-GEN-001"
  | unresolvedComponent => "L-RES-001"
  | unknownAttribute => "L-RES-002"
  | missingRequiredParam => "L-RES-003"
  | unresolvedModule => "L-RES-004"

def category : Code → String
  | invalidArgument => "arguments"
  | sourceNotFound => "sources"
  | moduleLoadFailed | anchorModuleMissing => "modules"
  | malformedTemplate => "parser"
  | declarationFailed => "declarations"
  | generationFailed => "generation"
  | unresolvedComponent | unknownAttribute | missingRequiredParam | unresolvedModule =>
    "resolution"

end Code

/-- What the reader of the target language says of a text it refuses. Its own wording is not part of
this library. -/
def unreadable : String := "<python>"

/-- A template that the reader refuses. The position, the file and the text are shown when given. -/
structure TemplateFault where
  message : String
  line : Option Int := none
  filename : Option String := none
  source : Option String := none
  column : Option Int := none
  deriving DecidableEq, Repr

namespace TemplateFault

/-- Pad on the left with blanks to at least `width` characters. -/
def padLeft (width : Nat) (s : String) : String :=
  String.ofList (List.replicate (width - s.length) ' ') ++ s

/-- The file and position, as far as they are known; line zero counts as unknown. -/
def place (f : TemplateFault) : String :=
  let file := match f.filename with
    | some name => if name.isEmpty then "<template>" else name
    | none => "<template>"
  match f.line with
  | none => file
  | some line =>
    if line = 0 then file
    else file ++ ":" ++ toString line ++
      match f.column with
      | some column => ":" ++ toString column
      | none => ""

/-- The shown line of the source and a caret under the column. -/
def snippet (f : TemplateFault) : String :=
  match f.source, f.line with
  | some source, some line =>
    let lines := Text.splitLines source.toList
    if line ≤ 0 then ""
    else match lines[line.toNat - 1]? with
      | none => ""
      | some shown =>
        "\n   |\n" ++ padLeft 3 (toString line) ++ " | " ++ String.ofList shown ++
          match f.column with
          | some column => "\n   | " ++ String.ofList (List.replicate column.toNat ' ') ++ "^"
          | none => ""
  | _, _ => ""

def text (f : TemplateFault) : String :=
  "Syntax Error: " ++ f.message ++ "\n  --> " ++ f.place ++ f.snippet

end TemplateFault

/-- Refusals of the target language's own reader, checker and interpreter. -/
inductive HostFault where
  /-- Text that the reader refuses. -/
  | unreadableCode
  | nullInCode
  | nullInPath
  /-- A format field whose expression can only be printed with a backslash. -/
  | backslashInField
  /-- A name that is one of the constants once it is in normal form. -/
  | constantAsName (name : String)
  /-- An integer with too many digits to be printed. -/
  | integerTooLong
  /-- A directory in which no module is known. -/
  | noModulesUnder (directory : Location)
  | noSuchFile (path : String)
  | notADirectory (path : String)
  | isADirectory (path : String)
  | notRendered (component : String)
  | undefinedName (name : String)
  | callMismatch (message : String)
  | noModuleNamed (name : String)
  | endlessRecursion
  /-- An attribute of a module that cannot be set. -/
  | readOnlyAttribute
  /-- The class of a module, which only another class of modules can replace. -/
  | fixedClass
  deriving DecidableEq, Repr

/-- A text as a literal. -/
def quotedText (s : String) : String := String.ofList (Code.quoted (Text.Points.ofString s))

def HostFault.text : HostFault → String
  | unreadableCode => unreadable
  | nullInCode => "source code string cannot contain null bytes"
  | nullInPath => "embedded null character"
  | backslashInField => "Unable to avoid backslash in f-string expression part"
  | constantAsName name => "identifier field can't represent '" ++ name ++ "' constant"
  | integerTooLong =>
    "Exceeds the limit (4300 digits) for integer string conversion; " ++
      "use sys.set_int_max_str_digits() to increase the limit"
  | noModulesUnder directory => "No modules under " ++ directory.text
  | noSuchFile path => "[Errno 2] No such file or directory: " ++ quotedText path
  | notADirectory path => "[Errno 20] Not a directory: " ++ quotedText path
  | isADirectory path => "[Errno 21] Is a directory: " ++ quotedText path
  | notRendered component =>
    component ++ " is a declaration; only generated components render"
  | undefinedName name => "name '" ++ name ++ "' is not defined"
  | callMismatch message => message
  | noModuleNamed name => "No module named " ++ quotedText name
  | endlessRecursion => "maximum recursion depth exceeded"
  | readOnlyAttribute => "readonly attribute"
  | fixedClass =>
    "__class__ assignment only supported for mutable types or ModuleType subclasses"

inductive Failure where
  | invalidArgument (argument reason : String)
  /-- The available paths are in ascending order. -/
  | sourceNotFound (path : String) (available : List String)
  | moduleLoad (name reason : String) (location : Option Location)
  | anchorMissing (family anchor reason : String)
  | template (fault : TemplateFault)
  | declaration (path reason : String)
  | generation (path reason : String)
  | host (fault : HostFault)
  deriving DecidableEq, Repr

namespace Failure

def code? : Failure → Option Code
  | invalidArgument .. => some .invalidArgument
  | sourceNotFound .. => some .sourceNotFound
  | moduleLoad .. => some .moduleLoadFailed
  | anchorMissing .. => some .anchorModuleMissing
  | template .. => some .malformedTemplate
  | declaration .. => some .declarationFailed
  | generation .. => some .generationFailed
  | host .. => none

def message : Failure → String
  | invalidArgument argument reason => "Invalid argument '" ++ argument ++ "': " ++ reason
  | sourceNotFound path available =>
    "Cannot find source '" ++ path ++ "'" ++
      match Text.closest? path available with
      | some near => ". Did you mean '" ++ near ++ "'?"
      | none => ""
  | moduleLoad name reason location =>
    "Could not load module '" ++ name ++ "'" ++
      (match location with
      | some l => " from " ++ l.text
      | none => "") ++ ": " ++ reason
  | anchorMissing family anchor reason =>
    "Anchor module '" ++ anchor ++ "' for family '" ++ family ++ "' is " ++ reason ++
      "; skipping discovery"
  | template fault => fault.text
  | declaration path reason => "Declaration of '" ++ path ++ "' failed: " ++ reason
  | generation path reason => "Generation of '" ++ path ++ "' failed: " ++ reason
  | host fault => fault.text

/-- The message with its code in front, unless the message shows the code already. -/
def headed (f : Failure) : String :=
  match f.code? with
  | none => f.message
  | some code =>
    if Text.occurs code.value.toList f.message.toList then f.message
    else code.value ++ ": " ++ f.message

/-- The registered paths, of which at most ten are named. -/
def registered (available : List String) : String :=
  "  Registered: " ++ ", ".intercalate (available.take 10) ++
    if 10 < available.length then " ... (" ++ toString available.length ++ " total)" else ""

/-- The message of one screen that is shown to a user. -/
def compact (f : Failure) : String :=
  match f with
  | sourceNotFound _ available =>
    if available.isEmpty then f.headed else f.headed ++ "\n" ++ registered available
  | _ => f.headed

/-- A missing source, with what there is in ascending order. -/
def missingSource (path : String) (available : List String) : Failure :=
  sourceNotFound path (available.mergeSort fun a b => !decide (b < a))

end Failure

end LivePreview
