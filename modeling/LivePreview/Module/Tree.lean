import LivePreview.Code.Printer
import LivePreview.Exception
import LivePreview.Module.Imports
import LivePreview.Module.Resolver
import LivePreview.Module.Rule
import LivePreview.Text.Encoding

/-!
# Module files in a tree

A tree of files is a resolver. A module is looked for by its dotted name, one directory for each
part: a directory with a package file wins over a file with one of the endings, and a directory
without one is a package that no file stands for. The packages on the way are run first, so far as
running them can fail. What a module refers to is read from its source.
-/

namespace LivePreview.Module

open LivePreview.Code (Part Expr)
open LivePreview.Text (Encoding)

/-- Files by the segments of their paths, and directories that are there besides those of the
files. -/
structure FileTree where
  root : Location
  files : List (List String × List Nat)
  directories : List (List String)

namespace FileTree

def content? (t : FileTree) (path : List String) : Option (List Nat) :=
  (t.files.find? fun f => f.1 = path).map (·.2)

def isFile (t : FileTree) (path : List String) : Bool := (t.content? path).isSome

/-- All paths of which the tree knows. -/
def paths (t : FileTree) : List (List String) := t.files.map (·.1) ++ t.directories

def isDirectory (t : FileTree) (path : List String) : Bool :=
  path = [] || t.directories.contains path ||
    t.paths.any fun p => path.isPrefixOf p && path.length < p.length

/-- The names of what lies in a directory. -/
def children (t : FileTree) (path : List String) : List String :=
  (t.paths.filterMap fun p =>
    if path.isPrefixOf p then (p.drop path.length).head? else none).eraseDups

/-- Whether a path leads on, and why not. -/
def passable (t : FileTree) (l : Location) (path : List String) : Except HostFault Unit :=
  if t.isDirectory path then .ok ()
  else if t.isFile path then .error (.notADirectory l.text)
  else .error (.noSuchFile l.text)

/-- Follow segments from a path; two points lead one directory up. -/
def follow (t : FileTree) (l : Location) : (path : List String) → List String →
    Except HostFault (List String)
  | path, [] => .ok path
  | path, s :: ss => do
    t.passable l path
    t.follow l (if s = ".." then path.dropLast else path ++ [s]) ss

/-- The path of a location below the root. -/
def path? (t : FileTree) (l : Location) : Except HostFault (List String) :=
  if l.root = t.root.root ∧ t.root.segments.isPrefixOf l.segments then
    t.follow l [] (l.segments.drop t.root.segments.length)
  else .error (.noSuchFile l.text)

def location (t : FileTree) (path : List String) : Location :=
  { t.root with segments := t.root.segments ++ path }

def read (t : FileTree) (l : Location) : Except HostFault (List Nat) := do
  let path ← t.path? l
  match t.content? path with
  | some bytes => .ok bytes
  | none =>
    if t.isDirectory path then .error (.isADirectory l.text) else .error (.noSuchFile l.text)

end FileTree

/-- Endings of compiled extension modules. -/
def extensionEndings : List String := [".cpython-311-x86_64-linux-gnu.so", ".abi3.so", ".so"]

def sourceEnding : String := ".py"

/-- Endings under which a module is looked for, in this order. -/
def moduleEndings : List String := extensionEndings ++ [sourceEnding, ".pyc"]

/-- What a name leads to. -/
inductive Found where
  | builtIn
  | file (path : List String)
  | package (path directory : List String)
  | bareDirectory (directory : List String)

/-- Where the modules of a package lie. -/
def Found.directory? : Found → Option (List String)
  | .builtIn | .file _ => none
  | .package _ directory | .bareDirectory directory => some directory

def Found.path? : Found → Option (List String)
  | .file path | .package path _ => some path
  | .builtIn | .bareDirectory _ => none

/-- Look for a module in a directory. -/
def FileTree.find? (t : FileTree) (directory : List String) (name : String) : Option Found :=
  let here := t.children directory
  let inner := directory ++ [name]
  let packages := moduleEndings.map fun ending => inner ++ ["__init__" ++ ending]
  let files := (moduleEndings.map (name ++ ·)).filter fun file =>
    here.contains file && t.isFile (directory ++ [file])
  let isHere := here.contains name
  match if isHere then packages.find? t.isFile else none, files with
  | some path, _ => some (.package path inner)
  | none, file :: _ => some (.file (directory ++ [file]))
  | none, [] => if isHere && t.isDirectory inner then some (.bareDirectory inner) else none

/-- Modules that are part of the host itself. -/
def builtInNames : List String := ["sys", "builtins"]

def FileTree.findTop? (t : FileTree) (name : String) : Option Found :=
  if builtInNames.contains name then some .builtIn else t.find? [] name

def notFound (name : String) : HostError :=
  ⟨"ModuleNotFoundError", "No module named " ++ quotedText name⟩

/-- The text of an argument that an exception is made with. -/
def argumentText : Expr → String
  | .constant (.text value _) => (Text.Points.toString? value).getD ""
  | e => e.text

/-- The exception that a raised expression stands for. -/
def raisedError : Expr → HostError
  | .call (.name kind) [argument] [] => ⟨kind, argumentText argument⟩
  | .call (.name kind) _ _ => ⟨kind, ""⟩
  | .name kind => ⟨kind, ""⟩
  | _ => ⟨"TypeError", "exceptions must derive from BaseException"⟩

/-- The first exception that running the statements of a module comes to. -/
def firstRaised : List Part → Option HostError
  | [] => none
  | .raised (some e) :: _ => some (raisedError e)
  | .raised none :: _ => some ⟨"RuntimeError", "No active exception to reraise"⟩
  | _ :: parts => firstRaised parts

/-- A mark that may stand before a text and is no part of it. -/
def withoutMark (s : String) : String :=
  match s.toList with
  | '\ufeff' :: cs => String.ofList cs
  | _ => s

/-- Run the file of a module, so far as that can fail. -/
def FileTree.run (t : FileTree) (path : List String) : Except HostError Unit :=
  match t.content? path with
  | none => .ok ()
  | some bytes =>
    match Encoding.utf8.decode bytes with
    | .error _ => .error (.ofFault .unreadableCode)
    | .ok text =>
      match Code.Outline.read (withoutMark text) with
      | .error fault => .error (.ofFault fault)
      | .ok parts =>
        match firstRaised parts with
        | some e => .error e
        | none => .ok ()

def FileTree.runFound (t : FileTree) (found : Found) : Except HostError Unit :=
  match found.path? with
  | some path => t.run path
  | none => .ok ()

/-- Go on from a module that has run to the modules inside it. `name` is its name so far. -/
def FileTree.descend (t : FileTree) : (name : String) → Found → List String →
    Except HostError Found
  | _, found, [] => .ok found
  | name, found, part :: parts => do
    let inner := name ++ "." ++ part
    match found.directory? with
    | none =>
      .error ⟨"ModuleNotFoundError",
        (notFound inner).message ++ "; " ++ quotedText name ++ " is not a package"⟩
    | some directory =>
      match t.find? directory part with
      | none => .error (notFound inner)
      | some next => do
        t.runFound next
        t.descend inner next parts

/-- Run a module and the packages it lies in. -/
def FileTree.importModule (t : FileTree) : List String → Except HostError Found
  | [] => .error (notFound "")
  | part :: parts =>
    match t.findTop? part with
    | none => .error (notFound part)
    | some found => do
      t.runFound found
      t.descend part found parts

/-- Look for a module by its dotted name, after running the packages it lies in. -/
def FileTree.locate (t : FileTree) (name : String) : Except HostError (Option Found) :=
  if name.toList.head? = some '.' then
    .error ⟨"ImportError",
      "no package specified for " ++ quotedText name ++ " (required for relative module names)"⟩
  else
    let parts := dottedParts name
    match parts.dropLast, parts.getLast? with
    | [], _ => .ok (t.findTop? name)
    | outer, last => do
      let found ← t.importModule outer
      match found.directory? with
      | none =>
        .error ⟨"ModuleNotFoundError", "__path__ attribute not found on " ++
          quotedText (".".intercalate outer) ++ " while trying to find " ++ quotedText name⟩
      | some directory => .ok (t.find? directory (last.getD ""))

/-- How module files are listed and read. -/
structure FileSettings where
  endings : List String := sourceEnding :: extensionEndings
  encoding : Encoding := .utf8

/-- The texts on which the reader of sources gives up, and what it raises then: its stack and its
memory are finite. -/
abbrev Limits := (text : String) → Option HostError

/-- A reader that gives up on no text. -/
def Limits.none : Limits := fun _ => .none

/-- A reader on whose stack there is room for the trees of so many operators in a chain. -/
def Limits.ofStack (room : Nat) : Limits := fun text =>
  if room < Code.longestChain text && (Code.Outline.read text).toBool then
    some ⟨"RecursionError", "maximum recursion depth exceeded during ast construction"⟩
  else .none

/-- The modules that a file refers to. -/
def fileImports (t : FileTree) (settings : FileSettings) (limits : Limits) (l : Location)
    (package : Option String) : Except HostError (List String) :=
  match t.read l with
  | .error fault => .error (.ofFault fault)
  | .ok bytes =>
    match settings.encoding.decode bytes with
    | .error fault => .error ⟨"UnicodeDecodeError", fault.text⟩
    | .ok text =>
      match limits text with
      | some e => .error e
      | .none => (scanImports text package).mapError HostError.ofFault

/-- The record of a module at a location, as seen from its package. The reader gives up on no
source. -/
def describe (t : FileTree) (settings : FileSettings) (name : String) (l : Option Location)
    (package : Option String) : Except Failure Record :=
  match l with
  | none => .ok { name }
  | some l =>
    if l.hasEnding sourceEnding then
      match fileImports t settings .none l package with
      | .ok references => .ok { name, location := some l, references }
      | .error e => .error (.moduleLoad name e.text (some l))
    else .ok { name, location := some l }

/-- The package that a module lies in, by its name. -/
def outerPackage (name : String) : String := ".".intercalate (dottedParts name).dropLast

def loadFile (t : FileTree) (settings : FileSettings) (name : String) : Except Failure Record :=
  match t.locate name with
  | .error e => .error (.moduleLoad name e.text none)
  | .ok none => .error (.moduleLoad name "no module spec found" none)
  | .ok (some found) =>
    describe t settings name (found.path?.map t.location)
      (some (if found.directory?.isSome then name else outerPackage name))

/-- The module files in a directory: files with one of the endings, and packages in it. -/
def listFiles (t : FileTree) (settings : FileSettings) (l : Location) :
    Except HostFault (List Location) := do
  let path ← t.path? l
  t.passable l path
  return Location.sort ((t.children path).filterMap fun name =>
    let child := path ++ [name]
    let inside (segments : List String) : Location := { l with segments := l.segments ++ segments }
    if t.isFile child then
      if settings.endings.any fun ending => ending.toList.isSuffixOf name.toList then
        some (inside [name])
      else none
    else if t.isFile (child ++ [packageFile]) then some (inside [name, packageFile])
    else none)

def inspectFile (t : FileTree) (settings : FileSettings) (l : Location) : Except Failure Record :=
  let name := nameOfFile l
  if Text.isIdentifier name.toList then
    describe t settings name (some l)
      (if "__init__.".toList.isPrefixOf l.name.toList then some name else none)
  else .error (.moduleLoad name "file name is not a module name" (some l))

/-- A tree of files as a resolver. Every name that can be loaded leads to a file or a directory of
its own, or is built in. -/
def Resolver.ofFiles (t : FileTree) (settings : FileSettings) : Resolver where
  load := loadFile t settings
  list := listFiles t settings
  inspect := inspectFile t settings
  size := builtInNames.length + t.paths.foldl (fun n p => n + p.length + 1) 0

end LivePreview.Module
