import LivePreview.Code.Outline
import LivePreview.Module.Record

/-!
# The imports of a module

A module refers to what its import statements name, at any depth. A relative import goes up from the
package of the module; one that goes up too far names nothing.
-/

namespace LivePreview.Module

open LivePreview.Code (Part Outline.read)

/-- The parts of a dotted name. -/
def dottedParts (s : String) : List String :=
  (Location.pieces '.' s.toList).map String.ofList

/-- The package that `level` points in front of a name stand for, seen from inside a package. -/
def enclosingPackage? (package : String) (level : Nat) : Option String :=
  let parts := dottedParts package
  if level = 0 ∨ parts.length < level then none
  else some (".".intercalate (parts.take (parts.length - (level - 1))))

/-- The module that an import from another module names. -/
def importedFrom (package : Option String) (level : Nat) (module : Option String) : List String :=
  if level = 0 then module.toList
  else match package with
    | none => []
    | some p =>
      if p.isEmpty then []
      else match enclosingPackage? p level, module with
        | none, _ => []
        | some base, none => [base]
        | some base, some m => [base ++ "." ++ m]

mutual

/-- The modules that a part of an outline refers to, in order. -/
def partImports (package : Option String) : Part → List String
  | .imports modules => modules
  | .importFrom level module => importedFrom package level module
  | .raised _ => []
  | .block parts => blockImports package parts

def blockImports (package : Option String) : List Part → List String
  | [] => []
  | p :: ps => partImports package p ++ blockImports package ps

end

/-- The modules that a text refers to, ascending and each once. -/
def scanImports (text : String) (package : Option String) : Except HostFault (List String) :=
  (Outline.read text).map fun parts => sortNames (blockImports package parts).eraseDups

end LivePreview.Module
