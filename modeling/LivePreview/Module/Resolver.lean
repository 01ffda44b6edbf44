import LivePreview.Module.Record

/-!
# Resolvers

A resolver answers for the modules of a host: the record of a name, the module files that lie in a
directory, and the record of a file. A table of records is a resolver: of several records of one
name or one location the last counts, and a directory holds what the locations say.
-/

namespace LivePreview.Module

structure Resolver where
  load : String → Except Failure Record
  list : Location → Except HostFault (List Location)
  inspect : Location → Except Failure Record
  /-- A bound on the number of names that can be loaded. -/
  size : Nat

/-- The text up to its first point. -/
def beforePoint (s : String) : String := String.ofList (s.toList.takeWhile (· ≠ '.'))

/-- The name of the module that a file holds; the file of a package has the name of its
directory. -/
def nameOfFile (l : Location) : String :=
  if "__init__.".toList.isPrefixOf l.name.toList then l.parent.name else beforePoint l.name

namespace Lookup

/-- The last record of a name. -/
def byName? (ms : List Record) (name : String) : Option Record := ms.reverse.find? (·.name = name)

def byLocation? (ms : List Record) (l : Location) : Option Record :=
  ms.reverse.find? (·.location = some l)

/-- The locations in a directory, ascending. -/
def inDirectory (ms : List Record) (directory : Location) : List Location :=
  Location.sort ((ms.filterMap (·.location)).eraseDups.filter (·.parent = directory))

end Lookup

/-- A table of records as a resolver. -/
def Resolver.ofTable (ms : List Record) : Resolver where
  load name :=
    match Lookup.byName? ms name with
    | some m => .ok m
    | none => .error (.moduleLoad name "not in resolver table" none)
  list directory :=
    match Lookup.inDirectory ms directory with
    | [] => .error (.noModulesUnder directory)
    | ls => .ok ls
  inspect l :=
    match Lookup.byLocation? ms l with
    | some m => .ok m
    | none => .error (.moduleLoad (nameOfFile l) "unknown module file" (some l))
  size := ms.length

end LivePreview.Module
