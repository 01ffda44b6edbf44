import LivePreview.Component.Aggregate
import LivePreview.Module.Record

/-!
# Compilation contexts

A context is what templates are compiled against: external modules, which never change, and one
aggregate of all declarations, which is replaced as a whole. The generation counts the replacements.
-/

namespace LivePreview.Component

open LivePreview.Module (Record sortByName)

structure Context where
  /-- Ascending by name. -/
  external : List Record
  aggregateName : String
  aggregate : Aggregate
  generation : Nat
  /-- How the texts of shapes are run. -/
  run : Runner

/-- What the name of a component stands for. Of a component of an external module only the module is
known. -/
structure Binding where
  name : String
  module : String
  source : Option String := none
  params : Option (List (String × Option String)) := none
  required : List String := []
  deriving DecidableEq, Repr

namespace Binding

def isExternal (b : Binding) : Bool := b.params.isNone

/-- Whether the component has this parameter, as far as that is known. -/
def accepts (b : Binding) (name : String) : Bool :=
  match b.params with
  | none => true
  | some params => params.any (·.1 = name)

def ofSurface (name : String) (s : Surface) : Binding where
  name := name
  module := match s.module with
    | some m => if m.isEmpty then name else m
    | none => name
  source := s.source
  params := some s.params
  required := s.required

end Binding

def Aggregate.record (a : Aggregate) : Record :=
  { name := a.name, references := a.references, synthetic := true }

namespace Context

def new (external : List Record) (aggregateName : String) (run : Runner := Stub.runText) :
    Context :=
  let external := sortByName external
  ⟨external, aggregateName, .empty aggregateName (external.map (·.name)), 0, run⟩

/-- All modules of the context; the aggregate comes last. -/
def references (c : Context) : List Record := c.external ++ [c.aggregate.record]

/-- The context with another aggregate in place of its own. -/
def replace (c : Context) (aggregate : Aggregate) : Context :=
  { c with aggregate, generation := c.generation + 1 }

/-- What is reported when a context has a new aggregate. -/
def rebuilt (next : Context) : LogRecord :=
  ⟨.debug, Aggregate.contextLog, "Rebuilt " ++ next.aggregateName ++ " (generation " ++
    toString next.generation ++ ") from " ++ toString next.aggregate.sources.length ++
    " declarations"⟩

/-- Replace the aggregate by that of other shapes. A failure leaves no new context. -/
def rebuild (c : Context) (shapes : Table String Shape) : Log × Except Failure Context :=
  match Aggregate.build c.run c.aggregateName (c.external.map (·.name)) shapes with
  | (log, .error f) => (log, .error f)
  | (log, .ok aggregate) => (log ++ [(c.replace aggregate).rebuilt], .ok (c.replace aggregate))

def hasModule (c : Context) (name : String) : Bool := c.external.any (·.name = name)

/-- The module part of a dotted name. -/
def modulePart? (name : String) : Option String :=
  let parts := Location.pieces '.' name.toList
  match parts.dropLast with
  | [] => none
  | outer => some (String.ofList (['.'].intercalate outer))

/-- What a component tag stands for: a declared component, or any name in an external module. -/
def resolve (c : Context) (name : String) : Option Binding :=
  match modulePart? name with
  | some module => if c.hasModule module then some { name, module } else none
  | none => (c.aggregate.surface? name).map (Binding.ofSurface name)

end Context

end LivePreview.Component
