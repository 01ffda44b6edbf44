import LivePreview.Failure
import LivePreview.Table

/-!
# Module records and their registry

A record is what is known of a module without running it. A registry keeps one record for a name,
the first that came, and the failures met on the way.
-/

namespace LivePreview.Module

structure Record where
  name : String
  location : Option Location := none
  references : List String := []
  /-- Built in memory and not found anywhere. -/
  synthetic : Bool := false
  deriving DecidableEq, Repr

/-- Whether generated modules can refer to the module by its file. -/
def Record.referenceable (m : Record) : Bool := m.location.isSome && !m.synthetic

/-- Ascending by name, equals in the order given. -/
def sortByName (ms : List Record) : List Record := ms.mergeSort fun a b => !decide (b.name < a.name)

/-- Ascending order of texts. -/
def sortNames (names : List String) : List String := names.mergeSort fun a b => !decide (b < a)

structure Registry where
  records : Table String Record
  failures : List Failure

namespace Registry

def empty : Registry := ⟨∅, []⟩

/-- Record a module unless its name is known. -/
def add (r : Registry) (m : Record) : Registry :=
  if r.records.contains m.name then r else { r with records := r.records.insert m.name m }

def contains (r : Registry) (name : String) : Bool := r.records.contains name

def get? (r : Registry) (name : String) : Option Record := r.records.get? name

def recordFailure (r : Registry) (f : Failure) : Registry :=
  { r with failures := r.failures ++ [f] }

/-- The modules in the order in which they were recorded. -/
def modules (r : Registry) : List Record := r.records.values

def names (r : Registry) : List String := sortNames r.records.keys

/-- The modules that can be referred to, by name. With `unlocated` those without a file count
too. -/
def references (r : Registry) (unlocated : Bool) : List Record :=
  (sortByName r.modules).filter fun m => if unlocated then !m.synthetic else m.referenceable

end Registry

end LivePreview.Module
