import LivePreview.Module.Closure

/-!
# A closure in stages

What a closure of a table records can be said without queues. The first stage comes to the seeds, and
each rule makes a further stage, which comes to what the rule finds. In every stage the references of
what has been come to are followed, as far as the table has records for them. A name that has got its
record keeps it through all later stages.
-/

namespace LivePreview.Module

/-- Which record a name has, if it has one. -/
abbrev Recorded := String → Option Record

/-- The first record of each name. -/
def firstOf (ms : List Record) : Recorded := fun n => ms.find? (·.name = n)

section Stage

variable (load known offered : Recorded)

/-- The record that a name has once it has been come to: the known one, or else the one that is
offered, or else the one that can be loaded. -/
def standing : Recorded := fun n => (known n).or ((offered n).or (load n))

/-- The names that a stage comes to; no name but those that one of these ways leads to. -/
inductive Led : String → Prop where
  | known {n : String} (h : (known n).isSome) : Led n
  | offered {n : String} (h : (offered n).isSome) : Led n
  | reference {referrer n : String} {m : Record} (h : Led referrer)
      (hm : standing load known offered referrer = some m) (hn : n ∈ m.references)
      (hload : (load n).isSome) : Led n

open Classical in
/-- What is recorded when a stage is done. -/
noncomputable def stage : Recorded :=
  fun n => if Led load known offered n then standing load known offered n else none

end Stage

/-- What the locations in a directory hold under each name: of one location the last record counts,
and of several locations of one name the first. -/
def family (ms : List Record) (directory : Location) : Recorded :=
  firstOf ((Lookup.inDirectory ms directory).filterMap (Lookup.byLocation? ms))

/-- What a rule finds: the family beside the file of its anchor, as far as the names are new. -/
def offeredBy (ms : List Record) (rule : Rule) (known : Recorded) : Recorded := fun n =>
  if (known n).isSome then none
  else ((known rule.anchor).bind (·.location)).bind fun l =>
    family ms (rule.sibling.directory l) n

/-- What is recorded when all stages are done. -/
noncomputable def staged (ms : List Record) (rules : List Rule) (seeds : List Record) : Recorded :=
  rules.foldl
    (fun known rule => stage (Lookup.byName? ms) known (offeredBy ms rule known))
    (stage (Lookup.byName? ms) (fun _ => none) (firstOf seeds))

end LivePreview.Module
