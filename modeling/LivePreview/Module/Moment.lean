import LivePreview.Module.Closure
import Mathlib.Logic.Relation

/-!
# The moments of a closure

From one moment of a closure to the next one thing happens: a reference of the module recorded last is
followed, a module leaves the queue, or, where no module waits, a rule is applied. The number of
moments is not bounded here, so that a closure without an end has moments too.
-/

namespace LivePreview.Module

structure Moment where
  search : Search
  queue : Queue
  /-- The references of the module recorded last, so far as they are not followed yet. -/
  references : List String
  /-- The rules that are not applied yet. -/
  rules : List Rule

namespace Moment

def start (rules : List Rule) (seeds : List Record) : Moment := ⟨.start, .ofList seeds, [], rules⟩

/-- What happens next. -/
inductive Step (resolver : Resolver) : Moment → Moment → Prop where
  | follow {s : Search} {q : Queue} {name : String} {names : List String} {rules : List Rule} :
      Step resolver ⟨s, q, name :: names, rules⟩
        ⟨(followReference resolver (s, q) name).1, (followReference resolver (s, q) name).2,
          names, rules⟩
  | record {s : Search} {m : Record} {ms : List Record} {pending : List String}
      {rules : List Rule} (hnew : s.registry.contains m.name = false) :
      Step resolver ⟨s, ⟨m :: ms, pending⟩, [], rules⟩
        ⟨{ s with registry := s.registry.add m }, ⟨ms, pending.filter (· ≠ m.name)⟩,
          m.references, rules⟩
  | skip {s : Search} {m : Record} {ms : List Record} {pending : List String}
      {rules : List Rule} (hknown : s.registry.contains m.name = true) :
      Step resolver ⟨s, ⟨m :: ms, pending⟩, [], rules⟩
        ⟨s, ⟨ms, pending.filter (· ≠ m.name)⟩, [], rules⟩
  | discover {s : Search} {pending : List String} {rule : Rule} {rules : List Rule} :
      Step resolver ⟨s, ⟨[], pending⟩, [], rule :: rules⟩
        ⟨(discover resolver s rule).1, .ofList (discover resolver s rule).2, [], rules⟩

/-- Nothing is left to do. -/
def Done (a : Moment) : Prop := a.queue.modules = [] ∧ a.references = [] ∧ a.rules = []

/-- The second moment is the first one or comes after it. -/
abbrev Later (resolver : Resolver) : Moment → Moment → Prop := Relation.ReflTransGen (Step resolver)

/-- The moments of the closure of some seeds. -/
abbrev Reached (resolver : Resolver) (rules : List Rule) (seeds : List Record) (a : Moment) : Prop :=
  Later resolver (start rules seeds) a

/-- There is no endless run from this moment on. -/
def Ends (resolver : Resolver) (a : Moment) : Prop := Acc (fun next a => Step resolver a next) a

variable {resolver : Resolver} {a b c : Moment}

theorem Step.unique (hb : Step resolver a b) (hc : Step resolver a c) : b = c := by
  cases hb with
  | follow => cases hc; rfl
  | discover => cases hc; rfl
  | record hnew =>
    cases hc with
    | record _ => rfl
    | skip hknown =>
      rw [hnew] at hknown
      cases hknown
  | skip hknown =>
    cases hc with
    | skip _ => rfl
    | record hnew =>
      rw [hnew] at hknown
      cases hknown

theorem Done.not_step (h : a.Done) : ¬ Step resolver a b := by
  obtain ⟨hqueue, hreferences, hrules⟩ := h
  intro hstep
  cases hstep with
  | follow => cases hreferences
  | record _ => cases hqueue
  | skip _ => cases hqueue
  | discover => cases hrules

/-- A run that comes to an end is the only one. -/
theorem ends_of_later (h : Later resolver a b) (hdone : b.Done) : Ends resolver a := by
  induction h using Relation.ReflTransGen.head_induction_on with
  | refl => exact Acc.intro _ fun next hnext => absurd hnext hdone.not_step
  | head hstep _ ih =>
    refine Acc.intro _ fun next hnext => ?_
    rw [← hstep.unique hnext]
    exact ih

end Moment

end LivePreview.Module
