import LivePreview.Proofs.Aggregate
import LivePreview.Proofs.Registry
import LivePreview.Session.History

/-!
# What a refresh does

Whatever engine serves it, a refresh fails and changes nothing, finds the declaration as it was and
changes nothing, or keeps a new shape and replaces the aggregate. Shapes, aggregate and counter stay
coherent.
-/

namespace LivePreview.Session

open LivePreview.Component (Aggregate Context Runner Shape)
open LivePreview.Module (Ascending Record Resolver)

/-! ## One refresh -/

/-- All that a refresh can answer and leave behind. -/
inductive Outcome (engine : Engine) (d : Declarations) (path content : String) :
    Except Failure Bool → Declarations → Prop where
  | unread {f : Failure} (hshape : engine.shape ⟨path, content, d.kind⟩ = .error f) :
      Outcome engine d path content (.error f) d
  | unbuilt {shape : Shape} {f : Failure}
      (hshape : engine.shape ⟨path, content, d.kind⟩ = .ok shape)
      (hnew : ∀ old, d.shapes.get? path = some old → old.text ≠ shape.text)
      (hbuild : (d.context.rebuild (d.shapes.insert path shape)).2 = .error f) :
      Outcome engine d path content (.error f) d
  | unchanged {shape old : Shape}
      (hshape : engine.shape ⟨path, content, d.kind⟩ = .ok shape)
      (hold : d.shapes.get? path = some old) (htext : old.text = shape.text) :
      Outcome engine d path content (.ok false) d
  | changed {shape : Shape} {next : Context}
      (hshape : engine.shape ⟨path, content, d.kind⟩ = .ok shape)
      (hnew : ∀ old, d.shapes.get? path = some old → old.text ≠ shape.text)
      (hbuild : (d.context.rebuild (d.shapes.insert path shape)).2 = .ok next) :
      Outcome engine d path content (.ok true)
        { d with shapes := d.shapes.insert path shape, context := next }

/-- A refresh leaves the shapes of all other paths alone. -/
theorem Outcome.get?_of_ne {engine : Engine} {d next : Declarations} {path content other : String}
    {result : Except Failure Bool} (h : Outcome engine d path content result next)
    (hne : path ≠ other) : next.shapes.get? other = d.shapes.get? other := by
  cases h with
  | unread hshape => rfl
  | unbuilt hshape hnew hbuild => rfl
  | unchanged hshape hold htext => rfl
  | changed hshape hnew hbuild => exact (Table.get?_insert ..).trans (if_neg hne)

namespace Declarations

variable {engine : Engine} {d : Declarations} {path content : String}

/-- What was kept is put back as it was, in its place. -/
theorem restore_keep (d : Declarations) (path : String) (shape : Shape) :
    (d.keep path shape).restore path (d.shapes.get? path) = d := by
  cases hold : d.shapes.get? path with
  | none =>
    have hshapes := Table.erase_insert (Table.get?_eq_none_iff.mp hold) shape
    rw [restore, keep, hshapes]
  | some old =>
    have hshapes := Table.insert_insert hold shape
    rw [restore, keep, keep, hshapes]

theorem outcome_store {shape : Shape} (hshape : engine.shape ⟨path, content, d.kind⟩ = .ok shape)
    (hnew : ∀ old, d.shapes.get? path = some old → old.text ≠ shape.text) :
    Outcome engine d path content (d.store path shape).result (d.store path shape).state := by
  unfold store
  extract_lets kept
  split
  · next log f hbuild =>
    rw [restore_keep]
    exact .unbuilt hshape hnew (congrArg Prod.snd hbuild)
  · next log next hbuild => exact .changed hshape hnew (congrArg Prod.snd hbuild)

theorem outcome_refresh (engine : Engine) (d : Declarations) (path content : String) :
    Outcome engine d path content (d.refresh engine path content).result
      (d.refresh engine path content).state := by
  unfold refresh
  split
  · next f hshape => exact .unread hshape
  · next shape hshape =>
    split
    · next hnone => exact outcome_store hshape fun old hold => by simp [hnone] at hold
    · next old hold =>
      split
      · next htext => exact .unchanged hshape hold htext
      · next htext =>
        refine outcome_store hshape fun other hother => ?_
        rw [hold] at hother
        exact Option.some.inj hother ▸ htext

/-- A refresh that fails changes nothing. -/
theorem state_of_error {f : Failure} (h : (d.refresh engine path content).result = .error f) :
    (d.refresh engine path content).state = d := by
  have houtcome := outcome_refresh engine d path content
  generalize (d.refresh engine path content).result = result at h houtcome
  generalize (d.refresh engine path content).state = state at houtcome ⊢
  subst h
  cases houtcome <;> rfl

/-- A new shape is kept unless the rebuild fails. -/
theorem result_of_new {shape : Shape} (hshape : engine.shape ⟨path, content, d.kind⟩ = .ok shape)
    (hnew : ∀ old, d.shapes.get? path = some old → old.text ≠ shape.text) :
    (∀ f, (d.refresh engine path content).result = .error f ↔
      (d.context.rebuild (d.shapes.insert path shape)).2 = .error f) ∧
    ∀ changed, (d.refresh engine path content).result = .ok changed →
      changed = true ∧
        (d.refresh engine path content).state.shapes = d.shapes.insert path shape := by
  have houtcome := outcome_refresh engine d path content
  generalize (d.refresh engine path content).result = result at houtcome ⊢
  generalize (d.refresh engine path content).state = state at houtcome ⊢
  cases houtcome with
  | unread hfail =>
    rw [hshape] at hfail
    cases hfail
  | unbuilt hother _ hbuild =>
    rw [hshape] at hother
    cases hother
    rw [hbuild]
    refine ⟨fun f => by simp, fun changed h => ?_⟩
    cases h
  | unchanged hother hold htext =>
    rw [hshape] at hother
    cases hother
    exact absurd htext (hnew _ hold)
  | changed hother _ hbuild =>
    rw [hshape] at hother
    cases hother
    rw [hbuild]
    refine ⟨fun f => by simp, fun changed h => ?_⟩
    cases h
    exact ⟨rfl, rfl⟩

end Declarations

/-! ## Coherence -/

/-- How shapes, aggregate and external modules hang together. The external modules are given, so
that they are the same in all states of a run. -/
structure Coherent (run : Runner) (name : String) (external : List Record) (d : Declarations) :
    Prop where
  runs : d.context.run = run
  named : d.context.aggregateName = name
  fixed : d.context.external = external
  references : d.context.references = external ++ [d.context.aggregate.record]
  record : d.context.aggregate.record =
    { name, location := none, references := external.map (·.name), synthetic := true }
  built : (Aggregate.build run name (external.map (·.name)) d.shapes).2 = .ok d.context.aggregate
  sources : d.context.aggregate.sources = d.shapes.keys

variable {run : Runner} {name : String} {external : List Record} {d : Declarations}

/-- Coherence is a matter of the aggregate alone. -/
theorem Coherent.of_built (hruns : d.context.run = run) (hnamed : d.context.aggregateName = name)
    (hexternal : d.context.external = external)
    (hbuilt : (Aggregate.build run name (external.map (·.name)) d.shapes).2 =
      .ok d.context.aggregate) : Coherent run name external d := by
  obtain ⟨last, -, haggregate⟩ := Aggregate.build_eq_ok hbuilt
  refine ⟨hruns, hnamed, hexternal, ?_, ?_, hbuilt, ?_⟩
  · rw [Context.references, hexternal]
  · rw [haggregate]
    rfl
  · rw [haggregate]

/-- What a refresh does to coherence and to the counter. -/
theorem Coherent.outcome (h : Coherent run name external d) {engine : Engine}
    {path content : String} {result : Except Failure Bool} {next : Declarations}
    (houtcome : Outcome engine d path content result next) :
    Coherent run name external next ∧
      next.context.generation = d.context.generation + if isChange result then 1 else 0 := by
  cases houtcome with
  | unread hshape => exact ⟨h, rfl⟩
  | unbuilt hshape hnew hbuild => exact ⟨h, rfl⟩
  | unchanged hshape hold htext => exact ⟨h, rfl⟩
  | changed hshape hnew hbuild =>
    obtain ⟨a, ha, rfl⟩ := Context.rebuild_eq_ok hbuild
    rw [Context.aggregateOf, h.runs, h.named, h.fixed] at ha
    exact ⟨.of_built h.runs h.named h.fixed ha, rfl⟩

/-- The shapes of coherent declarations can all be entered. -/
theorem Coherent.declares (h : Coherent run name external d) :
    ∀ e ∈ d.shapes.entries, Aggregate.Declares run e :=
  Aggregate.build_eq_ok_iff.mp ⟨_, h.built⟩

/-- Whether a new shape is accepted is a matter of this shape alone. -/
theorem Coherent.refresh_of_declares (h : Coherent run name external d) {engine : Engine}
    {path content : String} {shape : Shape}
    (hshape : engine.shape ⟨path, content, d.kind⟩ = .ok shape)
    (hdeclares : Aggregate.Declares run (path, shape)) :
    ∃ changed, (d.refresh engine path content).result = .ok changed := by
  have hbuild : ∃ next, (d.context.rebuild (d.shapes.insert path shape)).2 = .ok next := by
    rw [Context.rebuild_eq_ok_iff, h.runs]
    intro e he
    rcases Table.mem_entries_insert he with rfl | he
    · exact hdeclares
    · exact h.declares e he
  obtain ⟨next, hnext⟩ := hbuild
  have houtcome := Declarations.outcome_refresh engine d path content
  generalize (d.refresh engine path content).result = result at houtcome ⊢
  generalize (d.refresh engine path content).state = state at houtcome
  cases houtcome with
  | unread hfail =>
    rw [hshape] at hfail
    cases hfail
  | unbuilt hother _ hfail =>
    rw [hshape] at hother
    cases hother
    rw [hnext] at hfail
    cases hfail
  | unchanged _ _ _ => exact ⟨false, rfl⟩
  | changed _ _ _ => exact ⟨true, rfl⟩

theorem coherent_start (engine : Engine) (resolver : Resolver) (config : Config)
    (seeds : List Record) (run : Runner) :
    Coherent run config.aggregateName
      (start engine resolver config seeds run).2.context.external
      (start engine resolver config seeds run).2.declarations := by
  refine .of_built rfl rfl rfl ?_
  exact congrArg Prod.snd Aggregate.build_empty

/-- At the start the external modules are ascending, and none was made in memory. -/
theorem external_start (engine : Engine) (resolver : Resolver) (config : Config)
    (seeds : List Record) (run : Runner) :
    Ascending (start engine resolver config seeds run).2.context.external ∧
      ∀ m ∈ (start engine resolver config seeds run).2.context.external, m.synthetic = false := by
  have hfound := Module.ascending_references (Module.named_closure resolver config.rules seeds)
    config.unlocated
  refine ⟨Module.ascending_sortByName hfound.nodup_names, fun m hm => ?_⟩
  exact Module.synthetic_of_mem_references ((Module.perm_sortByName _).mem_iff.mp hm)

end LivePreview.Session
