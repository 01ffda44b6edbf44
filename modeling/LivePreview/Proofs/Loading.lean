import LivePreview.Proofs.Files

/-!
# What is loaded and what is recorded

A reference is loaded only where its name was never met: not recorded, not waiting, and not among
those that failed. Since nothing that waits or is recorded is given up, no name is loaded twice, and
none that a seed has. A record, once made, stays; and whatever waits is recorded when all is done.
-/

namespace LivePreview.Module

open Moment (LoadsNamed Orderly Later Reached Step)

variable {resolver : Resolver} {a b : Moment}

/-! ## One step -/

/-- A step loads at most one name, and this name was neither loaded before nor is it held. -/
theorem Moment.Orderly.loads_step (h : Orderly resolver a) (hstep : Step resolver a b) :
    b.search.loads = a.search.loads ∨
      ∃ name, b.search.loads = a.search.loads ++ [name] ∧ name ∉ a.search.loads ∧ ¬ a.Holds name := by
  cases hstep.effect with
  | known _ => exact .inl rfl
  | loaded hunmet _ => exact .inr ⟨_, rfl, h.not_mem_loads hunmet, h.not_holds hunmet⟩
  | failed hunmet _ => exact .inr ⟨_, rfl, h.not_mem_loads hunmet, h.not_holds hunmet⟩
  | recorded _ => exact .inl rfl
  | skipped _ => exact .inl rfl
  | discovered _ hsame => exact .inl hsame.loads

/-- A step records at most one module, which waited and has a new name. -/
theorem modules_step (hstep : Step resolver a b) :
    b.search.registry.modules = a.search.registry.modules ∨
      ∃ m ∈ a.queue.modules, a.search.registry.contains m.name = false ∧
        b.search.registry.modules = a.search.registry.modules ++ [m] := by
  cases hstep.effect with
  | known _ => exact .inl rfl
  | loaded _ _ => exact .inl rfl
  | failed _ _ => exact .inl rfl
  | recorded hnew =>
    exact .inr ⟨_, List.mem_cons_self, hnew, Registry.modules_add hnew⟩
  | skipped _ => exact .inl rfl
  | discovered _ hsame => exact .inl hsame.modules

/-! ## Runs -/

/-- A name that is held and was not loaded never will be. -/
theorem not_mem_loads_of_holds (hnamed : LoadsNamed resolver) (h : Orderly resolver a) {n : String}
    (hheld : a.Holds n) (hn : n ∉ a.search.loads) (hlater : Later resolver a b) :
    n ∉ b.search.loads := by
  induction hlater with
  | refl => exact hn
  | @tail b c hlater hstep ih =>
    rcases (h.later hnamed hlater).loads_step hstep with hsame | ⟨name, happend, -, hfree⟩
    · rw [hsame]
      exact ih
    · -- The name is still held here, and no held name is loaded.
      rw [happend, List.mem_append, List.mem_singleton, not_or]
      refine ⟨ih, fun heq => hfree ?_⟩
      rw [← heq]
      exact hheld.later hlater

/-- The records of a moment are the first ones of every later moment. -/
theorem modules_prefix (hlater : Later resolver a b) :
    a.search.registry.modules <+: b.search.registry.modules := by
  induction hlater with
  | refl => exact List.prefix_refl _
  | tail _ hstep ih =>
    rcases modules_step hstep with hsame | ⟨m, -, -, happend⟩
    · rw [hsame]
      exact ih
    · rw [happend]
      exact ih.trans (List.prefix_append _ _)

/-! ## The discipline -/

/-- What is kept at a moment of a closure, as to loading and recording. -/
structure Disciplined (resolver : Resolver) (seeds : List Record) (a : Moment) : Prop where
  /-- No name was loaded twice. -/
  loads : a.search.loads.Nodup
  /-- No name of a seed was loaded. -/
  seeds : ∀ m ∈ seeds, m.name ∉ a.search.loads
  /-- A name that is loaded next was not loaded yet, is not recorded, and no module of this name
  waits, whether it was given, loaded or found. -/
  load : ∀ b, Step resolver a b → b.search.loads = a.search.loads ∨
    ∃ name, b.search.loads = a.search.loads ++ [name] ∧ name ∉ a.search.loads ∧
      a.search.registry.contains name = false ∧ ∀ m ∈ a.queue.modules, m.name ≠ name
  /-- No name was recorded twice. -/
  names : (a.search.registry.modules.map (·.name)).Nodup
  /-- A module that is recorded next waits, has a new name, and comes after all others. -/
  record : ∀ b, Step resolver a b → b.search.registry.modules = a.search.registry.modules ∨
    ∃ m ∈ a.queue.modules, a.search.registry.contains m.name = false ∧
      b.search.registry.modules = a.search.registry.modules ++ [m]
  /-- No record is lost or replaced later on. -/
  kept : ∀ b, Later resolver a b → a.search.registry.modules <+: b.search.registry.modules
  /-- A name that waits is recorded when all is done. -/
  recorded : ∀ b, Later resolver a b → b.Done →
    ∀ m ∈ a.queue.modules, b.search.registry.contains m.name = true

theorem disciplined_of_reached (hnamed : LoadsNamed resolver) {rules : List Rule}
    {seeds : List Record} (h : Reached resolver rules seeds a) : Disciplined resolver seeds a := by
  have horderly := Moment.orderly_of_reached hnamed h
  constructor
  · exact horderly.nodup
  · intro m hm
    have hheld : (Moment.start rules seeds).Holds m.name := .inr (List.mem_map_of_mem hm)
    exact not_mem_loads_of_holds hnamed (Moment.orderly_start resolver rules seeds) hheld
      List.not_mem_nil h
  · intro b hstep
    rcases horderly.loads_step hstep with hsame | ⟨name, happend, hfresh, hfree⟩
    · exact .inl hsame
    · refine .inr ⟨name, happend, hfresh, ?_, ?_⟩
      · rw [← Bool.not_eq_true]
        exact fun hrecorded => hfree (.inl hrecorded)
      · rintro m hm rfl
        exact hfree (.inr (List.mem_map_of_mem hm))
  · exact (Moment.named_of_reached h).nodup_names
  · exact fun b hstep => modules_step hstep
  · exact fun b hlater => modules_prefix hlater
  · intro b hlater hdone m hm
    have hheld : a.Holds m.name := .inr (List.mem_map_of_mem hm)
    exact (hheld.later hlater).contains hdone

/-- Where a record that is loaded has the name under which it was asked for, all moments of a closure
keep the discipline. Tables and trees of files answer so. The names that they can load are bounded,
and so what their closures answer is the last of these moments. -/
theorem load_discipline :
    (∀ resolver, LoadsNamed resolver → ∀ rules seeds,
      (∀ a, Reached resolver rules seeds a → Disciplined resolver seeds a) ∧
      (resolver.Bounded → ∃ last, Reached resolver rules seeds last ∧ last.Done ∧
        (closure resolver rules seeds).registry = last.search.registry ∧
        (closure resolver rules seeds).loads = last.search.loads)) ∧
    (∀ ms, LoadsNamed (.ofTable ms) ∧ (Resolver.ofTable ms).Bounded) ∧
    ∀ t settings, LoadsNamed (.ofFiles t settings) ∧ (Resolver.ofFiles t settings).Bounded := by
  refine ⟨?_, ?_, ?_⟩
  · intro resolver hnamed rules seeds
    exact ⟨fun a h => disciplined_of_reached hnamed h,
      fun hbounded => closure_reached hnamed hbounded rules seeds⟩
  · exact fun ms => ⟨loadsNamed_ofTable ms, bounded_ofTable ms⟩
  · exact fun t settings => ⟨loadsNamed_ofFiles t settings, bounded_ofFiles t settings⟩

end LivePreview.Module
