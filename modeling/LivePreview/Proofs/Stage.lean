import LivePreview.Module.Stage
import LivePreview.Proofs.Loading

/-!
# Queues make the stages

A traversal comes to the names that its stage does, and to no others. On the way each record is the
one that its name has in the stage, and so is the first record that waits under a name which is not
recorded yet. When the queue is empty every reference has been followed, and nothing that the stage
comes to is missing.
-/

namespace LivePreview.Module

open Moment (LoadsNamed Orderly Later Reached Step Effect)

/-! ## First records -/

theorem firstOf_append (ms others : List Record) (n : String) :
    firstOf (ms ++ others) n = (firstOf ms n).or (firstOf others n) := List.find?_append

theorem firstOf_cons_self (m : Record) (ms : List Record) : firstOf (m :: ms) m.name = some m :=
  List.find?_cons_of_pos (by simp)

theorem firstOf_cons_of_ne {m : Record} {n : String} (h : m.name ≠ n) (ms : List Record) :
    firstOf (m :: ms) n = firstOf ms n := List.find?_cons_of_neg (by simpa using h)

theorem firstOf_singleton_eq_some_iff {m other : Record} {n : String} :
    firstOf [m] n = some other ↔ m.name = n ∧ m = other := by
  by_cases h : m.name = n
  · simp [firstOf, h]
  · simp [firstOf, h]

theorem isSome_firstOf {ms : List Record} {n : String} :
    (firstOf ms n).isSome ↔ n ∈ ms.map (·.name) := by
  simp [firstOf, List.find?_isSome]

/-! ## Standing records -/

section Standing

variable {load known offered : Recorded} {n : String} {m : Record}

theorem standing_of_known (h : known n = some m) : standing load known offered n = some m := by
  rw [standing, h, Option.some_or]

theorem standing_of_offered (hnew : known n = none) (h : offered n = some m) :
    standing load known offered n = some m := by
  rw [standing, hnew, h, Option.none_or, Option.some_or]

theorem standing_of_load (hnew : known n = none) (hfree : offered n = none) :
    standing load known offered n = load n := by
  rw [standing, hnew, hfree, Option.none_or, Option.none_or]

theorem stage_eq_some_iff :
    stage load known offered n = some m ↔
      Led load known offered n ∧ standing load known offered n = some m := by
  rw [stage]
  split
  · next hled => exact (and_iff_right hled).symm
  · next hnot => simp [hnot]

end Standing

/-! ## Moments of a stage -/

/-- What can be loaded. -/
def Resolver.loaded (resolver : Resolver) : Recorded := fun n => (resolver.load n).toOption

theorem Resolver.loaded_eq_some_iff {resolver : Resolver} {n : String} {m : Record} :
    resolver.loaded n = some m ↔ resolver.load n = .ok m := by
  rw [loaded]
  cases resolver.load n with
  | error f => simp [Except.toOption]
  | ok other => simp [Except.toOption]

/-- How a moment within the last stage stands to this stage. -/
structure Moment.InStage (resolver : Resolver) (known offered : Recorded) (a : Moment) : Prop where
  rules : a.rules = []
  kept : ∀ n m, known n = some m → a.search.registry.get? n = some m
  held : ∀ n, (offered n).isSome → a.Holds n
  recorded : ∀ n m, a.search.registry.get? n = some m →
    Led resolver.loaded known offered n ∧ standing resolver.loaded known offered n = some m
  /-- Of the modules that wait under a new name, the first is the one that will be recorded. -/
  waiting : ∀ n m, a.search.registry.get? n = none → firstOf a.queue.modules n = some m →
    Led resolver.loaded known offered n ∧ standing resolver.loaded known offered n = some m
  references : ∀ n ∈ a.references, ∃ referrer m, Led resolver.loaded known offered referrer ∧
    standing resolver.loaded known offered referrer = some m ∧ n ∈ m.references

namespace Moment.InStage

variable {resolver : Resolver} {known offered : Recorded} {a b : Moment}

/-- What is recorded already, and a queue of what is offered, begin a stage. -/
theorem start (resolver : Resolver) (s : Search) (ms : List Record) :
    InStage resolver s.registry.get? (firstOf ms) ⟨s, .ofList ms, [], []⟩ where
  rules := rfl
  kept _ _ h := h
  held _ h := .inr (isSome_firstOf.mp h)
  recorded _ _ h := ⟨.known (Option.isSome_of_eq_some h), standing_of_known h⟩
  waiting _ _ hnew h :=
    ⟨.offered (Option.isSome_of_eq_some h), standing_of_offered hnew h⟩
  references _ h := absurd h List.not_mem_nil

section Following

variable {s : Search} {q : Queue} {name : String} {names : List String} {rules : List Rule}

/-- A reference that is loaded gets the record that it has in the stage. -/
theorem load (hnamed : LoadsNamed resolver)
    (horderly : Orderly resolver ⟨s, q, name :: names, rules⟩)
    (h : InStage resolver known offered ⟨s, q, name :: names, rules⟩) (hunmet : Unmet s q name)
    {m : Record} (hload : resolver.load name = .ok m) :
    InStage resolver known offered ⟨{ s with loads := s.loads ++ [name] },
      ⟨q.modules ++ [m], m.name :: q.pending⟩, names, rules⟩ := by
  have hfree : ¬ Moment.Holds ⟨s, q, name :: names, rules⟩ name := horderly.not_holds hunmet
  -- A known or offered name is held, and what is held is not loaded.
  have hunknown : known name = none := by
    rw [Option.eq_none_iff_forall_ne_some]
    intro other hother
    exact hfree (.inl (Registry.contains_of_get? (h.kept name other hother)))
  have hunoffered : offered name = none := by
    rw [← Option.not_isSome_iff_eq_none]
    exact fun hoffered => hfree (h.held name hoffered)
  have hrecord : resolver.loaded name = some m := Resolver.loaded_eq_some_iff.mpr hload
  have hstands : Led resolver.loaded known offered name ∧
      standing resolver.loaded known offered name = some m := by
    obtain ⟨referrer, record, hled, hreferrer, hreference⟩ := h.references name List.mem_cons_self
    refine ⟨.reference hled hreferrer hreference (Option.isSome_of_eq_some hrecord), ?_⟩
    rw [standing_of_load hunknown hunoffered]
    exact hrecord
  have heffect : Effect resolver ⟨s, q, name :: names, rules⟩
      ⟨{ s with loads := s.loads ++ [name] }, ⟨q.modules ++ [m], m.name :: q.pending⟩, names,
        rules⟩ := .loaded hunmet hload
  refine ⟨h.rules, h.kept, fun n hn => heffect.holds (h.held n hn), h.recorded, ?_, ?_⟩
  · intro n first hnew hfirst
    change firstOf (q.modules ++ [m]) n = some first at hfirst
    rw [firstOf_append, Option.or_eq_some_iff] at hfirst
    rcases hfirst with hwaits | ⟨-, hlast⟩
    · exact h.waiting n first hnew hwaits
    · obtain ⟨hname, rfl⟩ := firstOf_singleton_eq_some_iff.mp hlast
      rw [hnamed name m hload] at hname
      rw [← hname]
      exact hstands
  · exact fun n hn => h.references n (List.mem_cons_of_mem _ hn)

end Following

section Taking

variable {s : Search} {m : Record} {ms : List Record} {pending : List String} {rules : List Rule}

/-- A module that is recorded is the first that waited under its name. -/
theorem record (h : InStage resolver known offered ⟨s, ⟨m :: ms, pending⟩, [], rules⟩)
    (hnew : s.registry.contains m.name = false) :
    InStage resolver known offered ⟨{ s with registry := s.registry.add m },
      ⟨ms, pending.filter (· ≠ m.name)⟩, m.references, rules⟩ := by
  have hunrecorded : s.registry.get? m.name = none := Registry.contains_eq_false_iff.mp hnew
  obtain ⟨hled, hstands⟩ := h.waiting m.name m hunrecorded (firstOf_cons_self m ms)
  have heffect : Effect resolver ⟨s, ⟨m :: ms, pending⟩, [], rules⟩
      ⟨{ s with registry := s.registry.add m }, ⟨ms, pending.filter (· ≠ m.name)⟩, m.references,
        rules⟩ := .recorded hnew
  refine ⟨h.rules, ?_, fun n hn => heffect.holds (h.held n hn), ?_, ?_, ?_⟩
  · intro n record hknown
    have hrecorded := h.kept n record hknown
    have hne : m.name ≠ n := by
      rintro rfl
      rw [hunrecorded] at hrecorded
      cases hrecorded
    rw [Registry.get?_add hnew, if_neg hne]
    exact hrecorded
  · intro n record hrecord
    rw [Registry.get?_add hnew] at hrecord
    split at hrecord
    · next hname =>
      cases hrecord
      rw [← hname]
      exact ⟨hled, hstands⟩
    · exact h.recorded n record hrecord
  · intro n record hnone hwaits
    rw [Registry.get?_add hnew] at hnone
    split at hnone
    · cases hnone
    · next hne => exact h.waiting n record hnone ((firstOf_cons_of_ne hne ms).trans hwaits)
  · exact fun n hn => ⟨m.name, m, hled, hstands, hn⟩

theorem skip (h : InStage resolver known offered ⟨s, ⟨m :: ms, pending⟩, [], rules⟩)
    (hknown : s.registry.contains m.name = true) :
    InStage resolver known offered ⟨s, ⟨ms, pending.filter (· ≠ m.name)⟩, [], rules⟩ := by
  have heffect : Effect resolver ⟨s, ⟨m :: ms, pending⟩, [], rules⟩
      ⟨s, ⟨ms, pending.filter (· ≠ m.name)⟩, [], rules⟩ := .skipped hknown
  refine ⟨h.rules, h.kept, fun n hn => heffect.holds (h.held n hn), h.recorded, ?_,
    h.references⟩
  intro n record hnone hwaits
  have hne : m.name ≠ n := by
    rintro rfl
    rw [Registry.contains_eq_false_iff.mpr hnone] at hknown
    cases hknown
  exact h.waiting n record hnone ((firstOf_cons_of_ne hne ms).trans hwaits)

end Taking

theorem step (hnamed : LoadsNamed resolver) (horderly : Orderly resolver a)
    (h : InStage resolver known offered a) (hstep : Step resolver a b) :
    InStage resolver known offered b := by
  have heffect := hstep.effect
  cases heffect with
  | known hmet =>
    exact ⟨h.rules, h.kept, h.held, h.recorded, h.waiting,
      fun n hn => h.references n (List.mem_cons_of_mem _ hn)⟩
  | loaded hunmet hload => exact h.load hnamed horderly hunmet hload
  | failed hunmet hload =>
    exact ⟨h.rules, h.kept, h.held, h.recorded, h.waiting,
      fun n hn => h.references n (List.mem_cons_of_mem _ hn)⟩
  | recorded hnew => exact h.record hnew
  | skipped hknown => exact h.skip hknown
  | discovered _ _ => exact absurd h.rules (List.cons_ne_nil _ _)

theorem later (hnamed : LoadsNamed resolver) (horderly : Orderly resolver a)
    (h : InStage resolver known offered a) (hlater : Later resolver a b) :
    InStage resolver known offered b := by
  induction hlater with
  | refl => exact h
  | tail hlater hstep ih => exact ih.step hnamed (horderly.later hnamed hlater) hstep

/-! ### The end of a stage -/

/-- When nothing is left to do, no name is missing that the stage comes to. -/
theorem contains_of_led (horderly : Orderly resolver a) (h : InStage resolver known offered a)
    (hdone : a.Done) {n : String} (hled : Led resolver.loaded known offered n) :
    a.search.registry.contains n = true := by
  induction hled with
  | known hknown =>
    obtain ⟨m, hm⟩ := Option.isSome_iff_exists.mp hknown
    exact Registry.contains_of_get? (h.kept _ m hm)
  | offered hoffered => exact (h.held _ hoffered).contains hdone
  | @reference referrer n m _ hm hn hload ih =>
    -- The referrer is recorded and all its references are followed; this one did not fail.
    rw [Registry.contains_eq_isSome] at ih
    obtain ⟨record, hrecord⟩ := Option.isSome_iff_exists.mp ih
    obtain ⟨-, hstands⟩ := h.recorded referrer record hrecord
    have hsame : record = m := Option.some.inj (hstands.symm.trans hm)
    rw [← hsame] at hn
    rcases horderly.covered record (Registry.mem_modules_of_get? hrecord) n hn with
      hrest | hheld | hfailed
    · rw [hdone.2.1] at hrest
      exact absurd hrest List.not_mem_nil
    · exact hheld.contains hdone
    · obtain ⟨-, f, hfails⟩ := horderly.failed n hfailed
      obtain ⟨other, hother⟩ := Option.isSome_iff_exists.mp hload
      rw [Resolver.loaded_eq_some_iff, hfails] at hother
      cases hother

/-- When nothing is left to do, the stage is what is recorded. -/
theorem get?_eq_stage (horderly : Orderly resolver a) (h : InStage resolver known offered a)
    (hdone : a.Done) : a.search.registry.get? = stage resolver.loaded known offered := by
  funext n
  apply Option.ext
  intro m
  rw [stage_eq_some_iff]
  constructor
  · exact h.recorded n m
  · rintro ⟨hled, hstands⟩
    have hcontains := h.contains_of_led horderly hdone hled
    rw [Registry.contains_eq_isSome] at hcontains
    obtain ⟨record, hrecord⟩ := Option.isSome_iff_exists.mp hcontains
    rw [hrecord, ← hstands, (h.recorded n record hrecord).2]

end Moment.InStage

/-! ## Stages one after another -/

/-- A search between two stages. -/
def Search.Settled (resolver : Resolver) (s : Search) : Prop :=
  ∃ pending, Orderly resolver ⟨s, ⟨[], pending⟩, [], []⟩

section Stages

variable {resolver : Resolver} (hnamed : LoadsNamed resolver) (hbounded : resolver.Bounded)

include hnamed hbounded

/-- A traversal makes the stage of what it is given. -/
theorem traverse_stage {s : Search} {ms : List Record}
    (h : Orderly resolver ⟨s, .ofList ms, [], []⟩) :
    (traverse resolver s ms).Settled resolver ∧
      (traverse resolver s ms).registry.get? =
        stage resolver.loaded s.registry.get? (firstOf ms) := by
  obtain ⟨pending, hlater⟩ := traverse_later hnamed hbounded h
  have horderly := h.later hnamed hlater
  have hstage := (Moment.InStage.start resolver s ms).later hnamed h hlater
  exact ⟨⟨pending, horderly⟩, hstage.get?_eq_stage horderly ⟨rfl, rfl, rfl⟩⟩

/-- A rule makes the stage of what it finds. -/
theorem applyRule_stage {s : Search} (rule : Rule) (h : s.Settled resolver) :
    (applyRule resolver s rule).Settled resolver ∧
      (applyRule resolver s rule).registry.get? =
        stage resolver.loaded s.registry.get? (firstOf (discover resolver s rule).2) := by
  obtain ⟨pending, horderly⟩ := h
  have hsame := discover_sameRecords resolver s rule
  have hbefore : Orderly resolver ⟨s, ⟨[], pending⟩, [], [rule]⟩ :=
    ⟨horderly.waiting, horderly.pending, horderly.loaded, horderly.failed, horderly.nodup,
      horderly.covered⟩
  have hafter : Orderly resolver
      ⟨(discover resolver s rule).1, .ofList (discover resolver s rule).2, [], []⟩ :=
    hbefore.discover rfl hsame
  have hregistry : (discover resolver s rule).1.registry.get? = s.registry.get? :=
    funext hsame.get?
  obtain ⟨hsettled, hstage⟩ := traverse_stage hnamed hbounded hafter
  rw [hregistry] at hstage
  exact ⟨hsettled, hstage⟩

end Stages

end LivePreview.Module
