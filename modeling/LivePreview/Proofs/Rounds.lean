import LivePreview.Module.Tree
import LivePreview.Proofs.Lookup
import LivePreview.Proofs.Traversal

/-!
# The rounds of a traversal

A name is loaded at most once, so the modules that wait and the names that can still be loaded bound
how often a module leaves the queue. The rounds that a traversal is given are never fewer: where the
resolver keeps to its bound, a closure goes on until nothing is left to do.
-/

namespace LivePreview.Module

open Moment (LoadsNamed Orderly Later Reached)

/-- Not more names can be loaded than the resolver says. -/
def Resolver.Bounded (resolver : Resolver) : Prop :=
  ∃ names : List String, names.length ≤ resolver.size ∧
    ∀ name m, resolver.load name = .ok m → name ∈ names

/-! ## Built-in resolvers -/

theorem loadsNamed_ofTable (ms : List Record) : LoadsNamed (.ofTable ms) :=
  fun _ _ hload => Lookup.name_of_byName? (load_ofTable_eq_ok_iff.mp hload)

theorem bounded_ofTable (ms : List Record) : (Resolver.ofTable ms).Bounded := by
  refine ⟨ms.map (·.name), ?_, ?_⟩
  · rw [List.length_map]
    exact Nat.le_refl _
  · intro name m hload
    have hfound := load_ofTable_eq_ok_iff.mp hload
    rw [← Lookup.name_of_byName? hfound]
    exact List.mem_map_of_mem (Lookup.mem_of_byName? hfound)

theorem name_of_describe {t : FileTree} {settings : FileSettings} {name : String}
    {l : Option Location} {package : Option String} {m : Record}
    (h : describe t settings name l package = .ok m) : m.name = name := by
  unfold describe at h
  split at h
  · cases h
    rfl
  · split at h
    · split at h
      · cases h
        rfl
      · cases h
    · cases h
      rfl

theorem loadsNamed_ofFiles (t : FileTree) (settings : FileSettings) :
    LoadsNamed (.ofFiles t settings) := by
  intro name m hload
  change loadFile t settings name = .ok m at hload
  unfold loadFile at hload
  split at hload
  · cases hload
  · cases hload
  · exact name_of_describe hload

/-! ## Rounds that are left -/

/-- The modules that wait, and the names that can be loaded and were not yet. -/
def roundsLeft (names : List String) (s : Search) (q : Queue) : Nat :=
  q.modules.length + (names.filter (· ∉ s.loads)).length

theorem filter_loads_append (names loads : List String) (name : String) :
    names.filter (· ∉ loads ++ [name]) = (names.filter (· ∉ loads)).filter (· ≠ name) := by
  rw [List.filter_filter]
  refine List.filter_congr fun n _ => ?_
  by_cases hn : n = name
  · simp [hn]
  · simp [hn]

/-- A name that is loaded for the first time is one fewer of those that can be. -/
theorem length_filter_loads_lt {names loads : List String} {name : String} (hname : name ∈ names)
    (hnew : name ∉ loads) :
    (names.filter (· ∉ loads ++ [name])).length < (names.filter (· ∉ loads)).length := by
  have hmem : name ∈ names.filter (· ∉ loads) := by simp [hname, hnew]
  rw [filter_loads_append, List.length_filter_lt_length_iff_exists]
  exact ⟨name, hmem, by simp⟩

theorem length_filter_loads_le (names loads : List String) (name : String) :
    (names.filter (· ∉ loads ++ [name])).length ≤ (names.filter (· ∉ loads)).length := by
  rw [filter_loads_append]
  exact List.length_filter_le _ _

variable {resolver : Resolver} {names : List String}

/-- Following a reference costs no round. -/
theorem roundsLeft_follow (hloadable : ∀ name m, resolver.load name = .ok m → name ∈ names)
    {s : Search} {q : Queue} {name : String} {others : List String} {rules : List Rule}
    (h : Orderly resolver ⟨s, q, name :: others, rules⟩) :
    roundsLeft names (followReference resolver (s, q) name).1
      (followReference resolver (s, q) name).2 ≤ roundsLeft names s q := by
  have heffect := Moment.effect_follow resolver s q name others rules
  generalize (followReference resolver (s, q) name).1 = t at heffect ⊢
  generalize (followReference resolver (s, q) name).2 = p at heffect ⊢
  cases heffect with
  | known _ => exact Nat.le_refl _
  | @loaded _ _ _ _ _ m hunmet hload =>
    have hnew : name ∉ s.loads := h.not_mem_loads hunmet
    have hfewer := length_filter_loads_lt (hloadable name m hload) hnew
    simp only [roundsLeft, List.length_append, List.length_singleton]
    omega
  | failed _ _ =>
    have hfewer := length_filter_loads_le names s.loads name
    simp only [roundsLeft]
    omega

theorem Moment.Orderly.later (hnamed : LoadsNamed resolver) {a b : Moment}
    (h : Orderly resolver a) (hlater : Later resolver a b) : Orderly resolver b := by
  induction hlater with
  | refl => exact h
  | tail _ hstep ih => exact ih.step hnamed hstep

/-- All references are followed, step by step. -/
theorem followAll_later (hnamed : LoadsNamed resolver)
    (hloadable : ∀ name m, resolver.load name = .ok m → name ∈ names) {rules : List Rule}
    (references : List String) :
    ∀ (s : Search) (q : Queue), Orderly resolver ⟨s, q, references, rules⟩ →
      let last := references.foldl (followReference resolver) (s, q)
      Later resolver ⟨s, q, references, rules⟩ ⟨last.1, last.2, [], rules⟩ ∧
        roundsLeft names last.1 last.2 ≤ roundsLeft names s q := by
  induction references with
  | nil => exact fun s q _ => ⟨.refl, Nat.le_refl _⟩
  | cons name references ih =>
    intro s q h
    have hstep : Moment.Step resolver ⟨s, q, name :: references, rules⟩ _ := .follow
    obtain ⟨hlater, hrounds⟩ := ih _ _ (h.step hnamed hstep)
    exact ⟨.head hstep hlater, Nat.le_trans hrounds (roundsLeft_follow hloadable h)⟩

/-- A module that leaves the queue is visited step by step, and costs a round. -/
theorem visit_later (hnamed : LoadsNamed resolver)
    (hloadable : ∀ name m, resolver.load name = .ok m → name ∈ names) {rules : List Rule}
    {s : Search} {m : Record} {ms : List Record} {pending : List String}
    (h : Orderly resolver ⟨s, ⟨m :: ms, pending⟩, [], rules⟩) :
    Later resolver ⟨s, ⟨m :: ms, pending⟩, [], rules⟩
        ⟨(visit resolver s m ⟨ms, pending⟩).1, (visit resolver s m ⟨ms, pending⟩).2, [], rules⟩ ∧
      roundsLeft names (visit resolver s m ⟨ms, pending⟩).1 (visit resolver s m ⟨ms, pending⟩).2 <
        roundsLeft names s ⟨m :: ms, pending⟩ := by
  have hfewer (p : List String) :
      roundsLeft names s ⟨ms, p⟩ < roundsLeft names s ⟨m :: ms, pending⟩ := by
    simp only [roundsLeft, List.length_cons]
    omega
  unfold visit
  extract_lets rest
  split
  · next hknown => exact ⟨.single (.skip hknown), hfewer _⟩
  · next hnew =>
    rw [Bool.not_eq_true] at hnew
    have hstep : Moment.Step resolver ⟨s, ⟨m :: ms, pending⟩, [], rules⟩ _ := .record hnew
    obtain ⟨hlater, hrounds⟩ :=
      followAll_later hnamed hloadable m.references _ rest (h.step hnamed hstep)
    exact ⟨.head hstep hlater, Nat.lt_of_le_of_lt hrounds (hfewer _)⟩

/-- Enough rounds empty the queue. -/
theorem drain_later (hnamed : LoadsNamed resolver)
    (hloadable : ∀ name m, resolver.load name = .ok m → name ∈ names) {rules : List Rule}
    (rounds : Nat) :
    ∀ (s : Search) (q : Queue), Orderly resolver ⟨s, q, [], rules⟩ →
      roundsLeft names s q ≤ rounds →
      ∃ pending, Later resolver ⟨s, q, [], rules⟩
        ⟨drain resolver rounds s q, ⟨[], pending⟩, [], rules⟩ := by
  induction rounds with
  | zero =>
    intro s q _ hrounds
    obtain ⟨ms, pending⟩ := q
    have hempty : ms = [] := by
      simp only [roundsLeft] at hrounds
      exact List.eq_nil_of_length_eq_zero (by omega)
    subst hempty
    exact ⟨pending, .refl⟩
  | succ rounds ih =>
    intro s q h hrounds
    obtain ⟨ms, pending⟩ := q
    cases ms with
    | nil => exact ⟨pending, .refl⟩
    | cons m ms =>
      -- The rounds left after this visit are no more than the rounds that are given for the rest.
      obtain ⟨hvisit, hfewer⟩ := visit_later hnamed hloadable h
      obtain ⟨left, hdrain⟩ := ih _ _ (h.later hnamed hvisit) (by omega)
      exact ⟨left, hvisit.trans hdrain⟩

section Bounded

variable (hnamed : LoadsNamed resolver) (hbounded : resolver.Bounded)

include hnamed hbounded

/-- The rounds that a traversal is given are enough. -/
theorem traverse_later {s : Search} {ms : List Record} {rules : List Rule}
    (h : Orderly resolver ⟨s, .ofList ms, [], rules⟩) :
    ∃ pending, Later resolver ⟨s, .ofList ms, [], rules⟩
      ⟨traverse resolver s ms, ⟨[], pending⟩, [], rules⟩ := by
  obtain ⟨names, hsize, hloadable⟩ := hbounded
  refine drain_later hnamed hloadable _ s (.ofList ms) h ?_
  have hfilter := List.length_filter_le (· ∉ s.loads) names
  simp only [roundsLeft, Queue.ofList]
  omega

theorem applyRule_later {s : Search} {pending : List String} {rule : Rule} {rules : List Rule}
    (h : Orderly resolver ⟨s, ⟨[], pending⟩, [], rule :: rules⟩) :
    ∃ left, Later resolver ⟨s, ⟨[], pending⟩, [], rule :: rules⟩
      ⟨applyRule resolver s rule, ⟨[], left⟩, [], rules⟩ := by
  have hstep : Moment.Step resolver ⟨s, ⟨[], pending⟩, [], rule :: rules⟩ _ := .discover
  obtain ⟨left, htraverse⟩ := traverse_later hnamed hbounded (h.step hnamed hstep)
  exact ⟨left, .head hstep htraverse⟩

theorem applyRules_later (rules : List Rule) :
    ∀ (s : Search) (pending : List String), Orderly resolver ⟨s, ⟨[], pending⟩, [], rules⟩ →
      ∃ left, Later resolver ⟨s, ⟨[], pending⟩, [], rules⟩
        ⟨rules.foldl (applyRule resolver) s, ⟨[], left⟩, [], []⟩ := by
  induction rules with
  | nil => exact fun s pending _ => ⟨pending, .refl⟩
  | cons rule rules ih =>
    intro s pending h
    obtain ⟨between, hrule⟩ := applyRule_later hnamed hbounded h
    obtain ⟨left, hrest⟩ := ih _ between (h.later hnamed hrule)
    exact ⟨left, hrule.trans hrest⟩

/-- A closure is the last one of its moments, but for its log. -/
theorem closure_reached (rules : List Rule) (seeds : List Record) :
    ∃ last : Moment, Reached resolver rules seeds last ∧ last.Done ∧
      (closure resolver rules seeds).registry = last.search.registry ∧
      (closure resolver rules seeds).loads = last.search.loads := by
  obtain ⟨between, hseeds⟩ :=
    traverse_later hnamed hbounded (Moment.orderly_start resolver rules seeds)
  obtain ⟨left, hrules⟩ := applyRules_later hnamed hbounded rules _ between
    ((Moment.orderly_start resolver rules seeds).later hnamed hseeds)
  exact ⟨_, hseeds.trans hrules, ⟨rfl, rfl, rfl⟩, rfl, rfl⟩

end Bounded

end LivePreview.Module
