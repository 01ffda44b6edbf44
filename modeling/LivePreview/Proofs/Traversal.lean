import LivePreview.Module.Moment
import LivePreview.Proofs.Registry

/-!
# What a step of a closure does

Each step is taken apart once: a reference is known already, leads to a module that is put into the
queue, or fails; a rule changes neither the records nor what was loaded. From that follows the order
which a closure keeps: what waits in the queue is pending or recorded, and a name that was loaded is
recorded, waits or failed.
-/

namespace LivePreview.Module

/-! ## Records -/

namespace Registry

variable {r : Registry} {m : Record}

theorem contains_eq_isSome (r : Registry) (n : String) : r.contains n = (r.get? n).isSome :=
  Table.contains_eq_isSome r.records n

theorem contains_eq_false_iff {n : String} : r.contains n = false ↔ r.get? n = none := by
  rw [contains_eq_isSome, Option.isSome_eq_false_iff, Option.isNone_iff_eq_none]

theorem contains_of_get? {n : String} (h : r.get? n = some m) : r.contains n = true := by
  rw [contains_eq_isSome, h, Option.isSome_some]

theorem records_add (hnew : r.contains m.name = false) :
    (r.add m).records = r.records.insert m.name m := by
  have hcontains : ¬ r.records.contains m.name = true := by
    rw [Bool.not_eq_true]
    exact hnew
  rw [add, if_neg hcontains]

theorem get?_add (hnew : r.contains m.name = false) (n : String) :
    (r.add m).get? n = if m.name = n then some m else r.get? n := by
  rw [get?, records_add hnew]
  exact Table.get?_insert ..

theorem contains_add (hnew : r.contains m.name = false) {n : String} :
    (r.add m).contains n = true ↔ m.name = n ∨ r.contains n = true := by
  rw [contains_eq_isSome, contains_eq_isSome, get?_add hnew]
  by_cases hn : m.name = n
  · simp [hn]
  · simp [hn]

theorem modules_add (hnew : r.contains m.name = false) :
    (r.add m).modules = r.modules ++ [m] := by
  have hkey : m.name ∉ r.records.keys :=
    Table.get?_eq_none_iff.mp (contains_eq_false_iff.mp hnew)
  rw [modules, Table.values, records_add hnew, Table.entries_insert_of_not_mem hkey,
    List.map_append, List.map_singleton, modules, Table.values]

theorem mem_modules_of_get? {n : String} (h : r.get? n = some m) : m ∈ r.modules := by
  rw [modules, Table.values, List.mem_map]
  exact ⟨_, Table.mem_entries_iff.mpr h, rfl⟩

/-- A recorded module is what its name leads to. -/
theorem Named.mem_modules (h : r.Named) : m ∈ r.modules ↔ r.get? m.name = some m := by
  rw [get?, ← Table.mem_entries_iff, modules, Table.values, List.mem_map]
  constructor
  · rintro ⟨⟨n, record⟩, hentry, rfl⟩
    have hname : record.name = n := h _ hentry
    rw [hname]
    exact hentry
  · exact fun hentry => ⟨_, hentry, rfl⟩

/-- What a name leads to has this name. -/
theorem Named.name_of_get? (h : r.Named) {n : String} (hm : r.get? n = some m) : m.name = n :=
  h _ (Table.mem_entries_iff.mpr hm)

end Registry

/-! ## Rules -/

/-- What the rules and files leave alone. -/
structure Search.SameRecords (s t : Search) : Prop where
  records : t.registry.records = s.registry.records
  failed : t.failed = s.failed
  loads : t.loads = s.loads

theorem inspectFiles_sameRecords (resolver : Resolver) (files : List Location) :
    ∀ (s : Search) (found : List Record),
      s.SameRecords (inspectFiles resolver s found files).1 := by
  induction files with
  | nil => exact fun _ _ => ⟨rfl, rfl, rfl⟩
  | cons l ls ih =>
    intro s found
    rw [inspectFiles]
    split
    · obtain ⟨hrecords, hfailed, hloads⟩ := ih _ found
      exact ⟨hrecords, hfailed, hloads⟩
    · split
      · exact ih s found
      · exact ih s _

theorem discover_sameRecords (resolver : Resolver) (s : Search) (rule : Rule) :
    s.SameRecords (discover resolver s rule).1 := by
  unfold discover
  split
  · exact ⟨rfl, rfl, rfl⟩
  · exact ⟨rfl, rfl, rfl⟩
  · extract_lets directory
    split
    · exact ⟨rfl, rfl, rfl⟩
    · next files _ =>
      obtain ⟨hrecords, hfailed, hloads⟩ := inspectFiles_sameRecords resolver files s []
      exact ⟨hrecords, hfailed, hloads⟩

theorem Search.SameRecords.get? {s t : Search} (h : s.SameRecords t) (n : String) :
    t.registry.get? n = s.registry.get? n := congrArg (Table.get? · n) h.records

theorem Search.SameRecords.contains {s t : Search} (h : s.SameRecords t) (n : String) :
    t.registry.contains n = s.registry.contains n := congrArg (Table.contains · n) h.records

theorem Search.SameRecords.modules {s t : Search} (h : s.SameRecords t) :
    t.registry.modules = s.registry.modules := congrArg Table.values h.records

/-! ## Steps -/

/-- A name that is neither recorded nor pending, and did not fail. -/
structure Unmet (s : Search) (q : Queue) (name : String) : Prop where
  unrecorded : s.registry.contains name = false
  unqueued : name ∉ q.pending
  unfailed : name ∉ s.failed

namespace Moment

/-- All that a step can do. -/
inductive Effect (resolver : Resolver) : Moment → Moment → Prop where
  | known {s : Search} {q : Queue} {name : String} {names : List String} {rules : List Rule}
      (hmet : ¬ Unmet s q name) :
      Effect resolver ⟨s, q, name :: names, rules⟩ ⟨s, q, names, rules⟩
  | loaded {s : Search} {q : Queue} {name : String} {names : List String} {rules : List Rule}
      {m : Record} (hunmet : Unmet s q name) (hload : resolver.load name = .ok m) :
      Effect resolver ⟨s, q, name :: names, rules⟩
        ⟨{ s with loads := s.loads ++ [name] }, ⟨q.modules ++ [m], m.name :: q.pending⟩,
          names, rules⟩
  | failed {s : Search} {q : Queue} {name : String} {names : List String} {rules : List Rule}
      {f : Failure} {log : Log} (hunmet : Unmet s q name) (hload : resolver.load name = .error f) :
      Effect resolver ⟨s, q, name :: names, rules⟩
        ⟨⟨s.registry.recordFailure f, name :: s.failed, s.loads ++ [name], log⟩, q, names, rules⟩
  | recorded {s : Search} {m : Record} {ms : List Record} {pending : List String}
      {rules : List Rule} (hnew : s.registry.contains m.name = false) :
      Effect resolver ⟨s, ⟨m :: ms, pending⟩, [], rules⟩
        ⟨{ s with registry := s.registry.add m }, ⟨ms, pending.filter (· ≠ m.name)⟩,
          m.references, rules⟩
  | skipped {s : Search} {m : Record} {ms : List Record} {pending : List String}
      {rules : List Rule} (hknown : s.registry.contains m.name = true) :
      Effect resolver ⟨s, ⟨m :: ms, pending⟩, [], rules⟩
        ⟨s, ⟨ms, pending.filter (· ≠ m.name)⟩, [], rules⟩
  | discovered {s t : Search} {pending : List String} {rule : Rule} {rules : List Rule}
      {found : List Record} (hfound : discover resolver s rule = (t, found))
      (hsame : s.SameRecords t) :
      Effect resolver ⟨s, ⟨[], pending⟩, [], rule :: rules⟩ ⟨t, .ofList found, [], rules⟩

variable {resolver : Resolver} {a b : Moment}

theorem effect_follow (resolver : Resolver) (s : Search) (q : Queue) (name : String)
    (names : List String) (rules : List Rule) :
    Effect resolver ⟨s, q, name :: names, rules⟩
      ⟨(followReference resolver (s, q) name).1, (followReference resolver (s, q) name).2,
        names, rules⟩ := by
  have hunmet : Unmet s q name ↔ ¬ (s.registry.contains name || q.pending.contains name ||
      s.failed.contains name) = true := by
    rw [Bool.or_eq_true, Bool.or_eq_true, not_or, not_or, Bool.not_eq_true,
      List.contains_iff_mem, List.contains_iff_mem, and_assoc]
    exact ⟨fun h => ⟨h.unrecorded, h.unqueued, h.unfailed⟩, fun h => ⟨h.1, h.2.1, h.2.2⟩⟩
  rw [followReference]
  split
  · next hmet => exact .known fun h => hunmet.mp h hmet
  · next hnew =>
    extract_lets loaded
    split
    · next m hload => exact .loaded (hunmet.mpr hnew) hload
    · next f hload => exact .failed (hunmet.mpr hnew) hload

theorem Step.effect (h : Step resolver a b) : Effect resolver a b := by
  cases h with
  | @follow s q name names rules => exact effect_follow resolver s q name names rules
  | record hnew => exact .recorded hnew
  | skip hknown => exact .skipped hknown
  | @discover s pending rule rules => exact .discovered rfl (discover_sameRecords resolver s rule)

/-- What adding records and failures keeps is kept by every step. -/
theorem Step.keeps {P : Registry → Prop} (hP : Registry.Kept P) (h : Step resolver a b)
    (ha : P a.search.registry) : P b.search.registry := by
  cases h with
  | @follow s q name names rules => exact followReference_keeps hP resolver (s, q) name ha
  | record _ => exact hP.add _ _ ha
  | skip _ => exact ha
  | @discover s pending rule rules => exact discover_keeps hP resolver rule ha

theorem named_of_reached {rules : List Rule} {seeds : List Record}
    (h : Reached resolver rules seeds a) : a.search.registry.Named := by
  induction h with
  | refl => exact fun _ he => absurd he List.not_mem_nil
  | tail _ hstep ih => exact hstep.keeps kept_named ih

/-! ## What is held -/

/-- The name is recorded or waits. -/
def Holds (a : Moment) (n : String) : Prop :=
  a.search.registry.contains n = true ∨ n ∈ a.queue.modules.map (·.name)

/-- Nothing that is held is given up. -/
theorem Effect.holds {n : String} (h : Effect resolver a b) (ha : a.Holds n) : b.Holds n := by
  cases h with
  | known _ => exact ha
  | failed _ _ => exact ha
  | loaded _ _ =>
    rcases ha with hrecorded | hwaits
    · exact .inl hrecorded
    · right
      rw [List.map_append]
      exact List.mem_append_left _ hwaits
  | recorded hnew =>
    rcases ha with hrecorded | hwaits
    · exact .inl ((Registry.contains_add hnew).mpr (.inr hrecorded))
    · rcases List.mem_cons.mp hwaits with rfl | hwaits
      · exact .inl ((Registry.contains_add hnew).mpr (.inl rfl))
      · exact .inr hwaits
  | skipped hknown =>
    rcases ha with hrecorded | hwaits
    · exact .inl hrecorded
    · rcases List.mem_cons.mp hwaits with rfl | hwaits
      · exact .inl hknown
      · exact .inr hwaits
  | discovered _ hsame =>
    rcases ha with hrecorded | hwaits
    · exact .inl ((hsame.contains n).trans hrecorded)
    · exact absurd hwaits List.not_mem_nil

/-- A failed name stays one. -/
theorem Effect.failed_of_failed {n : String} (h : Effect resolver a b)
    (ha : n ∈ a.search.failed) : n ∈ b.search.failed := by
  cases h with
  | known _ => exact ha
  | loaded _ _ => exact ha
  | failed _ _ => exact List.mem_cons_of_mem _ ha
  | recorded _ => exact ha
  | skipped _ => exact ha
  | discovered _ hsame =>
    rw [hsame.failed]
    exact ha

theorem Holds.later {n : String} (h : a.Holds n) (hlater : Later resolver a b) : b.Holds n := by
  induction hlater with
  | refl => exact h
  | tail _ hstep ih => exact hstep.effect.holds ih

/-- When nothing waits any more, what is held is recorded. -/
theorem Holds.contains {n : String} (h : a.Holds n) (hdone : a.Done) :
    a.search.registry.contains n = true := by
  rcases h with hrecorded | hwaits
  · exact hrecorded
  · rw [hdone.1] at hwaits
    exact absurd hwaits List.not_mem_nil

/-! ## Order -/

/-- How queue, registry, loads and failed names hang together. -/
structure Orderly (resolver : Resolver) (a : Moment) : Prop where
  waiting : ∀ m ∈ a.queue.modules,
    a.search.registry.contains m.name = true ∨ m.name ∈ a.queue.pending
  pending : ∀ n ∈ a.queue.pending, a.Holds n
  loaded : ∀ n ∈ a.search.loads, a.Holds n ∨ n ∈ a.search.failed
  failed : ∀ n ∈ a.search.failed, n ∈ a.search.loads ∧ ∃ f, resolver.load n = .error f
  nodup : a.search.loads.Nodup
  /-- A reference of a recorded module is still to be followed, is held, or failed. -/
  covered : ∀ m ∈ a.search.registry.modules, ∀ n ∈ m.references,
    n ∈ a.references ∨ a.Holds n ∨ n ∈ a.search.failed

theorem orderly_start (resolver : Resolver) (rules : List Rule) (seeds : List Record) :
    Orderly resolver (start rules seeds) where
  waiting _ hm := .inr (List.mem_map_of_mem hm)
  pending _ hn := .inr hn
  loaded _ hn := absurd hn List.not_mem_nil
  failed _ hn := absurd hn List.not_mem_nil
  nodup := List.nodup_nil
  covered _ hm := absurd hm List.not_mem_nil

namespace Orderly

/-- A name that is held is pending or recorded. -/
theorem not_holds (h : Orderly resolver a) {n : String} (hunmet : Unmet a.search a.queue n) :
    ¬ a.Holds n := by
  have hnew : ¬ a.search.registry.contains n = true := by
    rw [Bool.not_eq_true]
    exact hunmet.unrecorded
  rintro (hrecorded | hwaits)
  · exact hnew hrecorded
  · obtain ⟨m, hm, rfl⟩ := List.mem_map.mp hwaits
    rcases h.waiting m hm with hrecorded | hpending
    · exact hnew hrecorded
    · exact hunmet.unqueued hpending

/-- A name that is not met before was never loaded. -/
theorem not_mem_loads (h : Orderly resolver a) {n : String}
    (hunmet : Unmet a.search a.queue n) : n ∉ a.search.loads := by
  intro hn
  rcases h.loaded n hn with hheld | hfailed
  · exact h.not_holds hunmet hheld
  · exact hunmet.unfailed hfailed

theorem holds_of_met (h : Orderly resolver a) {n : String}
    (hmet : ¬ Unmet a.search a.queue n) : a.Holds n ∨ n ∈ a.search.failed := by
  by_cases hrecorded : a.search.registry.contains n = true
  · exact .inl (.inl hrecorded)
  · by_cases hpending : n ∈ a.queue.pending
    · exact .inl (h.pending n hpending)
    · by_cases hfailed : n ∈ a.search.failed
      · exact .inr hfailed
      · have hnew : a.search.registry.contains n = false := by
          rwa [Bool.not_eq_true] at hrecorded
        exact absurd ⟨hnew, hpending, hfailed⟩ hmet

/-- What a step keeps of the names that were loaded. -/
theorem loaded_effect (h : Orderly resolver a) (heffect : Effect resolver a b) :
    ∀ n ∈ a.search.loads, b.Holds n ∨ n ∈ b.search.failed :=
  fun n hn => (h.loaded n hn).imp heffect.holds heffect.failed_of_failed

section Following

variable {s : Search} {q : Queue} {name : String} {names : List String} {rules : List Rule}

/-- A reference counts as followed once its name is held or failed. -/
theorem covered_tail (h : Orderly resolver ⟨s, q, name :: names, rules⟩)
    (heffect : Effect resolver ⟨s, q, name :: names, rules⟩ b) (hnames : b.references = names)
    (hmodules : b.search.registry.modules = s.registry.modules)
    (hname : b.Holds name ∨ name ∈ b.search.failed) :
    ∀ m ∈ b.search.registry.modules, ∀ n ∈ m.references,
      n ∈ b.references ∨ b.Holds n ∨ n ∈ b.search.failed := by
  intro m hm n hn
  rw [hmodules] at hm
  rw [hnames]
  rcases h.covered m hm n hn with hrest | hheld | hfailed
  · rcases List.mem_cons.mp hrest with rfl | hrest
    · exact .inr hname
    · exact .inl hrest
  · exact .inr (.inl (heffect.holds hheld))
  · exact .inr (.inr (heffect.failed_of_failed hfailed))

theorem known (h : Orderly resolver ⟨s, q, name :: names, rules⟩) (hmet : ¬ Unmet s q name) :
    Orderly resolver ⟨s, q, names, rules⟩ where
  waiting := h.waiting
  pending := h.pending
  loaded := h.loaded
  failed := h.failed
  nodup := h.nodup
  covered := h.covered_tail (.known hmet) rfl rfl (h.holds_of_met hmet)

theorem append_nodup (h : Orderly resolver ⟨s, q, name :: names, rules⟩)
    (hunmet : Unmet s q name) : (s.loads ++ [name]).Nodup := by
  have hfresh : name ∉ s.loads := h.not_mem_loads hunmet
  refine List.nodup_append.mpr ⟨h.nodup, List.pairwise_singleton _ _, ?_⟩
  intro n hn other hother heq
  rw [List.mem_singleton.mp hother] at heq
  exact hfresh (heq ▸ hn)

theorem load (h : Orderly resolver ⟨s, q, name :: names, rules⟩) (hunmet : Unmet s q name)
    {m : Record} (hload : resolver.load name = .ok m) (hname : m.name = name) :
    Orderly resolver ⟨{ s with loads := s.loads ++ [name] },
      ⟨q.modules ++ [m], m.name :: q.pending⟩, names, rules⟩ := by
  have heffect : Effect resolver ⟨s, q, name :: names, rules⟩
      ⟨{ s with loads := s.loads ++ [name] }, ⟨q.modules ++ [m], m.name :: q.pending⟩, names,
        rules⟩ := .loaded hunmet hload
  have hheld : Holds ⟨{ s with loads := s.loads ++ [name] },
      ⟨q.modules ++ [m], m.name :: q.pending⟩, names, rules⟩ name := by
    right
    rw [List.map_append, List.map_singleton, hname]
    exact List.mem_append_right _ List.mem_cons_self
  constructor
  · intro other hother
    rcases List.mem_append.mp hother with hother | hother
    · exact (h.waiting other hother).imp_right (List.mem_cons_of_mem _)
    · rw [List.mem_singleton.mp hother]
      exact .inr List.mem_cons_self
  · intro n hn
    rcases List.mem_cons.mp hn with rfl | hn
    · rw [hname]
      exact hheld
    · exact heffect.holds (h.pending n hn)
  · intro n hn
    rcases List.mem_append.mp hn with hn | hn
    · exact h.loaded_effect heffect n hn
    · rw [List.mem_singleton.mp hn]
      exact .inl hheld
  · intro n hn
    obtain ⟨hloaded, hload⟩ := h.failed n hn
    exact ⟨List.mem_append_left _ hloaded, hload⟩
  · exact h.append_nodup hunmet
  · exact h.covered_tail heffect rfl rfl (.inl hheld)

theorem fail (h : Orderly resolver ⟨s, q, name :: names, rules⟩) (hunmet : Unmet s q name)
    {f : Failure} (hload : resolver.load name = .error f) (log : Log) :
    Orderly resolver ⟨⟨s.registry.recordFailure f, name :: s.failed, s.loads ++ [name], log⟩, q,
      names, rules⟩ := by
  have heffect : Effect resolver ⟨s, q, name :: names, rules⟩
      ⟨⟨s.registry.recordFailure f, name :: s.failed, s.loads ++ [name], log⟩, q, names,
        rules⟩ := .failed hunmet hload
  constructor
  · exact h.waiting
  · exact fun n hn => heffect.holds (h.pending n hn)
  · intro n hn
    rcases List.mem_append.mp hn with hn | hn
    · exact h.loaded_effect heffect n hn
    · rw [List.mem_singleton.mp hn]
      exact .inr List.mem_cons_self
  · intro n hn
    rcases List.mem_cons.mp hn with rfl | hn
    · exact ⟨List.mem_append_right _ List.mem_cons_self, f, hload⟩
    · obtain ⟨hloaded, hload⟩ := h.failed n hn
      exact ⟨List.mem_append_left _ hloaded, hload⟩
  · exact h.append_nodup hunmet
  · exact h.covered_tail heffect rfl rfl (.inr List.mem_cons_self)

end Following

section Taking

variable {s : Search} {m : Record} {ms : List Record} {names : List String} {rules : List Rule}

/-- Of the module that left the queue no other one is waiting unrecorded. -/
theorem waiting_tail (h : Orderly resolver ⟨s, ⟨m :: ms, names⟩, [], rules⟩) {r : Registry}
    (hm : r.contains m.name = true)
    (hkept : ∀ n, s.registry.contains n = true → r.contains n = true) :
    ∀ other ∈ ms, r.contains other.name = true ∨ other.name ∈ names.filter (· ≠ m.name) := by
  intro other hother
  by_cases hname : other.name = m.name
  · rw [hname]
    exact .inl hm
  · rcases h.waiting other (List.mem_cons_of_mem m hother) with hrecorded | hpending
    · exact .inl (hkept _ hrecorded)
    · exact .inr (List.mem_filter.mpr ⟨hpending, by simpa using hname⟩)

theorem pending_tail (h : Orderly resolver ⟨s, ⟨m :: ms, names⟩, [], rules⟩)
    (heffect : Effect resolver ⟨s, ⟨m :: ms, names⟩, [], rules⟩ b) :
    ∀ n ∈ names.filter (· ≠ m.name), b.Holds n :=
  fun n hn => heffect.holds (h.pending n (List.mem_filter.mp hn).1)

theorem record (h : Orderly resolver ⟨s, ⟨m :: ms, names⟩, [], rules⟩)
    (hnew : s.registry.contains m.name = false) :
    Orderly resolver ⟨{ s with registry := s.registry.add m },
      ⟨ms, names.filter (· ≠ m.name)⟩, m.references, rules⟩ := by
  have heffect : Effect resolver ⟨s, ⟨m :: ms, names⟩, [], rules⟩
      ⟨{ s with registry := s.registry.add m }, ⟨ms, names.filter (· ≠ m.name)⟩, m.references,
        rules⟩ := .recorded hnew
  have hown : (s.registry.add m).contains m.name = true :=
    (Registry.contains_add hnew).mpr (.inl rfl)
  constructor
  · exact h.waiting_tail hown fun _ hn => (Registry.contains_add hnew).mpr (.inr hn)
  · exact h.pending_tail heffect
  · exact h.loaded_effect heffect
  · exact h.failed
  · exact h.nodup
  · intro other hother n hn
    change other ∈ (s.registry.add m).modules at hother
    rw [Registry.modules_add hnew] at hother
    rcases List.mem_append.mp hother with hother | hother
    · right
      rcases h.covered other hother n hn with hrest | hheld | hfailed
      · exact absurd hrest List.not_mem_nil
      · exact .inl (heffect.holds hheld)
      · exact .inr hfailed
    · rw [List.mem_singleton.mp hother] at hn
      exact .inl hn

theorem skip (h : Orderly resolver ⟨s, ⟨m :: ms, names⟩, [], rules⟩)
    (hknown : s.registry.contains m.name = true) :
    Orderly resolver ⟨s, ⟨ms, names.filter (· ≠ m.name)⟩, [], rules⟩ := by
  have heffect : Effect resolver ⟨s, ⟨m :: ms, names⟩, [], rules⟩
      ⟨s, ⟨ms, names.filter (· ≠ m.name)⟩, [], rules⟩ := .skipped hknown
  constructor
  · exact h.waiting_tail hknown fun _ hn => hn
  · exact h.pending_tail heffect
  · exact h.loaded_effect heffect
  · exact h.failed
  · exact h.nodup
  · intro other hother n hn
    exact (h.covered other hother n hn).imp_right (Or.imp_left heffect.holds)

end Taking

theorem discover {s t : Search} {names : List String} {rule : Rule} {rules : List Rule}
    {found : List Record} (h : Orderly resolver ⟨s, ⟨[], names⟩, [], rule :: rules⟩)
    (hfound : Module.discover resolver s rule = (t, found)) (hsame : s.SameRecords t) :
    Orderly resolver ⟨t, .ofList found, [], rules⟩ := by
  have heffect : Effect resolver ⟨s, ⟨[], names⟩, [], rule :: rules⟩
      ⟨t, .ofList found, [], rules⟩ := .discovered hfound hsame
  constructor
  · exact fun m hm => .inr (List.mem_map_of_mem hm)
  · exact fun n hn => .inr hn
  · intro n hn
    rw [hsame.loads] at hn
    exact h.loaded_effect heffect n hn
  · intro n hn
    rw [hsame.failed] at hn
    rw [hsame.loads]
    exact h.failed n hn
  · rw [hsame.loads]
    exact h.nodup
  · intro m hm n hn
    rw [hsame.modules] at hm
    right
    rcases h.covered m hm n hn with hrest | hheld | hfailed
    · exact absurd hrest List.not_mem_nil
    · exact .inl (heffect.holds hheld)
    · exact .inr (heffect.failed_of_failed hfailed)

end Orderly

/-- What is loaded under a name has this name. -/
def LoadsNamed (resolver : Resolver) : Prop :=
  ∀ name m, resolver.load name = .ok m → m.name = name

theorem Orderly.step (hnamed : LoadsNamed resolver) (h : Orderly resolver a)
    (hstep : Step resolver a b) : Orderly resolver b := by
  cases hstep.effect with
  | known hmet => exact h.known hmet
  | loaded hunmet hload => exact h.load hunmet hload (hnamed _ _ hload)
  | failed hunmet hload => exact h.fail hunmet hload _
  | recorded hnew => exact h.record hnew
  | skipped hknown => exact h.skip hknown
  | discovered hfound hsame => exact h.discover hfound hsame

theorem orderly_of_reached (hnamed : LoadsNamed resolver) {rules : List Rule}
    {seeds : List Record} (h : Reached resolver rules seeds a) : Orderly resolver a := by
  induction h with
  | refl => exact orderly_start resolver rules seeds
  | tail _ hstep ih => exact ih.step hnamed hstep

end Moment

end LivePreview.Module
