import LivePreview.Proofs.Exactness
import Mathlib.Order.Lattice.Nat

/-!
# Modules are recorded by their distance

Without rules a closure of a table records its modules in the order of their distance from the
seeds. The queue never holds more than two levels: what waits is as deep as the module that is
followed just now, or one step deeper, and the deeper ones stand behind. A module gets its depth
when it is loaded, from the first module that refers to it, and in the end no way to it turns out to
be shorter.
-/

namespace LivePreview.Module

open Moment (LoadsNamed Orderly Reached Step Effect)

/-- Some way of so many references, each of a recorded module, leads from a seed to this name. -/
inductive Away (r : Registry) (seeds : List Record) : Nat → String → Prop where
  | seed {m : Record} (hm : m ∈ seeds) : Away r seeds 0 m.name
  | reference {d : Nat} {referrer n : String} {m : Record} (h : Away r seeds d referrer)
      (hm : r.get? referrer = some m) (hn : n ∈ m.references) : Away r seeds (d + 1) n

/-- The least number of references on a way from a seed. -/
noncomputable def distance (r : Registry) (seeds : List Record) (n : String) : Nat :=
  sInf {d | Away r seeds d n}

/-! ## Two levels -/

/-- A moment in which all names that are held have a depth. What is recorded is no deeper than the
level that is followed, and what waits is on this level or the next one. -/
structure Moment.Graded (seeds : List Record) (depth : String → Nat) (level : Nat) (a : Moment) :
    Prop where
  rules : a.rules = []
  seeded : ∀ m ∈ seeds, a.Holds m.name ∧ depth m.name = 0
  order : a.search.registry.modules.Pairwise fun m k => depth m.name ≤ depth k.name
  queue : a.queue.modules.Pairwise fun m k => depth m.name ≤ depth k.name
  recorded : ∀ m ∈ a.search.registry.modules, depth m.name ≤ level
  waiting : ∀ m ∈ a.queue.modules, level ≤ depth m.name ∧ depth m.name ≤ level + 1
  references : ∀ n ∈ a.references, ∃ m ∈ a.search.registry.modules,
    n ∈ m.references ∧ depth m.name = level
  /-- What is held is a seed or was found from a module one step nearer. -/
  origin : ∀ n, a.Holds n → (∃ m ∈ seeds, m.name = n) ∨
    ∃ m ∈ a.search.registry.modules, n ∈ m.references ∧ depth n = depth m.name + 1
  /-- A reference that was followed leads at most one step deeper, unless it failed. -/
  covered : ∀ m ∈ a.search.registry.modules, ∀ n ∈ m.references,
    n ∈ a.references ∧ depth m.name = level ∨
      a.Holds n ∧ depth n ≤ depth m.name + 1 ∨ n ∈ a.search.failed

namespace Moment

variable {resolver : Resolver} {seeds : List Record} {depth : String → Nat} {level : Nat}
  {a b : Moment}

theorem holds_of_mem_modules (hrecords : a.search.registry.Named) {m : Record}
    (hm : m ∈ a.search.registry.modules) : a.Holds m.name :=
  .inl (Registry.contains_of_get? (hrecords.mem_modules.mp hm))

theorem holds_of_mem_queue {m : Record} (hm : m ∈ a.queue.modules) : a.Holds m.name :=
  .inr (List.mem_map_of_mem hm)

namespace Graded

theorem start (seeds : List Record) : Graded seeds (fun _ => 0) 0 (.start [] seeds) where
  rules := rfl
  seeded _ hm := ⟨holds_of_mem_queue hm, rfl⟩
  order := List.Pairwise.nil
  queue := List.pairwise_of_forall fun _ _ => Nat.le_refl 0
  recorded _ hm := absurd hm List.not_mem_nil
  waiting _ _ := ⟨Nat.le_refl 0, Nat.zero_le 1⟩
  references _ hn := absurd hn List.not_mem_nil
  origin n hn := by
    rcases hn with hrecorded | hwaits
    · cases hrecorded
    · exact .inl (List.mem_map.mp hwaits)
  covered _ hm := absurd hm List.not_mem_nil

/-- Only the depths of names that are held count. -/
theorem congr (h : Graded seeds depth level a) (hrecords : a.search.registry.Named)
    {other : String → Nat} (hother : ∀ n, a.Holds n → other n = depth n) :
    Graded seeds other level a := by
  have hmodule : ∀ m ∈ a.search.registry.modules, other m.name = depth m.name :=
    fun m hm => hother m.name (holds_of_mem_modules hrecords hm)
  have hqueue : ∀ m ∈ a.queue.modules, other m.name = depth m.name :=
    fun m hm => hother m.name (holds_of_mem_queue hm)
  refine ⟨h.rules, fun m hm => ?_, ?_, ?_, fun m hm => ?_, fun m hm => ?_, fun n hn => ?_,
    fun n hn => ?_, fun m hm n hn => ?_⟩
  · obtain ⟨hheld, hzero⟩ := h.seeded m hm
    exact ⟨hheld, (hother m.name hheld).trans hzero⟩
  · refine h.order.imp_of_mem fun hm hk hle => ?_
    rw [hmodule _ hm, hmodule _ hk]
    exact hle
  · refine h.queue.imp_of_mem fun hm hk hle => ?_
    rw [hqueue _ hm, hqueue _ hk]
    exact hle
  · rw [hmodule m hm]
    exact h.recorded m hm
  · rw [hqueue m hm]
    exact h.waiting m hm
  · obtain ⟨m, hm, hreference, hlevel⟩ := h.references n hn
    exact ⟨m, hm, hreference, (hmodule m hm).trans hlevel⟩
  · rw [hother n hn]
    refine (h.origin n hn).imp_right ?_
    rintro ⟨m, hm, hreference, hdepth⟩
    exact ⟨m, hm, hreference, by rw [hmodule m hm, hdepth]⟩
  · rw [hmodule m hm]
    rcases h.covered m hm n hn with hrest | ⟨hheld, hle⟩ | hfailed
    · exact .inl hrest
    · refine .inr (.inl ⟨hheld, ?_⟩)
      rw [hother n hheld]
      exact hle
    · exact .inr (.inr hfailed)

theorem depth_le (h : Graded seeds depth level a) (hrecords : a.search.registry.Named) {n : String}
    (hn : a.Holds n) : depth n ≤ level + 1 := by
  rcases hn with hrecorded | hwaits
  · rw [Registry.contains_eq_isSome] at hrecorded
    obtain ⟨m, hm⟩ := Option.isSome_iff_exists.mp hrecorded
    have hle := h.recorded m (Registry.mem_modules_of_get? hm)
    rw [hrecords.name_of_get? hm] at hle
    omega
  · obtain ⟨m, hm, rfl⟩ := List.mem_map.mp hwaits
    exact (h.waiting m hm).2

/-! ### Following a reference -/

section Following

variable {s : Search} {q : Queue} {name : String} {names : List String} {rules : List Rule}

theorem known (h : Graded seeds depth level ⟨s, q, name :: names, rules⟩)
    (hrecords : s.registry.Named)
    (hmet : Moment.Holds ⟨s, q, name :: names, rules⟩ name ∨ name ∈ s.failed) :
    Graded seeds depth level ⟨s, q, names, rules⟩ where
  rules := h.rules
  seeded := h.seeded
  order := h.order
  queue := h.queue
  recorded := h.recorded
  waiting := h.waiting
  references n hn := h.references n (List.mem_cons_of_mem name hn)
  origin := h.origin
  covered m hm n hn := by
    rcases h.covered m hm n hn with ⟨hrest, hlevel⟩ | hfollowed
    · rcases List.mem_cons.mp hrest with rfl | hrest
      · right
        rcases hmet with hheld | hfailed
        · refine .inl ⟨hheld, ?_⟩
          rw [hlevel]
          exact h.depth_le hrecords hheld
        · exact .inr hfailed
      · exact .inl ⟨hrest, hlevel⟩
    · exact .inr hfollowed

theorem fail (h : Graded seeds depth level ⟨s, q, name :: names, rules⟩) (f : Failure) (log : Log) :
    Graded seeds depth level
      ⟨⟨s.registry.recordFailure f, name :: s.failed, s.loads ++ [name], log⟩, q, names, rules⟩ where
  rules := h.rules
  seeded := h.seeded
  order := h.order
  queue := h.queue
  recorded := h.recorded
  waiting := h.waiting
  references n hn := h.references n (List.mem_cons_of_mem name hn)
  origin := h.origin
  covered m hm n hn := by
    rcases h.covered m hm n hn with ⟨hrest, hlevel⟩ | hheld | hfailed
    · rcases List.mem_cons.mp hrest with rfl | hrest
      · exact .inr (.inr List.mem_cons_self)
      · exact .inl ⟨hrest, hlevel⟩
    · exact .inr (.inl hheld)
    · exact .inr (.inr (List.mem_cons_of_mem name hfailed))

/-- A module that is loaded has its depth from the module that is followed. -/
theorem load (h : Graded seeds depth level ⟨s, q, name :: names, rules⟩)
    (hdepth : depth name = level + 1) (hunmet : Unmet s q name) {m : Record}
    (hload : resolver.load name = .ok m) (hname : m.name = name) :
    Graded seeds depth level ⟨{ s with loads := s.loads ++ [name] },
      ⟨q.modules ++ [m], m.name :: q.pending⟩, names, rules⟩ := by
  have heffect : Effect resolver ⟨s, q, name :: names, rules⟩
      ⟨{ s with loads := s.loads ++ [name] }, ⟨q.modules ++ [m], m.name :: q.pending⟩, names,
        rules⟩ := .loaded hunmet hload
  have hnew : depth m.name = level + 1 := by rw [hname, hdepth]
  have hheld : Moment.Holds ⟨{ s with loads := s.loads ++ [name] },
      ⟨q.modules ++ [m], m.name :: q.pending⟩, names, rules⟩ name := by
    rw [← hname]
    exact holds_of_mem_queue (List.mem_append_right _ List.mem_cons_self)
  refine ⟨h.rules, fun k hk => ⟨heffect.holds (h.seeded k hk).1, (h.seeded k hk).2⟩, h.order, ?_,
    h.recorded, ?_, fun n hn => h.references n (List.mem_cons_of_mem name hn), ?_, ?_⟩
  · refine List.pairwise_append.mpr ⟨h.queue, List.pairwise_singleton _ m, ?_⟩
    intro k hk other hother
    rw [List.mem_singleton.mp hother, hnew]
    exact (h.waiting k hk).2
  · intro k hk
    rcases List.mem_append.mp hk with hold | hlast
    · exact h.waiting k hold
    · rw [List.mem_singleton.mp hlast, hnew]
      omega
  · intro n hn
    by_cases hfresh : n = name
    · obtain ⟨referrer, hreferrer, hreference, hlevel⟩ := h.references name List.mem_cons_self
      rw [hfresh, hdepth, ← hlevel]
      exact .inr ⟨referrer, hreferrer, hreference, rfl⟩
    · refine h.origin n (hn.imp_right fun hwaits => ?_)
      change n ∈ (q.modules ++ [m]).map (·.name) at hwaits
      rw [List.map_append, List.mem_append, List.map_singleton, List.mem_singleton, hname] at hwaits
      exact hwaits.resolve_right hfresh
  · intro k hk n hn
    rcases h.covered k hk n hn with ⟨hrest, hlevel⟩ | ⟨hold, hle⟩ | hfailed
    · rcases List.mem_cons.mp hrest with rfl | hrest
      · exact .inr (.inl ⟨hheld, by omega⟩)
      · exact .inl ⟨hrest, hlevel⟩
    · exact .inr (.inl ⟨heffect.holds hold, hle⟩)
    · exact .inr (.inr hfailed)

end Following

/-! ### Taking a module from the queue -/

section Taking

variable {s : Search} {m : Record} {ms : List Record} {pending : List String} {rules : List Rule}

/-- The level rises to the depth of the module that is recorded, by one or not at all. -/
theorem record (h : Graded seeds depth level ⟨s, ⟨m :: ms, pending⟩, [], rules⟩)
    (heffect : Effect resolver ⟨s, ⟨m :: ms, pending⟩, [], rules⟩
      ⟨{ s with registry := s.registry.add m }, ⟨ms, pending.filter (· ≠ m.name)⟩, m.references,
        rules⟩)
    (hnew : s.registry.contains m.name = false) :
    Graded seeds depth (depth m.name) ⟨{ s with registry := s.registry.add m },
      ⟨ms, pending.filter (· ≠ m.name)⟩, m.references, rules⟩ := by
  have hmodules := Registry.modules_add hnew
  obtain ⟨hfirst, hqueue⟩ := List.pairwise_cons.mp h.queue
  obtain ⟨hlow, hhigh⟩ := h.waiting m List.mem_cons_self
  refine ⟨h.rules, fun k hk => ⟨heffect.holds (h.seeded k hk).1, (h.seeded k hk).2⟩, ?_, hqueue,
    fun k hk => ?_, fun k hk => ?_, fun n hn => ?_, fun n hn => ?_, fun k hk n hn => ?_⟩
  · rw [hmodules, List.pairwise_append]
    refine ⟨h.order, List.pairwise_singleton _ m, fun k hk other hother => ?_⟩
    rw [List.mem_singleton.mp hother]
    exact Nat.le_trans (h.recorded k hk) hlow
  · rw [hmodules] at hk
    rcases List.mem_append.mp hk with hold | hlast
    · exact Nat.le_trans (h.recorded k hold) hlow
    · rw [List.mem_singleton.mp hlast]
  · have hdepth := (h.waiting k (List.mem_cons_of_mem m hk)).2
    exact ⟨hfirst k hk, by omega⟩
  · refine ⟨m, ?_, hn, rfl⟩
    rw [hmodules]
    exact List.mem_append_right _ List.mem_cons_self
  · have hbefore : Moment.Holds ⟨s, ⟨m :: ms, pending⟩, [], rules⟩ n := by
      rcases hn with hrecorded | hwaits
      · rcases (Registry.contains_add hnew).mp hrecorded with rfl | hold
        · exact holds_of_mem_queue List.mem_cons_self
        · exact .inl hold
      · exact .inr (List.mem_cons_of_mem _ hwaits)
    refine (h.origin n hbefore).imp_right ?_
    rintro ⟨k, hk, hreference⟩
    refine ⟨k, ?_, hreference⟩
    rw [hmodules]
    exact List.mem_append_left _ hk
  · rw [hmodules] at hk
    rcases List.mem_append.mp hk with hold | hlast
    · rcases h.covered k hold n hn with ⟨hrest, -⟩ | ⟨hheld, hle⟩ | hfailed
      · exact absurd hrest List.not_mem_nil
      · exact .inr (.inl ⟨heffect.holds hheld, hle⟩)
      · exact .inr (.inr hfailed)
    · rw [List.mem_singleton.mp hlast] at hn ⊢
      exact .inl ⟨hn, rfl⟩

theorem skip (h : Graded seeds depth level ⟨s, ⟨m :: ms, pending⟩, [], rules⟩)
    (heffect : Effect resolver ⟨s, ⟨m :: ms, pending⟩, [], rules⟩
      ⟨s, ⟨ms, pending.filter (· ≠ m.name)⟩, [], rules⟩) :
    Graded seeds depth level ⟨s, ⟨ms, pending.filter (· ≠ m.name)⟩, [], rules⟩ := by
  refine ⟨h.rules, fun k hk => ⟨heffect.holds (h.seeded k hk).1, (h.seeded k hk).2⟩, h.order,
    h.queue.of_cons, h.recorded, fun k hk => h.waiting k (List.mem_cons_of_mem m hk), h.references,
    fun n hn => h.origin n (hn.imp_right (List.mem_cons_of_mem _)), fun k hk n hn => ?_⟩
  rcases h.covered k hk n hn with hrest | ⟨hheld, hle⟩ | hfailed
  · exact .inl hrest
  · exact .inr (.inl ⟨heffect.holds hheld, hle⟩)
  · exact .inr (.inr hfailed)

end Taking

theorem step (hnamed : LoadsNamed resolver) (horderly : Orderly resolver a)
    (hrecords : a.search.registry.Named) (h : Graded seeds depth level a)
    (hstep : Step resolver a b) : ∃ depth level, Graded seeds depth level b := by
  cases hstep.effect with
  | known hmet => exact ⟨depth, level, h.known hrecords (horderly.holds_of_met hmet)⟩
  | @loaded s q name names rules m hunmet hload =>
    -- The name is not held yet, so that it can still be given its depth.
    have hfree : ¬ Moment.Holds ⟨s, q, name :: names, rules⟩ name := horderly.not_holds hunmet
    have hkept : ∀ n, Moment.Holds ⟨s, q, name :: names, rules⟩ n →
        Function.update depth name (level + 1) n = depth n := by
      intro n hn
      refine Function.update_of_ne ?_ _ _
      rintro rfl
      exact hfree hn
    have hdepth : Function.update depth name (level + 1) name = level + 1 := Function.update_self ..
    exact ⟨_, level, (h.congr hrecords hkept).load hdepth hunmet hload (hnamed _ _ hload)⟩
  | failed _ _ => exact ⟨depth, level, h.fail _ _⟩
  | @recorded s m _ _ _ hnew => exact ⟨depth, depth m.name, h.record hstep.effect hnew⟩
  | skipped _ => exact ⟨depth, level, h.skip hstep.effect⟩
  | discovered _ _ => exact absurd h.rules (List.cons_ne_nil _ _)

end Graded

theorem exists_graded_of_reached (hnamed : LoadsNamed resolver) (h : Reached resolver [] seeds a) :
    ∃ depth level, Graded seeds depth level a := by
  induction h with
  | refl => exact ⟨_, 0, Graded.start seeds⟩
  | tail hreached hstep ih =>
    obtain ⟨depth, level, hgraded⟩ := ih
    exact hgraded.step hnamed (orderly_of_reached hnamed hreached) (named_of_reached hreached) hstep

/-! ## Distances -/

/-- A way as long as the depth leads to every name that is held. -/
theorem Graded.away (h : Graded seeds depth level a) (hrecords : a.search.registry.Named) {n : String}
    (hn : a.Holds n) : Away a.search.registry seeds (depth n) n := by
  induction hdepth : depth n using Nat.strong_induction_on generalizing n with
  | h d ih =>
    rcases h.origin n hn with ⟨m, hm, rfl⟩ | ⟨m, hm, hreference, hstep⟩
    · rw [← hdepth, (h.seeded m hm).2]
      exact .seed hm
    · have hnearer : Away a.search.registry seeds (depth m.name) m.name :=
        ih (depth m.name) (by omega) (holds_of_mem_modules hrecords hm) rfl
      rw [← hdepth, hstep]
      exact .reference hnearer (hrecords.mem_modules.mp hm) hreference

end Moment

/-- In the end a reference that failed leads to no record. -/
theorem contains_eq_false_of_failed {ms seeds : List Record} {rules : List Rule} {a : Moment}
    (h : Reached (.ofTable ms) rules seeds a) (hdone : a.Done)
    (hstaged : a.search.registry.get? = staged ms rules seeds) {m : Record}
    (hm : m ∈ a.search.registry.modules) {n : String} (hn : n ∈ m.references)
    (hfailed : n ∈ a.search.failed) : a.search.registry.contains n = false := by
  have horderly := Moment.orderly_of_reached (loadsNamed_ofTable ms) h
  obtain ⟨hloaded, f, hfails⟩ := horderly.failed n hfailed
  refine (contains_eq_false_iff_of_reference h hdone hstaged hm hn).mpr ⟨?_, ?_⟩
  · rw [Option.eq_none_iff_forall_ne_some]
    intro record hrecord
    rw [← load_ofTable_eq_ok_iff, hfails] at hrecord
    cases hrecord
  · exact List.count_eq_one_of_mem horderly.nodup hloaded

/-- In the end no way to a recorded name is shorter than its depth. -/
theorem depth_le_of_away {r : Registry} {seeds : List Record} {depth : String → Nat}
    (hseeds : ∀ m ∈ seeds, depth m.name = 0)
    (hnear : ∀ m ∈ r.modules, ∀ n ∈ m.references, r.contains n = true → depth n ≤ depth m.name + 1)
    (hrecords : r.Named) {d : Nat} {n : String} (h : Away r seeds d n) (hn : r.contains n = true) :
    depth n ≤ d := by
  induction h with
  | seed hm => rw [hseeds _ hm]
  | @reference d referrer n m _ hm hreference ih =>
    have hreferrer : depth referrer ≤ d := ih (Registry.contains_of_get? hm)
    have hstep := hnear m (Registry.mem_modules_of_get? hm) n hreference hn
    rw [hrecords.name_of_get? hm] at hstep
    omega

/-- Without rules the closure of a table records its modules by their distance: to each of them a
way leads from a seed, along references of recorded modules, and of two modules the one that was
recorded first has no longer a shortest way than the other. -/
theorem closure_breadthFirst (ms seeds : List Record) :
    let found := (closure (.ofTable ms) [] seeds).registry
    (∀ m ∈ found.modules, Away found seeds (distance found seeds m.name) m.name) ∧
    found.modules.Pairwise fun m k => distance found seeds m.name ≤ distance found seeds k.name := by
  intro found
  obtain ⟨last, hlast, hdone, hregistry, -⟩ :=
    closure_reached (loadsNamed_ofTable ms) (bounded_ofTable ms) [] seeds
  have hstaged := closure_staged ms [] seeds
  have hrecords := Moment.named_of_reached hlast
  obtain ⟨depth, level, hgraded⟩ := Moment.exists_graded_of_reached (loadsNamed_ofTable ms) hlast
  have hfound : found = last.search.registry := hregistry
  rw [hfound]
  rw [hregistry] at hstaged
  have hnear : ∀ m ∈ last.search.registry.modules, ∀ n ∈ m.references,
      last.search.registry.contains n = true → depth n ≤ depth m.name + 1 := by
    intro m hm n hn hcontains
    rcases hgraded.covered m hm n hn with ⟨hrest, -⟩ | ⟨-, hle⟩ | hfailed
    · rw [hdone.2.1] at hrest
      exact absurd hrest List.not_mem_nil
    · exact hle
    · rw [contains_eq_false_of_failed hlast hdone hstaged hm hn hfailed] at hcontains
      cases hcontains
  have hleast : ∀ m ∈ last.search.registry.modules,
      IsLeast {d | Away last.search.registry seeds d m.name} (depth m.name) := by
    intro m hm
    have hheld := Moment.holds_of_mem_modules hrecords hm
    refine ⟨hgraded.away hrecords hheld, fun d hd => ?_⟩
    exact depth_le_of_away (fun k hk => (hgraded.seeded k hk).2) hnear hrecords hd
      (hheld.contains hdone)
  have hdistance : ∀ m ∈ last.search.registry.modules,
      distance last.search.registry seeds m.name = depth m.name :=
    fun m hm => (hleast m hm).csInf_eq
  constructor
  · intro m hm
    rw [hdistance m hm]
    exact (hleast m hm).1
  · refine hgraded.order.imp_of_mem fun hm hk hle => ?_
    rw [hdistance _ hm, hdistance _ hk]
    exact hle

end LivePreview.Module
