import LivePreview.Proofs.Exactness
import LivePreview.Proofs.Reports
import LivePreview.Session.Preview

/-!
# The order of the seeds does not count

In which order the seeds of a closure are given decides in which order modules are met, and so which
of them is loaded for whom. Over a table it decides nothing else: the stages of the closure see of the
seeds only the first record of each name. So seeds with distinct names lead to the same records in any
order, and to the same failures, which may come in another order.
-/

namespace LivePreview.Module

open Moment (Reached)

/-! ## Why a name was loaded -/

/-- What is to be followed and what was loaded are references of recorded modules. -/
structure Moment.Referred (a : Moment) : Prop where
  references : ∀ n ∈ a.references, ∃ m ∈ a.search.registry.modules, n ∈ m.references
  loads : ∀ n ∈ a.search.loads, ∃ m ∈ a.search.registry.modules, n ∈ m.references

namespace Moment

variable {resolver : Resolver} {a b : Moment}

theorem Referred.append (h : a.Referred) {name : String} (hname : name ∈ a.references) :
    ∀ n ∈ a.search.loads ++ [name], ∃ m ∈ a.search.registry.modules, n ∈ m.references := by
  intro n hn
  rcases List.mem_append.mp hn with hn | hn
  · exact h.loads n hn
  · rw [List.mem_singleton.mp hn]
    exact h.references name hname

theorem Referred.step (h : a.Referred) (hstep : Step resolver a b) : b.Referred := by
  cases hstep.effect with
  | known _ => exact ⟨fun n hn => h.references n (List.mem_cons_of_mem _ hn), h.loads⟩
  | loaded _ _ =>
    exact ⟨fun n hn => h.references n (List.mem_cons_of_mem _ hn), h.append List.mem_cons_self⟩
  | failed _ _ =>
    exact ⟨fun n hn => h.references n (List.mem_cons_of_mem _ hn), h.append List.mem_cons_self⟩
  | @recorded s m _ _ _ hnew =>
    have hmodules := Registry.modules_add hnew
    constructor
    · intro n hn
      refine ⟨m, ?_, hn⟩
      rw [hmodules]
      exact List.mem_append_right _ List.mem_cons_self
    · intro n hn
      obtain ⟨other, hother, hreference⟩ := h.loads n hn
      refine ⟨other, ?_, hreference⟩
      rw [hmodules]
      exact List.mem_append_left _ hother
  | skipped _ => exact ⟨h.references, h.loads⟩
  | discovered _ hsame =>
    refine ⟨fun n hn => absurd hn List.not_mem_nil, ?_⟩
    rw [hsame.loads, hsame.modules]
    exact h.loads

theorem referred_of_reached {rules : List Rule} {seeds : List Record}
    (h : Reached resolver rules seeds a) : a.Referred := by
  induction h with
  | refl => exact ⟨fun n hn => absurd hn List.not_mem_nil, fun n hn => absurd hn List.not_mem_nil⟩
  | tail _ hstep ih => exact ih.step hstep

end Moment

/-! ## Equal registries -/

section Registries

variable {r s : Registry}

theorem entries_perm_of_get?_eq (h : r.get? = s.get?) : r.records.entries.Perm s.records.entries := by
  have hnodup (t : Registry) : t.records.entries.Nodup := List.Nodup.of_map _ t.records.nodup
  rw [List.perm_ext_iff_of_nodup (hnodup r) (hnodup s)]
  rintro ⟨n, m⟩
  rw [Table.mem_entries_iff, Table.mem_entries_iff]
  exact Eq.congr_left (congrFun h n)

theorem modules_perm_of_get?_eq (h : r.get? = s.get?) : r.modules.Perm s.modules :=
  (entries_perm_of_get?_eq h).map _

/-- Two lists of the same modules that both ascend are one. -/
theorem Ascending.eq_of_perm {ms others : List Record} (h : Ascending ms) (hothers : Ascending others)
    (hperm : ms.Perm others) : ms = others := by
  refine hperm.eq_of_pairwise (fun a b _ _ hab hba => ?_) h hothers
  exact absurd hab (String.lt_asymm hba)

theorem references_eq_of_get?_eq (hr : r.Named) (hs : s.Named) (h : r.get? = s.get?)
    (unlocated : Bool) : r.references unlocated = s.references unlocated := by
  refine (ascending_references hr unlocated).eq_of_perm (ascending_references hs unlocated) ?_
  have hsorted : (sortByName r.modules).Perm (sortByName s.modules) :=
    (perm_sortByName _).trans ((modules_perm_of_get?_eq h).trans (perm_sortByName _).symm)
  exact hsorted.filter _

end Registries

/-! ## Closures of one table -/

section Table

variable {ms : List Record}

/-- A name was loaded in vain exactly where the table has no record for it, it is not recorded, and
a recorded module refers to it. -/
theorem loads_closure_iff (rules : List Rule) (seeds : List Record) {n : String}
    (hunknown : Lookup.byName? ms n = none) :
    n ∈ (closure (.ofTable ms) rules seeds).loads ↔
      (∃ m ∈ (closure (.ofTable ms) rules seeds).registry.modules, n ∈ m.references) ∧
        (closure (.ofTable ms) rules seeds).registry.get? n = none := by
  obtain ⟨last, hlast, hdone, hregistry, hloads⟩ :=
    closure_reached (loadsNamed_ofTable ms) (bounded_ofTable ms) rules seeds
  have hstaged := closure_staged ms rules seeds
  rw [hregistry] at hstaged ⊢
  rw [hloads, ← Registry.contains_eq_false_iff]
  constructor
  · intro hn
    obtain ⟨m, hm, hreference⟩ := (Moment.referred_of_reached hlast).loads n hn
    have honce : last.search.loads.count n = 1 :=
      List.count_eq_one_of_mem (Moment.orderly_of_reached (loadsNamed_ofTable ms) hlast).nodup hn
    exact ⟨⟨m, hm, hreference⟩,
      (contains_eq_false_iff_of_reference hlast hdone hstaged hm hreference).mpr
        ⟨hunknown, honce⟩⟩
  · rintro ⟨⟨m, hm, hreference⟩, hmissing⟩
    obtain ⟨-, honce⟩ :=
      (contains_eq_false_iff_of_reference hlast hdone hstaged hm hreference).mp hmissing
    rw [← List.count_pos_iff, honce]
    exact Nat.one_pos

theorem loadFailure?_ofTable_eq_none_iff {n : String} :
    (Resolver.ofTable ms).loadFailure? n = none ↔ ∃ m, Lookup.byName? ms n = some m := by
  rw [Option.eq_none_iff_forall_ne_some]
  cases hfound : Lookup.byName? ms n with
  | none => simp [Resolver.loadFailure?_eq_some_iff, Resolver.ofTable, hfound]
  | some m => simp [Resolver.loadFailure?_eq_some_iff, Resolver.ofTable, hfound]

theorem filterMap_loads {resolver : Resolver} (loads : List String) :
    loads.filterMap resolver.loadFailure? =
      (loads.filter fun n => (resolver.loadFailure? n).isSome).filterMap resolver.loadFailure? := by
  rw [List.filterMap_filter]
  refine List.filterMap_congr fun n _ => ?_
  cases resolver.loadFailure? n with
  | none => rfl
  | some f => rfl

theorem nodup_loads_closure (ms : List Record) (rules : List Rule) (seeds : List Record) :
    (closure (.ofTable ms) rules seeds).loads.Nodup := by
  obtain ⟨last, hlast, -, -, hloads⟩ :=
    closure_reached (loadsNamed_ofTable ms) (bounded_ofTable ms) rules seeds
  rw [hloads]
  exact (Moment.orderly_of_reached (loadsNamed_ofTable ms) hlast).nodup

/-- Closures that record the same load the same names in vain. -/
theorem loadFailures_perm {rules otherRules : List Rule} {seeds others : List Record}
    (h : (closure (.ofTable ms) rules seeds).registry.get? =
      (closure (.ofTable ms) otherRules others).registry.get?) :
    ((closure (.ofTable ms) rules seeds).loads.filterMap (Resolver.ofTable ms).loadFailure?).Perm
      ((closure (.ofTable ms) otherRules others).loads.filterMap
        (Resolver.ofTable ms).loadFailure?) := by
  rw [filterMap_loads, filterMap_loads (closure (.ofTable ms) otherRules others).loads]
  refine List.Perm.filterMap _ ?_
  rw [List.perm_ext_iff_of_nodup ((nodup_loads_closure ms rules seeds).filter _)
    ((nodup_loads_closure ms otherRules others).filter _)]
  intro n
  rw [List.mem_filter, List.mem_filter]
  refine and_congr_left fun hfails => ?_
  have hunknown : Lookup.byName? ms n = none := by
    rw [Option.isSome_iff_ne_none, ne_eq, loadFailure?_ofTable_eq_none_iff] at hfails
    exact Option.eq_none_iff_forall_ne_some.mpr fun m hm => hfails ⟨m, hm⟩
  rw [loads_closure_iff rules seeds hunknown, loads_closure_iff otherRules others hunknown, h]
  refine and_congr_left fun _ => ?_
  have hmem := fun m => (modules_perm_of_get?_eq h).mem_iff (a := m)
  exact exists_congr fun m => and_congr_left fun _ => hmem m

/-- Rules report the same where the same is recorded. -/
theorem reports_eq_of_get?_eq (rules : List Rule) :
    ∀ s t : Search, s.Settled (.ofTable ms) → t.Settled (.ofTable ms) →
      s.registry.get? = t.registry.get? →
      reports (.ofTable ms) rules s = reports (.ofTable ms) rules t := by
  induction rules with
  | nil => exact fun _ _ _ _ _ => rfl
  | cons rule rules ih =>
    intro s t hs ht h
    obtain ⟨hs', hstage⟩ := applyRule_stage (loadsNamed_ofTable ms) (bounded_ofTable ms) rule hs
    obtain ⟨ht', hother⟩ := applyRule_stage (loadsNamed_ofTable ms) (bounded_ofTable ms) rule ht
    have hnext : (applyRule (.ofTable ms) s rule).registry.get? =
        (applyRule (.ofTable ms) t rule).registry.get? := by
      rw [hstage, hother, firstOf_discover, firstOf_discover, h]
    rw [reports, reports, h, ih _ _ hs' ht' hnext]

/-! ## Seeds in another order -/

/-- Where names are distinct, the first record of a name is the only one. -/
theorem firstOf_eq_some_iff_of_nodup {seeds : List Record} (h : (seeds.map (·.name)).Nodup)
    {n : String} {m : Record} : firstOf seeds n = some m ↔ m ∈ seeds ∧ m.name = n := by
  constructor
  · intro hm
    exact ⟨List.mem_of_find?_eq_some hm, by simpa using List.find?_some hm⟩
  · rintro ⟨hmem, rfl⟩
    have hsome : (firstOf seeds m.name).isSome := isSome_firstOf.mpr (List.mem_map_of_mem hmem)
    obtain ⟨first, hfirst⟩ := Option.isSome_iff_exists.mp hsome
    have hname : first.name = m.name := by simpa using List.find?_some hfirst
    rw [hfirst, List.inj_on_of_nodup_map h (List.mem_of_find?_eq_some hfirst) hmem hname]

theorem firstOf_eq_of_perm {seeds others : List Record} (hperm : seeds.Perm others)
    (hdistinct : (seeds.map (·.name)).Nodup) : firstOf seeds = firstOf others := by
  have hothers : (others.map (·.name)).Nodup := (hperm.map _).nodup_iff.mp hdistinct
  funext n
  apply Option.ext
  intro m
  rw [firstOf_eq_some_iff_of_nodup hdistinct, firstOf_eq_some_iff_of_nodup hothers,
    hperm.mem_iff]

theorem get?_closure_of_perm {seeds others : List Record} (rules : List Rule)
    (hperm : seeds.Perm others) (hdistinct : (seeds.map (·.name)).Nodup) :
    (closure (.ofTable ms) rules seeds).registry.get? =
      (closure (.ofTable ms) rules others).registry.get? := by
  rw [closure_staged, closure_staged, staged, staged, firstOf_eq_of_perm hperm hdistinct]

theorem failures_closure_of_perm {seeds others : List Record} (rules : List Rule)
    (hperm : seeds.Perm others) (hdistinct : (seeds.map (·.name)).Nodup) :
    (closure (.ofTable ms) rules seeds).registry.failures.Perm
      (closure (.ofTable ms) rules others).registry.failures := by
  have hstart (given : List Record) := traverse_stage (loadsNamed_ofTable ms) (bounded_ofTable ms)
    (Moment.orderly_start (.ofTable ms) [] given)
  obtain ⟨hsettled, hseeds⟩ := hstart seeds
  obtain ⟨hother, hothers⟩ := hstart others
  have hfirst : (traverse (.ofTable ms) .start seeds).registry.get? =
      (traverse (.ofTable ms) .start others).registry.get? := by
    rw [hseeds, hothers, firstOf_eq_of_perm hperm hdistinct]
  have hreports := reports_eq_of_get?_eq rules _ _ hsettled hother hfirst
  have hrecords : (closure (.ofTable ms) rules seeds).registry.get? =
      (closure (.ofTable ms) rules others).registry.get? := get?_closure_of_perm rules hperm hdistinct
  have hloads := loadFailures_perm hrecords
  refine (failures_closure (.ofTable ms) rules seeds).trans ?_
  rw [hreports]
  exact (hloads.append_right _).trans (failures_closure (.ofTable ms) rules others).symm

/-- Seeds with distinct names lead in any order to the same records under the same names, to the same
modules that can be referred to, and to the same failures up to their order. So a session that starts
from them has the same context. -/
theorem closure_of_perm_seeds (ms : List Record) (rules : List Rule) {seeds others : List Record}
    (hperm : seeds.Perm others) (hdistinct : (seeds.map (·.name)).Nodup) :
    let found := (closure (.ofTable ms) rules seeds).registry
    let again := (closure (.ofTable ms) rules others).registry
    found.records.entries.Perm again.records.entries ∧
    (∀ unlocated, found.references unlocated = again.references unlocated) ∧
    found.failures.Perm again.failures ∧
    ∀ (engine : Session.Engine) (config : Session.Config) (run : Component.Runner),
      config.rules = rules →
        (Session.start engine (.ofTable ms) config seeds run).2.context =
          (Session.start engine (.ofTable ms) config others run).2.context := by
  intro found again
  have hget : found.get? = again.get? := get?_closure_of_perm rules hperm hdistinct
  have hreferences (unlocated : Bool) : found.references unlocated = again.references unlocated :=
    references_eq_of_get?_eq (named_closure _ rules seeds) (named_closure _ rules others) hget
      unlocated
  refine ⟨entries_perm_of_get?_eq hget, hreferences,
    failures_closure_of_perm rules hperm hdistinct, ?_⟩
  rintro engine config run rfl
  have hbase := hreferences config.unlocated
  exact congrArg (fun external => Component.Context.new external config.aggregateName run) hbase

/-- Two seeds that are recorded, and fail, in the order in which they are given. -/
theorem closure_of_swapped_seeds :
    let app : Record := { name := "app", references := ["gone", "util"] }
    let tool : Record := { name := "tool", references := ["lost", "util"] }
    let ms : List Record := [{ name := "util", references := ["gone"] }]
    let rules : List Rule := [⟨"near", "nowhere", .parent⟩]
    let found := (closure (.ofTable ms) rules [app, tool]).registry
    let again := (closure (.ofTable ms) rules [tool, app]).registry
    [app, tool].Perm [tool, app] ∧ ([app, tool].map (·.name)).Nodup ∧
    found.modules ≠ again.modules ∧ found.records.entries.Perm again.records.entries ∧
    found.references true = again.references true ∧
    found.failures ≠ again.failures ∧ found.failures.Perm again.failures ∧
    (Session.start Session.templateEngine (.ofTable ms) { rules } [app, tool]).2.context =
      (Session.start Session.templateEngine (.ofTable ms) { rules } [tool, app]).2.context := by
  intro app tool ms rules found again
  have hperm : [app, tool].Perm [tool, app] := List.Perm.swap tool app []
  have hdistinct : ([app, tool].map (·.name)).Nodup := by decide
  obtain ⟨hentries, hreferences, hfailures, hcontext⟩ :=
    closure_of_perm_seeds ms rules hperm hdistinct
  refine ⟨hperm, hdistinct, by decide +kernel, hentries, hreferences true, by decide +kernel,
    hfailures, hcontext _ { rules } _ rfl⟩

end Table

end LivePreview.Module
