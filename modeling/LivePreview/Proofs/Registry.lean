import LivePreview.Module.Closure

/-!
# The registry of a closure

A traversal records modules and follows references, and does nothing else: what both keep of a search
holds when it is done. The registry it touches in two ways only, by a record or by a failure, and what
these keep holds of every registry that a closure leaves behind. One such fact is that a record stands
under its own name, so that the modules which can be referred to are strictly ascending. Which modules
are found is not the subject here.
-/

namespace LivePreview.Module

/-! ## Traversals -/

/-- A property of a search that recording a module and following a reference keep. -/
structure Search.Kept (resolver : Resolver) (P : Search → Prop) : Prop where
  add : ∀ s m, P s → P { s with registry := s.registry.add m }
  follow : ∀ s q name, P s → P (followReference resolver (s, q) name).1

namespace Search.Kept

variable {resolver : Resolver} {P : Search → Prop}

theorem followAll (hP : Kept resolver P) (names : List String) :
    ∀ state : Search × Queue, P state.1 → P (names.foldl (followReference resolver) state).1 := by
  induction names with
  | nil => exact fun _ h => h
  | cons name names ih => exact fun state h => ih _ (hP.follow state.1 state.2 name h)

theorem visit (hP : Kept resolver P) {s : Search} (m : Record) (rest : Queue) (h : P s) :
    P (visit resolver s m rest).1 := by
  unfold Module.visit
  extract_lets rest
  split
  · exact h
  · exact hP.followAll _ _ (hP.add _ _ h)

theorem drain (hP : Kept resolver P) (rounds : Nat) :
    ∀ (s : Search) (q : Queue), P s → P (drain resolver rounds s q) := by
  induction rounds with
  | zero => exact fun _ _ h => h
  | succ rounds ih =>
    intro s q h
    rw [Module.drain]
    split
    · exact h
    · next m ms _ => exact ih _ _ (hP.visit m _ h)

theorem traverse (hP : Kept resolver P) {s : Search} (ms : List Record) (h : P s) :
    P (traverse resolver s ms) := hP.drain _ s (.ofList ms) h

end Search.Kept

/-! ## Registries -/

/-- A property that no step of a traversal can break. -/
structure Registry.Kept (P : Registry → Prop) : Prop where
  add : ∀ r m, P r → P (r.add m)
  recordFailure : ∀ r f, P r → P (r.recordFailure f)

section Registries

variable {P : Registry → Prop} (hP : Registry.Kept P) (resolver : Resolver)

include hP

theorem followReference_keeps (state : Search × Queue) (name : String) (h : P state.1.registry) :
    P (followReference resolver state name).1.registry := by
  obtain ⟨s, q⟩ := state
  rw [followReference]
  split
  · exact h
  · extract_lets loaded
    split
    · exact h
    · exact hP.recordFailure _ _ h

theorem Registry.Kept.search : Search.Kept resolver fun s => P s.registry where
  add s m := hP.add s.registry m
  follow s q name := followReference_keeps hP resolver (s, q) name

theorem inspectFiles_keeps (files : List Location) :
    ∀ (s : Search) (found : List Record), P s.registry →
      P (inspectFiles resolver s found files).1.registry := by
  induction files with
  | nil => exact fun _ _ h => h
  | cons l ls ih =>
    intro s found h
    rw [inspectFiles]
    split
    · exact ih _ _ (hP.recordFailure _ _ h)
    · split
      · exact ih _ _ h
      · exact ih _ _ h

theorem discover_keeps {s : Search} (rule : Rule) (h : P s.registry) :
    P (discover resolver s rule).1.registry := by
  unfold discover
  split
  · exact hP.recordFailure _ _ h
  · exact hP.recordFailure _ _ h
  · extract_lets directory
    split
    · exact hP.recordFailure _ _ h
    · exact inspectFiles_keeps hP resolver _ _ _ h

theorem applyRules_keeps (rules : List Rule) :
    ∀ s : Search, P s.registry → P (rules.foldl (applyRule resolver) s).registry := by
  induction rules with
  | nil => exact fun _ h => h
  | cons rule rules ih =>
    intro s h
    exact ih _ ((hP.search resolver).traverse _ (discover_keeps hP resolver rule h))

/-- What adding records and failures keeps holds when a closure is done. -/
theorem closure_keeps (hempty : P .empty) (rules : List Rule) (seeds : List Record) :
    P (closure resolver rules seeds).registry :=
  applyRules_keeps hP resolver rules _ ((hP.search resolver).traverse seeds hempty)

end Registries

/-! ## Records under their own names -/

/-- Every record stands under its own name. -/
def Registry.Named (r : Registry) : Prop := ∀ e ∈ r.records.entries, e.2.name = e.1

theorem kept_named : Registry.Kept Registry.Named where
  add r m h := by
    unfold Registry.add
    split
    · exact h
    · next hnew =>
      have hfresh : m.name ∉ r.records.keys := by
        simpa [Table.contains] using hnew
      intro e he
      rw [Table.entries_insert_of_not_mem hfresh, List.mem_append, List.mem_singleton] at he
      rcases he with he | rfl
      · exact h e he
      · rfl
  recordFailure _ _ h := h

theorem named_closure (resolver : Resolver) (rules : List Rule) (seeds : List Record) :
    (closure resolver rules seeds).registry.Named :=
  closure_keeps kept_named resolver (fun _ he => absurd he List.not_mem_nil) rules seeds

theorem Registry.Named.nodup_names {r : Registry} (h : r.Named) :
    (r.modules.map (·.name)).Nodup := by
  have hkeys : r.modules.map (·.name) = r.records.keys := by
    rw [Registry.modules, Table.values, List.map_map, Table.keys]
    exact List.map_congr_left h
  rw [hkeys]
  exact r.records.nodup

/-! ## Ascending modules -/

/-- Strictly ascending by name. -/
def Ascending (ms : List Record) : Prop := ms.Pairwise fun a b => a.name < b.name

theorem perm_sortByName (ms : List Record) : (sortByName ms).Perm ms := List.mergeSort_perm ms _

/-- Sorting by distinct names leaves strictly ascending names. -/
theorem pairwise_mergeSort_of_nodup {α : Type} (name : α → String) {xs : List α}
    (h : (xs.map name).Nodup) :
    (xs.mergeSort fun a b => !decide (name b < name a)).Pairwise fun a b => name a < name b := by
  have hsorted : (xs.mergeSort fun a b => !decide (name b < name a)).Pairwise fun a b =>
      !decide (name b < name a) := by
    refine List.pairwise_mergeSort (fun a b c hab hbc => ?_) (fun a b => ?_) xs
    · simp only [Bool.not_eq_true', decide_eq_false_iff_not, String.not_lt] at hab hbc ⊢
      exact String.le_trans hab hbc
    · simp only [Bool.or_eq_true, Bool.not_eq_true', decide_eq_false_iff_not, String.not_lt]
      exact String.le_total (name a) (name b)
  have hnames : ((xs.mergeSort fun a b => !decide (name b < name a)).map name).Nodup :=
    ((List.mergeSort_perm xs _).map name).nodup_iff.mpr h
  have hdistinct : (xs.mergeSort fun a b => !decide (name b < name a)).Pairwise fun a b =>
      name a ≠ name b := List.pairwise_map.mp hnames
  refine hsorted.imp₂ (fun a b hab hne => ?_) hdistinct
  simp only [Bool.not_eq_true', decide_eq_false_iff_not, String.not_lt] at hab
  exact String.not_le.mp fun hba => hne (String.le_antisymm hab hba)

theorem ascending_sortByName {ms : List Record} (h : (ms.map (·.name)).Nodup) :
    Ascending (sortByName ms) := pairwise_mergeSort_of_nodup Record.name h

theorem nodup_eraseDups {α : Type} [BEq α] [LawfulBEq α] : ∀ xs : List α, xs.eraseDups.Nodup
  | [] => List.nodup_nil
  | x :: xs => by
    rw [List.eraseDups_cons, List.nodup_cons, List.mem_eraseDups, List.mem_filter]
    exact ⟨fun h => by simp at h, nodup_eraseDups _⟩
termination_by xs => xs.length
decreasing_by exact Nat.lt_succ_of_le (List.length_filter_le _ _)

theorem pairwise_sortNames {names : List String} (h : names.Nodup) :
    (sortNames names).Pairwise (· < ·) := pairwise_mergeSort_of_nodup id (by rwa [List.map_id])

theorem Ascending.filter {ms : List Record} (h : Ascending ms) (p : Record → Bool) :
    Ascending (ms.filter p) := List.Pairwise.filter p h

/-- An ascending list has no name twice. -/
theorem Ascending.nodup_names {ms : List Record} (h : Ascending ms) :
    (ms.map (·.name)).Nodup :=
  List.pairwise_map.mpr (h.imp fun hlt => String.ne_of_lt hlt)

theorem ascending_references {r : Registry} (h : r.Named) (unlocated : Bool) :
    Ascending (r.references unlocated) :=
  (ascending_sortByName h.nodup_names).filter _

theorem synthetic_of_mem_references {r : Registry} {unlocated : Bool} {m : Record}
    (h : m ∈ r.references unlocated) : m.synthetic = false := by
  have hkept := (List.mem_filter.mp h).2
  cases unlocated with
  | true => simpa using hkept
  | false =>
    simp only [Record.referenceable, Bool.false_eq_true, if_false, Bool.and_eq_true,
      Bool.not_eq_true'] at hkept
    exact hkept.2

end LivePreview.Module
