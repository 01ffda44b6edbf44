import LivePreview.Proofs.Stage
import Mathlib.Data.List.Nodup

/-!
# The closure of a table is exact

What a rule finds in a table is the family of its directory, as far as the names are new. With the
stages of the traversals that makes the whole closure: it comes to an end, and what it has recorded
then is what the stages say. A reference of a recorded module is missing only where the table has no
record of its name, and then it was loaded once.
-/

namespace LivePreview.Module

open Moment (Reached)

/-! ## Families -/

/-- A family has, under a name, the last record of the first location in the directory whose last
record has this name. -/
theorem family_eq_some_iff {ms : List Record} {directory : Location} {n : String} {m : Record} :
    family ms directory n = some m ↔ m.name = n ∧ ∃ l, l.parent = directory ∧
      Lookup.byLocation? ms l = some m ∧ ∀ k, k.parent = directory → ∀ other,
        Lookup.byLocation? ms k = some other → other.name = n → k.lt l = false := by
  have hnamed (l : Location) :
      (Lookup.byLocation? ms l).any (fun m => decide (m.name = n)) = true ↔
        ∃ m, Lookup.byLocation? ms l = some m ∧ m.name = n := by
    simp [Option.any_eq_true]
  rw [family, firstOf, List.find?_filterMap, Option.bind_eq_some_iff]
  constructor
  · rintro ⟨l, hl, hm⟩
    obtain ⟨hmem, hown, hfirst⟩ := Lookup.find?_inDirectory_eq_some_iff.mp hl
    obtain ⟨record, hrecord, hname⟩ := (hnamed l).mp hown
    rw [hm] at hrecord
    cases hrecord
    refine ⟨hname, l, Lookup.parent_of_mem_inDirectory hmem, hm, ?_⟩
    intro k hk other hother hothername
    exact hfirst k (Lookup.mem_inDirectory hother hk) ((hnamed k).mpr ⟨other, hother, hothername⟩)
  · rintro ⟨hname, l, hparent, hm, hfirst⟩
    refine ⟨l, Lookup.find?_inDirectory_eq_some_iff.mpr ⟨?_, ?_, ?_⟩, hm⟩
    · exact Lookup.mem_inDirectory hm hparent
    · exact (hnamed l).mpr ⟨m, hm, hname⟩
    · intro k hk hown
      obtain ⟨other, hother, hothername⟩ := (hnamed k).mp hown
      exact hfirst k (Lookup.parent_of_mem_inDirectory hk) other hother hothername

/-! ## Discoveries -/

section Discovery

variable {ms : List Record}

/-- Of the records at some locations, those that come first under a name that is new. -/
def freshFirst (ms : List Record) (known : Recorded) (files : List Location) : Recorded := fun n =>
  if (known n).isSome then none else firstOf (files.filterMap (Lookup.byLocation? ms)) n

variable {known : Recorded} {l : Location} {m : Record} {n : String} {ls : List Location}

theorem freshFirst_of_missing (h : Lookup.byLocation? ms l = none) :
    freshFirst ms known (l :: ls) = freshFirst ms known ls := by
  funext n
  rw [freshFirst, freshFirst, List.filterMap_cons_none h]

theorem freshFirst_of_ne (h : Lookup.byLocation? ms l = some m) (hne : m.name ≠ n) :
    freshFirst ms known (l :: ls) n = freshFirst ms known ls n := by
  rw [freshFirst, freshFirst, List.filterMap_cons_some h, firstOf_cons_of_ne hne]

theorem freshFirst_of_known (h : (known n).isSome) : freshFirst ms known ls n = none := if_pos h

theorem freshFirst_of_new (h : Lookup.byLocation? ms l = some m) (hnew : known m.name = none) :
    freshFirst ms known (l :: ls) m.name = some m := by
  rw [freshFirst, hnew, List.filterMap_cons_some h, firstOf_cons_self]
  rfl

/-- Of the files of a table the first record of each new name is found. -/
theorem firstOf_inspectFiles (ms : List Record) (n : String) (files : List Location) :
    ∀ (s : Search) (found : List Record),
      firstOf (inspectFiles (.ofTable ms) s found files).2 n =
        (firstOf found n).or (freshFirst ms s.registry.get? files n) := by
  induction files with
  | nil =>
    intro s found
    simp [inspectFiles, freshFirst, firstOf]
  | cons l ls ih =>
    intro s found
    rw [inspectFiles]
    split
    · next f hfails =>
      have hmissing : Lookup.byLocation? ms l = none := by
        rw [Option.eq_none_iff_forall_ne_some]
        intro m hm
        rw [← inspect_ofTable_eq_ok_iff, hfails] at hm
        cases hm
      rw [freshFirst_of_missing hmissing]
      exact ih _ found
    · next m hinspect =>
      have hm : Lookup.byLocation? ms l = some m := inspect_ofTable_eq_ok_iff.mp hinspect
      split
      · next hmet =>
        rw [ih s found]
        by_cases hname : m.name = n
        · subst hname
          rw [Bool.or_eq_true, Registry.contains_eq_isSome] at hmet
          rcases hmet with hknown | hfound
          · rw [freshFirst_of_known hknown, freshFirst_of_known hknown]
          · have hsome : (firstOf found m.name).isSome := by
              rw [firstOf, List.find?_isSome]
              simpa using hfound
            rw [Option.or_of_isSome hsome, Option.or_of_isSome hsome]
        · rw [freshFirst_of_ne hm hname]
      · next hnew =>
        rw [ih s (found ++ [m]), firstOf_append, Option.or_assoc]
        by_cases hname : m.name = n
        · subst hname
          rw [Bool.or_eq_true, not_or, Registry.contains_eq_isSome, Option.not_isSome_iff_eq_none]
            at hnew
          rw [freshFirst_of_new hm hnew.1, firstOf_cons_self, Option.some_or]
        · rw [freshFirst_of_ne hm hname, firstOf_cons_of_ne hname]
          rfl

theorem firstOf_discover (ms : List Record) (s : Search) (rule : Rule) :
    firstOf (discover (.ofTable ms) s rule).2 = offeredBy ms rule s.registry.get? := by
  funext n
  rw [offeredBy, discover]
  cases hanchor : s.registry.get? rule.anchor with
  | none => simp [firstOf]
  | some anchor =>
    cases hlocation : anchor.location with
    | none => simp [hlocation, firstOf]
    | some location =>
      simp only [Option.map_some, Option.bind_some, hlocation]
      cases hlist : (Resolver.ofTable ms).list (rule.sibling.directory location) with
      | error fault =>
        rw [family, (list_ofTable_eq_error_iff.mp hlist).1]
        simp [firstOf]
      | ok files =>
        rw [family, ← (list_ofTable_eq_ok_iff.mp hlist).1]
        exact firstOf_inspectFiles ms n files s []

end Discovery

/-! ## The closure -/

section Table

variable (ms : List Record)

theorem loaded_ofTable : (Resolver.ofTable ms).loaded = Lookup.byName? ms := by
  funext n
  apply Option.ext
  intro m
  rw [Resolver.loaded_eq_some_iff, load_ofTable_eq_ok_iff]

theorem applyRules_staged (rules : List Rule) :
    ∀ s : Search, s.Settled (.ofTable ms) →
      (rules.foldl (applyRule (.ofTable ms)) s).registry.get? =
        rules.foldl (fun known rule => stage (Lookup.byName? ms) known (offeredBy ms rule known))
          s.registry.get? := by
  induction rules with
  | nil => exact fun _ _ => rfl
  | cons rule rules ih =>
    intro s h
    obtain ⟨hsettled, hstage⟩ :=
      applyRule_stage (loadsNamed_ofTable ms) (bounded_ofTable ms) rule h
    rw [List.foldl_cons, List.foldl_cons, ih _ hsettled, hstage, loaded_ofTable, firstOf_discover]

theorem closure_staged (rules : List Rule) (seeds : List Record) :
    (closure (.ofTable ms) rules seeds).registry.get? = staged ms rules seeds := by
  obtain ⟨hsettled, hseeds⟩ := traverse_stage (loadsNamed_ofTable ms) (bounded_ofTable ms)
    (Moment.orderly_start (.ofTable ms) [] seeds)
  have hempty : Search.start.registry.get? = fun _ => none := rfl
  have hclosure : (closure (.ofTable ms) rules seeds).registry =
      (rules.foldl (applyRule (.ofTable ms)) (traverse (.ofTable ms) .start seeds)).registry := rfl
  rw [hclosure, applyRules_staged ms rules _ hsettled, hseeds, loaded_ofTable, hempty, staged]

/-! ### Missing references -/

variable {ms}

theorem stage_origin {load known offered : Recorded} {n : String} {m : Record}
    (h : stage load known offered n = some m) :
    known n = some m ∨ offered n = some m ∨ load n = some m := by
  obtain ⟨-, hstands⟩ := stage_eq_some_iff.mp h
  rw [standing, Option.or_eq_some_iff, Option.or_eq_some_iff] at hstands
  rcases hstands with hknown | ⟨-, hoffered | ⟨-, hload⟩⟩
  · exact .inl hknown
  · exact .inr (.inl hoffered)
  · exact .inr (.inr hload)

theorem offeredBy_origin {rule : Rule} {known : Recorded} {n : String} {m : Record}
    (h : offeredBy ms rule known n = some m) : m ∈ ms := by
  rw [offeredBy] at h
  split at h
  · cases h
  · obtain ⟨l, -, hfamily⟩ := Option.bind_eq_some_iff.mp h
    obtain ⟨-, k, -, hm, -⟩ := family_eq_some_iff.mp hfamily
    exact Lookup.mem_of_byLocation? hm

/-- Nothing is recorded but seeds and records of the table. -/
theorem staged_origin {rules : List Rule} {seeds : List Record} {n : String} {m : Record}
    (h : staged ms rules seeds n = some m) : m ∈ seeds ∨ m ∈ ms := by
  rw [staged] at h
  refine List.foldlRecOn (motive := fun recorded : Recorded =>
    ∀ n m, recorded n = some m → m ∈ seeds ∨ m ∈ ms) rules _ ?_ ?_ n m h
  · intro n m hm
    rcases stage_origin hm with hnone | hseed | hload
    · cases hnone
    · exact .inl (List.mem_of_find?_eq_some hseed)
    · exact .inr (Lookup.mem_of_byName? hload)
  · intro known hknown rule _ n m hm
    rcases stage_origin hm with hrecorded | hfound | hload
    · exact hknown n m hrecorded
    · exact .inr (offeredBy_origin hfound)
    · exact .inr (Lookup.mem_of_byName? hload)

/-- At the end a reference of a recorded module is missing exactly where the table has no record for
it and it was loaded, in vain, once. -/
theorem contains_eq_false_iff_of_reference {rules : List Rule} {seeds : List Record} {a : Moment}
    (h : Reached (.ofTable ms) rules seeds a) (hdone : a.Done)
    (hstaged : a.search.registry.get? = staged ms rules seeds) {m : Record}
    (hm : m ∈ a.search.registry.modules) {n : String} (hn : n ∈ m.references) :
    a.search.registry.contains n = false ↔
      Lookup.byName? ms n = none ∧ a.search.loads.count n = 1 := by
  have horderly := Moment.orderly_of_reached (loadsNamed_ofTable ms) h
  have hdisciplined := disciplined_of_reached (loadsNamed_ofTable ms) h
  constructor
  · intro hmissing
    rw [← Bool.not_eq_true] at hmissing
    rcases horderly.covered m hm n hn with hrest | hheld | hfailed
    · rw [hdone.2.1] at hrest
      exact absurd hrest List.not_mem_nil
    · exact absurd (hheld.contains hdone) hmissing
    · obtain ⟨hloaded, f, hfails⟩ := horderly.failed n hfailed
      refine ⟨?_, List.count_eq_one_of_mem horderly.nodup hloaded⟩
      rw [Option.eq_none_iff_forall_ne_some]
      intro record hrecord
      rw [← load_ofTable_eq_ok_iff, hfails] at hrecord
      cases hrecord
  · rintro ⟨hunknown, honce⟩
    rw [Registry.contains_eq_false_iff, Option.eq_none_iff_forall_ne_some]
    intro record hrecord
    have hname : record.name = n := (Moment.named_of_reached h).name_of_get? hrecord
    have hloaded : n ∈ a.search.loads := by
      rw [← List.count_pos_iff, honce]
      exact Nat.one_pos
    rw [hstaged] at hrecord
    rcases staged_origin hrecord with hseed | htable
    · -- What a seed has is never loaded, not even in vain.
      rw [← hname] at hloaded
      exact hdisciplined.seeds record hseed hloaded
    · obtain ⟨other, hother⟩ := Lookup.exists_byName? htable
      rw [hname, hunknown] at hother
      cases hother

/-- The closure of a table comes to an end. What it has recorded then is what the stages say, with
families as their locations and records make them. A reference of a recorded module is missing
exactly where the table has no record for it, and then it was loaded once. -/
theorem closure_exact (ms : List Record) (rules : List Rule) (seeds : List Record) :
    let found := closure (.ofTable ms) rules seeds
    Moment.Ends (.ofTable ms) (.start rules seeds) ∧
    (∃ last, Reached (.ofTable ms) rules seeds last ∧ last.Done ∧
      found.registry = last.search.registry ∧ found.loads = last.search.loads) ∧
    (∀ m, m ∈ found.registry.modules ↔ found.registry.get? m.name = some m) ∧
    found.registry.get? = staged ms rules seeds ∧
    (∀ directory n m, family ms directory n = some m ↔
      m.name = n ∧ ∃ l, l.parent = directory ∧ Lookup.byLocation? ms l = some m ∧
        ∀ k, k.parent = directory → ∀ other, Lookup.byLocation? ms k = some other →
          other.name = n → k.lt l = false) ∧
    ∀ m ∈ found.registry.modules, ∀ n ∈ m.references, found.registry.contains n = false ↔
      Lookup.byName? ms n = none ∧ found.loads.count n = 1 := by
  obtain ⟨last, hlast, hdone, hregistry, hloads⟩ :=
    closure_reached (loadsNamed_ofTable ms) (bounded_ofTable ms) rules seeds
  have hstaged := closure_staged ms rules seeds
  intro found
  refine ⟨Moment.ends_of_later hlast hdone, ⟨last, hlast, hdone, hregistry, hloads⟩, ?_, hstaged,
    fun directory n m => family_eq_some_iff, ?_⟩
  · exact fun m => (named_closure (.ofTable ms) rules seeds).mem_modules
  · intro m hm n hn
    rw [hregistry] at hstaged hm ⊢
    rw [hloads]
    exact contains_eq_false_iff_of_reference hlast hdone hstaged hm hn

end Table

end LivePreview.Module
