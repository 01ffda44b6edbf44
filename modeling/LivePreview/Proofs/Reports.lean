import LivePreview.Module.Stage
import LivePreview.Proofs.Loading

/-!
# What a closure reports

The failures that a closure leaves behind are those of the names that were loaded in vain, one for
each, and those that its rules meet: an anchor that is missing or has no file, a directory that cannot
be listed, and every file that cannot be read. Nothing else is reported, and nothing of that is left
out. In which order the two kinds come is left open.
-/

namespace LivePreview.Module

/-! ## What can go wrong -/

def Resolver.loadFailure? (resolver : Resolver) (n : String) : Option Failure :=
  match resolver.load n with
  | .ok _ => none
  | .error f => some f

def Resolver.inspectFailure? (resolver : Resolver) (l : Location) : Option Failure :=
  match resolver.inspect l with
  | .ok _ => none
  | .error f => some f

/-- What a rule reports where these records are known. -/
def reported (resolver : Resolver) (known : Recorded) (rule : Rule) : List Failure :=
  match (known rule.anchor).map (·.location) with
  | none => [.anchorMissing rule.family rule.anchor "not loaded"]
  | some none => [.anchorMissing rule.family rule.anchor "not file-backed"]
  | some (some location) =>
    let directory := rule.sibling.directory location
    match resolver.list directory with
    | .error fault =>
      [.moduleLoad rule.family ("cannot list " ++ directory.text ++ ": " ++ fault.text) none]
    | .ok files => files.filterMap resolver.inspectFailure?

/-- What the rules report, one after another. -/
def reports (resolver : Resolver) : List Rule → Search → List Failure
  | [], _ => []
  | rule :: rules, s =>
    reported resolver s.registry.get? rule ++ reports resolver rules (applyRule resolver s rule)

variable {resolver : Resolver}

theorem Resolver.loadFailure?_eq_some_iff {n : String} {f : Failure} :
    resolver.loadFailure? n = some f ↔ resolver.load n = .error f := by
  rw [loadFailure?]
  cases resolver.load n with
  | ok m => simp
  | error g => simp

theorem Resolver.inspectFailure?_eq_some_iff {l : Location} {f : Failure} :
    resolver.inspectFailure? l = some f ↔ resolver.inspect l = .error f := by
  rw [inspectFailure?]
  cases resolver.inspect l with
  | ok m => simp
  | error g => simp

/-! ## References -/

/-- Beside the failures of the names that were loaded in vain there are these. -/
def Search.Reports (resolver : Resolver) (others : List Failure) (s : Search) : Prop :=
  s.registry.failures.Perm (s.loads.filterMap resolver.loadFailure? ++ others)

theorem failures_add (r : Registry) (m : Record) : (r.add m).failures = r.failures := by
  unfold Registry.add
  split
  · rfl
  · rfl

theorem kept_reports (resolver : Resolver) (others : List Failure) :
    Search.Kept resolver (Search.Reports resolver others) where
  add s m h := by
    change (s.registry.add m).failures.Perm _
    rw [failures_add]
    exact h
  follow s q name h := by
    have heffect := Moment.effect_follow resolver s q name [] []
    generalize (followReference resolver (s, q) name).1 = t at heffect ⊢
    generalize (followReference resolver (s, q) name).2 = p at heffect
    cases heffect with
    | known _ => exact h
    | @loaded _ _ _ _ _ m hunmet hload =>
      have hnone : resolver.loadFailure? name = none := by
        rw [Resolver.loadFailure?, hload]
      simp only [Search.Reports] at h ⊢
      rw [List.filterMap_append, List.filterMap_cons_none hnone]
      simpa using h
    | @failed _ _ _ _ _ f _ hunmet hload =>
      have hsome := Resolver.loadFailure?_eq_some_iff.mpr hload
      simp only [Search.Reports] at h ⊢
      rw [List.filterMap_append, List.filterMap_cons_some hsome, List.filterMap_nil,
        List.append_assoc]
      -- The new failure comes last in one list, and before the others in the other one.
      exact (h.append_right [f]).trans (by
        rw [List.append_assoc]
        exact List.perm_append_comm.append_left _)

/-! ## Rules -/

theorem failures_inspectFiles (files : List Location) :
    ∀ (s : Search) (found : List Record),
      (inspectFiles resolver s found files).1.registry.failures =
        s.registry.failures ++ files.filterMap resolver.inspectFailure? := by
  induction files with
  | nil => exact fun s _ => (List.append_nil _).symm
  | cons l ls ih =>
    intro s found
    rw [inspectFiles]
    split
    · next f hinspect =>
      rw [ih, List.filterMap_cons_some (Resolver.inspectFailure?_eq_some_iff.mpr hinspect)]
      exact List.append_assoc s.registry.failures [f] _
    · next m hinspect =>
      have hnone : resolver.inspectFailure? l = none := by
        rw [Resolver.inspectFailure?, hinspect]
      rw [List.filterMap_cons_none hnone]
      split
      · exact ih s found
      · exact ih s _

theorem failures_discover (resolver : Resolver) (s : Search) (rule : Rule) :
    (discover resolver s rule).1.registry.failures =
      s.registry.failures ++ reported resolver s.registry.get? rule := by
  rw [discover, reported]
  cases (s.registry.get? rule.anchor).map (·.location) with
  | none => rfl
  | some location =>
    cases location with
    | none => rfl
    | some location =>
      simp only
      cases resolver.list (rule.sibling.directory location) with
      | error fault => rfl
      | ok files => exact failures_inspectFiles files s []

theorem reports_discover {others : List Failure} {s : Search} (rule : Rule)
    (h : s.Reports resolver others) : (discover resolver s rule).1.Reports resolver
      (others ++ reported resolver s.registry.get? rule) := by
  have hloads := (discover_sameRecords resolver s rule).loads
  simp only [Search.Reports] at h ⊢
  rw [failures_discover, hloads, ← List.append_assoc]
  exact h.append_right _

theorem reports_applyRules (rules : List Rule) :
    ∀ (s : Search) (others : List Failure), s.Reports resolver others →
      (rules.foldl (applyRule resolver) s).Reports resolver
        (others ++ reports resolver rules s) := by
  induction rules with
  | nil =>
    intro s others h
    rw [reports, List.append_nil]
    exact h
  | cons rule rules ih =>
    intro s others h
    have hrule : (applyRule resolver s rule).Reports resolver
        (others ++ reported resolver s.registry.get? rule) :=
      (kept_reports resolver _).traverse _ (reports_discover rule h)
    rw [List.foldl_cons, reports, ← List.append_assoc]
    exact ih _ _ hrule

/-! ## Closures -/

/-- The failures of a closure are those of the names that were loaded in vain, and what its rules
report. -/
theorem failures_closure (resolver : Resolver) (rules : List Rule) (seeds : List Record) :
    (closure resolver rules seeds).registry.failures.Perm
      ((closure resolver rules seeds).loads.filterMap resolver.loadFailure? ++
        reports resolver rules (traverse resolver .start seeds)) := by
  have hstart : Search.start.Reports resolver [] := List.Perm.refl []
  exact reports_applyRules rules _ [] ((kept_reports resolver []).traverse seeds hstart)

end LivePreview.Module
