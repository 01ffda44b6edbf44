import LivePreview.Proofs.Files

/-!
# How often a module fails

A name that could not be loaded is not loaded again, so all traversals together record one failure
for it. A rule records one for each file that it inspects in vain, whether or not the name has failed
before. So the failures of a name are counted by these files and by whether a reference failed. Where
no file is inspected in vain, as in a table, a name fails at most once; in a tree of files it may fail
again.
-/

namespace LivePreview

/-- The module that a failure to load is about. -/
def Failure.failedModule? : Failure → Option String
  | .moduleLoad name _ _ => some name
  | _ => none

namespace Module

/-- How often a module of this name failed. -/
def Registry.failuresOf (r : Registry) (n : String) : Nat :=
  r.failures.countP (·.failedModule? = some n)

/-- The file is inspected in vain, and fails under this name. -/
def Resolver.refuses (resolver : Resolver) (n : String) (l : Location) : Bool :=
  match resolver.inspect l with
  | .ok _ => false
  | .error f => f.failedModule? = some n

/-- The files that a rule inspects. -/
def inspected (resolver : Resolver) (s : Search) (rule : Rule) : List Location :=
  match (s.registry.get? rule.anchor).map (·.location) with
  | none | some none => []
  | some (some location) =>
    match resolver.list (rule.sibling.directory location) with
    | .error _ => []
    | .ok files => files

/-- The files that the rules inspect, one rule after another. -/
def inspections (resolver : Resolver) : List Rule → Search → List Location
  | [], _ => []
  | rule :: rules, s =>
    inspected resolver s rule ++ inspections resolver rules (applyRule resolver s rule)

/-! ## Built-in resolvers -/

/-- What cannot be loaded fails under the name that was asked for. -/
def FailsNamed (resolver : Resolver) : Prop :=
  ∀ name f, resolver.load name = .error f → f.failedModule? = some name

theorem failsNamed_ofTable (ms : List Record) : FailsNamed (.ofTable ms) := by
  intro name f hload
  simp only [Resolver.ofTable] at hload
  split at hload
  · cases hload
  · cases hload
    rfl

theorem failedModule_of_describe {t : FileTree} {settings : FileSettings} {name : String}
    {l : Option Location} {package : Option String} {f : Failure}
    (h : describe t settings name l package = .error f) : f.failedModule? = some name := by
  unfold describe at h
  split at h
  · cases h
  · split at h
    · split at h
      · cases h
      · cases h
        rfl
    · cases h

theorem failsNamed_ofFiles (t : FileTree) (settings : FileSettings) :
    FailsNamed (.ofFiles t settings) := by
  intro name f hload
  change loadFile t settings name = .error f at hload
  unfold loadFile at hload
  split at hload
  · cases hload
    rfl
  · cases hload
    rfl
  · exact failedModule_of_describe hload

/-- A table lists only locations of its records. -/
theorem refuses_ofTable {ms : List Record} {s : Search} {rule : Rule} {l : Location} (n : String)
    (h : l ∈ inspected (.ofTable ms) s rule) : (Resolver.ofTable ms).refuses n l = false := by
  unfold inspected at h
  split at h
  · cases h
  · cases h
  · split at h
    · cases h
    · next files hlist =>
      rw [(list_ofTable_eq_ok_iff.mp hlist).1] at h
      obtain ⟨m, hm⟩ := Lookup.exists_of_mem_inDirectory h
      rw [Resolver.refuses, inspect_ofTable_eq_ok_iff.mpr hm]

theorem countP_inspections_ofTable (ms : List Record) (n : String) (rules : List Rule) :
    ∀ s, (inspections (.ofTable ms) rules s).countP ((Resolver.ofTable ms).refuses n) = 0 := by
  induction rules with
  | nil => exact fun _ => rfl
  | cons rule rules ih =>
    intro s
    have hnone : (inspected (.ofTable ms) s rule).countP ((Resolver.ofTable ms).refuses n) = 0 := by
      rw [List.countP_eq_zero]
      intro l hl
      rw [Bool.not_eq_true]
      exact refuses_ofTable n hl
    rw [inspections, List.countP_append, hnone, ih]

/-! ## Traversals -/

theorem failuresOf_add (r : Registry) (m : Record) (n : String) :
    (r.add m).failuresOf n = r.failuresOf n := by
  unfold Registry.add
  split
  · rfl
  · rfl

theorem failuresOf_recordFailure (r : Registry) (f : Failure) (n : String) :
    (r.recordFailure f).failuresOf n =
      r.failuresOf n + if f.failedModule? = some n then 1 else 0 := by
  simp [Registry.failuresOf, Registry.recordFailure, List.countP_append, List.countP_singleton]

/-- Beside the failure of a reference, the name has failed so many times. -/
def Search.Balanced (n : String) (others : Nat) (s : Search) : Prop :=
  s.registry.failuresOf n = others + if n ∈ s.failed then 1 else 0

variable {resolver : Resolver} {n : String}

/-- A reference that fails is a new failed name. -/
theorem balanced_followReference (hfails : FailsNamed resolver) {others : Nat} {s : Search}
    (q : Queue) (name : String) (h : s.Balanced n others) :
    (followReference resolver (s, q) name).1.Balanced n others := by
  have heffect := Moment.effect_follow resolver s q name [] []
  generalize (followReference resolver (s, q) name).1 = t at heffect ⊢
  generalize (followReference resolver (s, q) name).2 = p at heffect
  cases heffect with
  | known _ => exact h
  | loaded _ _ => exact h
  | @failed _ _ _ _ _ f log hunmet hload =>
    have hone := failuresOf_recordFailure s.registry f n
    rw [hfails name f hload] at hone
    simp only [Search.Balanced] at h ⊢
    rw [hone, h]
    by_cases hn : name = n
    · -- A name that has failed is not loaded again, so both sides grow by one.
      have hfresh : n ∉ s.failed := hn ▸ hunmet.unfailed
      simp [hn, hfresh]
    · have hmem : n ∈ name :: s.failed ↔ n ∈ s.failed := by simp [Ne.symm hn]
      simp [hmem, hn]

theorem kept_balanced (hfails : FailsNamed resolver) (n : String) (others : Nat) :
    Search.Kept resolver (Search.Balanced n others) where
  add s m h := (failuresOf_add s.registry m n).trans h
  follow _ q name h := balanced_followReference hfails q name h

/-- A failed name was loaded. -/
theorem kept_failed_subset (resolver : Resolver) :
    Search.Kept resolver fun s => ∀ n ∈ s.failed, n ∈ s.loads where
  add _ _ h := h
  follow s q name h := by
    have heffect := Moment.effect_follow resolver s q name [] []
    generalize (followReference resolver (s, q) name).1 = t at heffect ⊢
    generalize (followReference resolver (s, q) name).2 = p at heffect
    cases heffect with
    | known _ => exact h
    | loaded _ _ => exact fun n hn => List.mem_append_left _ (h n hn)
    | failed _ _ =>
      intro n hn
      rcases List.mem_cons.mp hn with rfl | hn
      · exact List.mem_append_right _ List.mem_cons_self
      · exact List.mem_append_left _ (h n hn)

/-! ## Rules -/

/-- Every file that is inspected in vain adds its failure, be it a new one or not. -/
theorem failuresOf_inspectFiles (n : String) (files : List Location) :
    ∀ (s : Search) (found : List Record),
      (inspectFiles resolver s found files).1.registry.failuresOf n =
        s.registry.failuresOf n + files.countP (resolver.refuses n) := by
  induction files with
  | nil => exact fun _ _ => rfl
  | cons l ls ih =>
    intro s found
    rw [inspectFiles, List.countP_cons]
    split
    · next f hinspect =>
      have hrefuses : resolver.refuses n l = decide (f.failedModule? = some n) := by
        rw [Resolver.refuses, hinspect]
      have hone := failuresOf_recordFailure s.registry f n
      rw [ih, hrefuses]
      simp only [decide_eq_true_iff]
      change (s.registry.recordFailure f).failuresOf n + _ = _
      omega
    · next m hinspect =>
      have hrefuses : resolver.refuses n l = false := by
        rw [Resolver.refuses, hinspect]
      rw [hrefuses]
      split
      · exact ih s found
      · exact ih s _

/-- A rule adds the failures of the files that it inspects, and perhaps one of its family. -/
theorem failuresOf_discover (resolver : Resolver) (n : String) (s : Search) (rule : Rule) :
    ∃ own, own ≤ (if rule.family = n then 1 else 0) ∧
      (discover resolver s rule).1.registry.failuresOf n =
        s.registry.failuresOf n + (inspected resolver s rule).countP (resolver.refuses n) + own := by
  have hfail (f : Failure) : (s.fail f).registry.failuresOf n =
      s.registry.failuresOf n + if f.failedModule? = some n then 1 else 0 :=
    failuresOf_recordFailure s.registry f n
  rw [discover, inspected]
  cases (s.registry.get? rule.anchor).map (·.location) with
  | none =>
    have hsame := hfail (.anchorMissing rule.family rule.anchor "not loaded")
    exact ⟨0, Nat.zero_le _, hsame⟩
  | some location =>
    cases location with
    | none =>
      have hsame := hfail (.anchorMissing rule.family rule.anchor "not file-backed")
      exact ⟨0, Nat.zero_le _, hsame⟩
    | some location =>
      simp only
      cases resolver.list (rule.sibling.directory location) with
      | error fault =>
        have hone := hfail (.moduleLoad rule.family ("cannot list " ++
          (rule.sibling.directory location).text ++ ": " ++ fault.text) none)
        simp only [Failure.failedModule?, Option.some_inj] at hone
        exact ⟨_, Nat.le_refl _, hone⟩
      | ok files => exact ⟨0, Nat.zero_le _, failuresOf_inspectFiles n files s []⟩

theorem balanced_applyRule (hfails : FailsNamed resolver) {others : Nat} {s : Search} (rule : Rule)
    (h : s.Balanced n others) : ∃ own, own ≤ (if rule.family = n then 1 else 0) ∧
      (applyRule resolver s rule).Balanced n
        (others + (inspected resolver s rule).countP (resolver.refuses n) + own) := by
  obtain ⟨own, hown, hcount⟩ := failuresOf_discover resolver n s rule
  have hdiscovered : (discover resolver s rule).1.Balanced n
      (others + (inspected resolver s rule).countP (resolver.refuses n) + own) := by
    rw [Search.Balanced] at h ⊢
    rw [hcount, h, (discover_sameRecords resolver s rule).failed]
    omega
  exact ⟨own, hown, (kept_balanced hfails n _).traverse (discover resolver s rule).2 hdiscovered⟩

theorem balanced_applyRules (hfails : FailsNamed resolver) (rules : List Rule) :
    ∀ (s : Search) (others : Nat), s.Balanced n others →
      ∃ own, own ≤ (rules.map (·.family)).count n ∧
        (rules.foldl (applyRule resolver) s).Balanced n
          (others + (inspections resolver rules s).countP (resolver.refuses n) + own) := by
  induction rules with
  | nil => exact fun s others h => ⟨0, Nat.le_refl _, h⟩
  | cons rule rules ih =>
    intro s others h
    obtain ⟨first, hfirst, hrule⟩ := balanced_applyRule hfails rule h
    obtain ⟨rest, hrest, hall⟩ := ih _ _ hrule
    refine ⟨first + rest, ?_, ?_⟩
    · rw [List.map_cons, List.count_cons]
      simp only [beq_iff_eq]
      omega
    · have hsum : others + ((inspected resolver s rule).countP (resolver.refuses n) +
          (inspections resolver rules (applyRule resolver s rule)).countP (resolver.refuses n)) +
            (first + rest) =
          others + (inspected resolver s rule).countP (resolver.refuses n) + first +
            (inspections resolver rules (applyRule resolver s rule)).countP (resolver.refuses n) +
              rest := by omega
      rw [List.foldl_cons, inspections, List.countP_append, hsum]
      exact hall

/-! ## Closures -/

/-- The failures of a name in a closure: one if a reference of this name failed, those of the files
that the rules inspect, and perhaps one for each family of this name. -/
theorem balanced_closure (hfails : FailsNamed resolver) (rules : List Rule) (seeds : List Record)
    (n : String) : ∃ own, own ≤ (rules.map (·.family)).count n ∧
      (closure resolver rules seeds).Balanced n
        ((inspections resolver rules (traverse resolver .start seeds)).countP
          (resolver.refuses n) + own) := by
  have hstart : Search.start.Balanced n 0 := rfl
  obtain ⟨own, hown, hall⟩ :=
    balanced_applyRules hfails rules _ 0 ((kept_balanced hfails n 0).traverse seeds hstart)
  rw [Nat.zero_add] at hall
  exact ⟨own, hown, hall⟩

theorem failed_subset_closure (resolver : Resolver) (rules : List Rule) (seeds : List Record) :
    ∀ n ∈ (closure resolver rules seeds).failed, n ∈ (closure resolver rules seeds).loads := by
  have hkept := kept_failed_subset resolver
  have hstart : ∀ n ∈ Search.start.failed, n ∈ Search.start.loads :=
    fun _ hn => absurd hn List.not_mem_nil
  refine List.foldlRecOn (motive := fun s : Search => ∀ n ∈ s.failed, n ∈ s.loads) rules _
    (hkept.traverse seeds hstart) ?_
  intro s hs rule _
  have hsame := discover_sameRecords resolver s rule
  have hdiscovered : ∀ n ∈ (discover resolver s rule).1.failed,
      n ∈ (discover resolver s rule).1.loads := by
    rw [hsame.failed, hsame.loads]
    exact hs
  exact hkept.traverse (discover resolver s rule).2 hdiscovered

/-- In the closure of a table every name fails at most once, if the names of the families are
distinct and none of them is loaded as a module. -/
theorem failuresOf_closure_ofTable_le (ms : List Record) (rules : List Rule) (seeds : List Record)
    (hdistinct : (rules.map (·.family)).Nodup)
    (hfree : ∀ rule ∈ rules, rule.family ∉ (closure (.ofTable ms) rules seeds).loads)
    (n : String) : (closure (.ofTable ms) rules seeds).registry.failuresOf n ≤ 1 := by
  obtain ⟨own, hown, hall⟩ := balanced_closure (failsNamed_ofTable ms) rules seeds n
  rw [countP_inspections_ofTable, Nat.zero_add, Search.Balanced] at hall
  rw [hall]
  by_cases hfamily : n ∈ rules.map (·.family)
  · obtain ⟨rule, hrule, rfl⟩ := List.mem_map.mp hfamily
    have hunfailed : rule.family ∉ (closure (.ofTable ms) rules seeds).failed :=
      fun hfailed => hfree rule hrule (failed_subset_closure _ rules seeds _ hfailed)
    have hcount := List.nodup_iff_count.mp hdistinct rule.family
    rw [if_neg hunfailed]
    omega
  · rw [List.count_eq_zero_of_not_mem hfamily] at hown
    split
    · omega
    · omega

/-! ### A file that cannot be decoded -/

/-- Two files, of which the second cannot be decoded. -/
def undecodable : Resolver :=
  .ofFiles ⟨.ofText "/vfs", [(["app.py"], []), (["bad.py"], [255])], []⟩ {}

/-- A module that refers to the second file. -/
def referring : Record := ⟨"app", some (.ofText "/vfs/app.py"), ["bad"], false⟩

/-- The directory of both files. -/
def besideApp : Rule := ⟨"near", "app", .parent⟩

/-- Both files, inspected after the references have been followed. -/
def besideFiles : Search × List Record :=
  inspectFiles undecodable (traverse undecodable .start [referring]) []
    [.ofText "/vfs/app.py", .ofText "/vfs/bad.py"]

theorem list_undecodable : undecodable.list (.ofText "/vfs") =
    .ok [.ofText "/vfs/app.py", .ofText "/vfs/bad.py"] := by
  have hsorted : Location.sort [.ofText "/vfs/app.py", .ofText "/vfs/bad.py"] =
      [.ofText "/vfs/app.py", .ofText "/vfs/bad.py"] := List.mergeSort_of_pairwise (by decide)
  rw [← hsorted]
  refine congrArg (fun files => Except.ok (Location.sort files)) ?_
  decide +kernel

theorem discover_of_listed {resolver : Resolver} {s : Search} {rule : Rule} {l : Location}
    {files : List Location}
    (hanchor : (s.registry.get? rule.anchor).map (·.location) = some (some l))
    (hlist : resolver.list (rule.sibling.directory l) = .ok files) :
    ∃ message, discover resolver s rule =
      ((inspectFiles resolver s [] files).1.note message, (inspectFiles resolver s [] files).2) := by
  rw [discover, hanchor]
  simp only [hlist]
  exact ⟨_, rfl⟩

theorem traverse_nil (resolver : Resolver) (s : Search) : traverse resolver s [] = s := by
  rw [traverse]
  cases [].length + resolver.size with
  | zero => rfl
  | succ rounds => rfl

theorem anchor_undecodable :
    ((traverse undecodable .start [referring]).registry.get? besideApp.anchor).map (·.location) =
      some (some (.ofText "/vfs/app.py")) := by
  decide +kernel

theorem closure_undecodable : ∃ message last, closure undecodable [besideApp] [referring] =
    (besideFiles.1.note message).note last := by
  have hfound : besideFiles.2 = [] := by
    decide +kernel
  obtain ⟨message, hdiscover⟩ := discover_of_listed anchor_undecodable list_undecodable
  change _ = (besideFiles.1.note message, besideFiles.2) at hdiscover
  rw [closure, List.foldl_cons, List.foldl_nil, applyRule, hdiscover]
  simp only [hfound, traverse_nil]
  exact ⟨message, _, rfl⟩

/-! ### Names -/

/-- A name that no family has fails once if a reference of it failed, and once more for every file
that a rule inspects in vain under it. In a table no file is inspected in vain, and a name fails at
most once. -/
theorem failures_of_name {resolver : Resolver} (hfails : FailsNamed resolver) (rules : List Rule)
    (seeds : List Record) {n : String} (hn : ∀ rule ∈ rules, rule.family ≠ n) :
    (closure resolver rules seeds).registry.failures.countP (·.failedModule? = some n) =
      (if n ∈ (closure resolver rules seeds).failed then 1 else 0) +
        (inspections resolver rules (traverse resolver .start seeds)).countP
          (resolver.refuses n) ∧
    ∀ ms, (rules.map (·.family)).Nodup →
      (∀ rule ∈ rules, rule.family ∉ (closure (.ofTable ms) rules seeds).loads) →
      ∀ name, (closure (.ofTable ms) rules seeds).registry.failures.countP
        (·.failedModule? = some name) ≤ 1 := by
  refine ⟨?_, fun ms hdistinct hfree => failuresOf_closure_ofTable_le ms rules seeds hdistinct hfree⟩
  obtain ⟨own, hown, hall⟩ := balanced_closure hfails rules seeds n
  have hfamily : n ∉ rules.map (·.family) := by
    rintro hmem
    obtain ⟨rule, hrule, hname⟩ := List.mem_map.mp hmem
    exact hn rule hrule hname
  rw [List.count_eq_zero_of_not_mem hfamily] at hown
  change (closure resolver rules seeds).registry.failuresOf n = _
  rw [hall]
  omega

theorem failures_of_name_undecodable :
    FailsNamed undecodable ∧ (∀ rule ∈ [besideApp], rule.family ≠ "bad") ∧
    (closure undecodable [besideApp] [referring]).registry.failures.countP
      (·.failedModule? = some "bad") = 1 + 1 ∧
    (closure (.ofTable []) [besideApp] [referring]).registry.failures.countP
      (·.failedModule? = some "bad") ≤ 1 := by
  have hfails : FailsNamed undecodable := failsNamed_ofFiles _ _
  have hfamily : ∀ rule ∈ [besideApp], rule.family ≠ "bad" := by
    decide
  obtain ⟨message, last, hclosure⟩ := closure_undecodable
  have hfailed : "bad" ∈ (closure undecodable [besideApp] [referring]).failed := by
    have hmem : "bad" ∈ besideFiles.1.failed := by
      decide +kernel
    rw [hclosure]
    exact hmem
  have hinspections : (inspections undecodable [besideApp]
      (traverse undecodable .start [referring])).countP (undecodable.refuses "bad") = 1 := by
    have hlist : undecodable.list (besideApp.sibling.directory (.ofText "/vfs/app.py")) =
        .ok [.ofText "/vfs/app.py", .ofText "/vfs/bad.py"] := list_undecodable
    rw [inspections, inspections, inspected, anchor_undecodable]
    simp only [hlist]
    decide +kernel
  obtain ⟨hcount, htable⟩ := failures_of_name hfails [besideApp] [referring] hfamily
  refine ⟨hfails, hfamily, ?_, htable [] (List.pairwise_singleton _ _) (by decide +kernel) "bad"⟩
  rw [hcount, if_pos hfailed, hinspections]

/-- In a tree of files a name can fail as a reference, and again as a file in the directory of a
rule. -/
theorem failures_not_once :
    ¬ ∀ t settings rules seeds, (rules.map (·.family)).Nodup →
      (∀ rule ∈ rules, rule.family ∉ (closure (.ofFiles t settings) rules seeds).loads) →
      ∀ n, (closure (.ofFiles t settings) rules seeds).registry.failures.countP
        (·.failedModule? = some n) ≤ 1 := by
  intro honce
  obtain ⟨message, last, hclosure⟩ := closure_undecodable
  have hloads : besideFiles.1.loads = ["bad"] := by
    decide +kernel
  have htwice : besideFiles.1.registry.failuresOf "bad" = 2 := by
    decide +kernel
  have hfree : ∀ rule ∈ [besideApp],
      rule.family ∉ (closure undecodable [besideApp] [referring]).loads := by
    rw [hclosure]
    change ∀ rule ∈ [besideApp], rule.family ∉ besideFiles.1.loads
    rw [hloads]
    decide
  have hatmost : (closure undecodable [besideApp] [referring]).registry.failuresOf "bad" ≤ 1 :=
    honce _ _ [besideApp] [referring] (List.pairwise_singleton _ _) hfree "bad"
  rw [hclosure] at hatmost
  change besideFiles.1.registry.failuresOf "bad" ≤ 1 at hatmost
  rw [htwice] at hatmost
  omega

end Module

end LivePreview
