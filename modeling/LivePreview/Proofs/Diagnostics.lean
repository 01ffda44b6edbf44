import LivePreview.Proofs.Document
import LivePreview.Proofs.Refusals
import LivePreview.Proofs.Resolution
import LivePreview.Proofs.Uses
import Mathlib.Data.List.Perm.Basic

/-!
# What a document reports

Each kind of diagnostic is given by itself: the tags that stand for nothing, the attributes that a
declared component does not have, the parameters that it requires and is not given, and the modules
that are not there. A document reports all of these and nothing else, in the order of the text; what
falls on one place stands in the order in which it is found. The components of a document are the
names of its tags that stand for something.
-/

namespace LivePreview

open Code (Statement)
open Template (Use AllSlashEmpty)

/-! ## The order of a text -/

theorem Template.Position.le_trans (p q r : Position) (hpq : p.le q = true)
    (hqr : q.le r = true) : p.le r = true := by
  simp only [Position.le, Bool.or_eq_true, Bool.and_eq_true, decide_eq_true_eq, beq_iff_eq] at *
  omega

theorem Template.Position.le_total (p q : Position) : (p.le q || q.le p) = true := by
  simp only [Position.le, Bool.or_eq_true, Bool.and_eq_true, decide_eq_true_eq, beq_iff_eq]
  omega

theorem Template.Position.le_self (p : Position) : p.le p = true := by
  simpa using p.le_total p

namespace Component

namespace Diagnostic

theorem perm_sort (ds : List Diagnostic) : (sort ds).Perm ds := List.mergeSort_perm ds _

theorem pairwise_sort (ds : List Diagnostic) :
    (sort ds).Pairwise fun d e => d.place.le e.place = true :=
  List.pairwise_mergeSort (fun d e f => Template.Position.le_trans d.place e.place f.place)
    (fun d e => Template.Position.le_total d.place e.place) ds

/-- Diagnostics of one place keep their order. -/
theorem filter_sort (ds : List Diagnostic) (place : Template.Position) :
    (sort ds).filter (·.place = place) = ds.filter (·.place = place) := by
  have hplace : (ds.filter (·.place = place)).Pairwise fun d e => d.place.le e.place = true := by
    refine List.Pairwise.imp_of_mem ?_ (List.pairwise_of_forall (R := fun _ _ => True) (by simp))
    intro d e hd he _
    rw [of_decide_eq_true (List.mem_filter.mp hd).2, of_decide_eq_true (List.mem_filter.mp he).2]
    exact place.le_self
  have hkept : (ds.filter (·.place = place)).Sublist (sort ds) :=
    List.sublist_mergeSort (fun d e f => Template.Position.le_trans d.place e.place f.place)
      (fun d e => Template.Position.le_total d.place e.place) hplace List.filter_sublist
  have hfiltered := hkept.filter (·.place = place)
  rw [List.filter_filter] at hfiltered
  simp only [Bool.and_self] at hfiltered
  exact (hfiltered.eq_of_length ((perm_sort ds).filter _).length_eq.symm).symm

end Diagnostic

/-! ## What there is to report -/

variable (c : Context)

/-- What is known of the declared component that a name stands for: the names of its parameters, and
of those that it requires. -/
def declaredParams? (name : String) : Option (List String × List String) :=
  (c.resolve name).bind fun b => b.params.map fun params => (params.map (·.1), b.required)

/-- A tag that stands for nothing. -/
def unboundTag (u : Use) : List Diagnostic :=
  if (c.resolve u.name).isNone then [.unresolvedComponent u.place u.name] else []

/-- The attributes of a tag that its declared component has no parameter for. -/
def unknownAttributes (u : Use) : List Diagnostic :=
  match declaredParams? c u.name with
  | none => []
  | some (params, _) =>
    (u.attributes.filter fun a => a.name ∉ params).map fun a =>
      .unknownAttribute a.place u.name a.name

/-- The parameters that the declared component of a tag requires and is not given. -/
def missingParams (u : Use) : List Diagnostic :=
  match declaredParams? c u.name with
  | none => []
  | some (_, required) =>
    (required.filter fun r => r ∉ u.attributes.map (·.name)).map (.missingParameter u.place u.name)

/-- The module lines whose module is not an external one. -/
def foreignModules (t : Template) : List Diagnostic :=
  (t.usings.filter fun u => u.module ∉ c.external.map (·.name)).map fun u =>
    .unresolvedModule u.place u.module

/-- All that is found at a tag, in the order in which it is found. -/
def tagDiagnostics (u : Use) : List Diagnostic :=
  unboundTag c u ++ (unknownAttributes c u ++ missingParams c u)

/-- All that is found in a template, in the order in which it is found: tag by tag, and the module
lines at the end. -/
def foundDiagnostics (t : Template) : List Diagnostic :=
  t.uses.flatMap (tagDiagnostics c) ++ foreignModules c t

variable {c}

/-- Looking for a name among parts is looking for it among their names. -/
theorem any_name_eq {α : Type} (f : α → String) (xs : List α) (name : String) :
    (xs.any fun x => decide (f x = name)) = decide (name ∈ xs.map f) := by
  rw [Bool.eq_iff_iff, List.any_eq_true, decide_eq_true_eq, List.mem_map]
  simp only [decide_eq_true_eq]

theorem declaredParams?_of_resolve {name : String} {b : Binding} (hb : c.resolve name = some b) :
    declaredParams? c name = b.params.map fun params => (params.map (·.1), b.required) := by
  rw [declaredParams?, hb]
  rfl

theorem useDiagnostics_eq (u : Use) : useDiagnostics c u = tagDiagnostics c u := by
  unfold useDiagnostics tagDiagnostics unboundTag unknownAttributes missingParams
  cases hb : c.resolve u.name with
  | none =>
    rw [declaredParams?, hb]
    rfl
  | some b =>
    rw [declaredParams?_of_resolve hb]
    unfold misfits Binding.isExternal
    cases hparams : b.params with
    | none => simp [hparams]
    | some params =>
      simp only [Binding.accepts, hparams, any_name_eq, decide_not]
      rfl

theorem unknownModules_eq_foreignModules (t : Template) :
    unknownModules c t = foreignModules c t := by
  unfold unknownModules foreignModules Context.hasModule
  simp only [any_name_eq, decide_not]

theorem perm_foundDiagnostics (t : Template) : (foundDiagnostics c t).Perm
    (t.uses.flatMap (unboundTag c) ++ t.uses.flatMap (unknownAttributes c) ++
      t.uses.flatMap (missingParams c) ++ foreignModules c t) := by
  refine List.Perm.append_right _ ?_
  rw [List.append_assoc]
  exact (List.flatMap_append_perm _ _ _).symm.trans
    ((List.flatMap_append_perm _ _ _).symm.append_left _)

/-! ## The components of a document -/

namespace Findings

variable {own : String}

theorem resolved_meet {f : Findings} {names : List String} (hf : f.resolved = names.eraseDups)
    (u : Use) : (f.meet c own u).resolved =
      (names ++ [u.name].filter fun n => (c.resolve n).isSome).eraseDups := by
  unfold meet
  cases hb : c.resolve u.name with
  | none => simpa [hb, note] using hf
  | some b =>
    simp only [use_eq, List.filter_cons, hb, Option.isSome_some, if_true, List.filter_nil,
      Aggregate.eraseDups_concat, hf, List.mem_eraseDups]

/-- The components that are noted are the names that stand for something, each where it comes first. -/
theorem resolved_foldl_meet (us : List Use) : ∀ (f : Findings) (names : List String),
    f.resolved = names.eraseDups → (us.foldl (meet c own) f).resolved =
      (names ++ (us.map (·.name)).filter fun n => (c.resolve n).isSome).eraseDups := by
  induction us with
  | nil =>
    intro f names hf
    rw [List.map_nil, List.filter_nil, List.append_nil]
    exact hf
  | cons u us ih =>
    intro f names hf
    rw [List.foldl_cons, ih _ _ (resolved_meet hf u), List.append_assoc, ← List.filter_append,
      List.map_cons, List.singleton_append]

end Findings

/-! ## What a document says of its template -/

/-- A document reports of a template, against a context, what there is to report. -/
structure Reports (c : Context) (t : Template) (d : Document) : Prop where
  /-- Each kind of diagnostic comes as often as there is a reason for it, and nothing else comes. -/
  kinds : d.diagnostics.Perm
    (t.uses.flatMap (unboundTag c) ++ t.uses.flatMap (unknownAttributes c) ++
      t.uses.flatMap (missingParams c) ++ foreignModules c t)
  ordered : d.diagnostics.Pairwise fun a b => a.place.le b.place = true
  /-- What falls on one place stands in the order in which it is found. -/
  ties : ∀ place, d.diagnostics.filter (·.place = place) =
    (foundDiagnostics c t).filter (·.place = place)
  components : d.components =
    ((t.uses.map (·.name)).filter fun n => (c.resolve n).isSome).eraseDups

theorem reports_compile {t : Template} {path : String} {d : Document} (ht : AllSlashEmpty t.body)
    (h : compile c t path = .ok d) : Reports c t d := by
  obtain ⟨p, hp, -, hfields⟩ := compile_eq_ok h
  have hfound := findings_writeNodes t.body ht _ p hp
  have hdiagnostics : d.diagnostics = Diagnostic.sort (foundDiagnostics c t) := by
    have h := congrArg Findings.diagnostics hfound
    rw [Findings.diagnostics_foldl_meet] at h
    change p.findings.diagnostics = t.uses.flatMap (useDiagnostics c) at h
    rw [hfields, h, unknownModules_eq_foreignModules, foundDiagnostics,
      List.flatMap_congr fun u _ => useDiagnostics_eq u]
  have hcomponents : d.components = p.findings.resolved := by rw [hfields]
  constructor
  · rw [hdiagnostics]
    exact (Diagnostic.perm_sort _).trans (perm_foundDiagnostics t)
  · rw [hdiagnostics]
    exact Diagnostic.pairwise_sort _
  · intro place
    rw [hdiagnostics, Diagnostic.filter_sort]
  · have h := congrArg Findings.resolved hfound
    rw [Findings.resolved_foldl_meet _ _ [] rfl] at h
    exact hcomponents.trans h

/-- Compiled against any context, a template has the diagnostics that there are reasons for, each
once for each reason and in the order of the text, and names as its components what its tags stand
for. This is so for every tree in which elements with a slash at the end of their tags are empty, and
the trees of all template texts are such. -/
theorem diagnostics_exact (c : Context) (path : String) :
    (∀ t d, AllSlashEmpty t.body → compile c t path = .ok d → Reports c t d) ∧
    ∀ content d, Document.generate c path content = .ok d →
      ∃ t, Template.ofChars content.toList = .ok t ∧ Reports c t d := by
  refine ⟨fun t d ht h => reports_compile ht h, fun content d h => ?_⟩
  obtain ⟨t, ht, hcompile⟩ := generate_eq_ok h
  exact ⟨t, ht, reports_compile (Template.slashEmpty_of_read ht) hcompile⟩

/-- A page that needs no imports is compiled where its module can be written. -/
theorem exists_compile {c : Context} {t : Template} {path code : String} {p : Progress}
    (hp : writeNodes c (componentName path) ⟨.empty, .empty⟩ t.body = .ok p)
    (husings : t.usings = []) (hexternals : p.findings.externals = [])
    (himports : p.findings.imports = ∅)
    (htext : moduleText path (fixedImports ++ [componentClass t path p.draft.finish]) = .ok code) :
    ∃ d, compile c t path = .ok d := by
  have hheader : header t p.findings = fixedImports := by
    have hentries : p.findings.imports.entries = [] := by rw [himports]; rfl
    simp [header, usedModules, husings, hexternals, hentries, Module.sortNames, sortImports]
  rw [← hheader] at htext
  simp only [compile, hp, htext]
  exact ⟨_, rfl⟩

/-! ## A page with a tag that stands for nothing -/

/-- A page with a single tag. -/
def strayPage : Template := ⟨[], [], [.element .start "Stray" [] [] .slash]⟩

def bareContext : Context := .new [] "declarations"

theorem resolve_stray : bareContext.resolve "Stray" = none := by
  have hmodule : Context.modulePart? "Stray" = none := by decide +kernel
  rw [Context.resolve, hmodule]
  rfl

/-- The module that the page is compiled to, with the tag as text. -/
def strayModule : List Statement :=
  fixedImports ++ [componentClass strayPage "Page.tpl" [Draft.appending (.ofText "<Stray />")]]

theorem exists_strayDocument : ∃ d, compile bareContext strayPage "Page.tpl" = .ok d := by
  have htag : Template.isComponentTag "Stray" = true := by decide
  have hbinding : binding? bareContext "Stray" = none := by
    rw [binding?, if_pos htag, resolve_stray]
  obtain ⟨p, hp, hdraft, hexternals, himports⟩ : ∃ p,
      writeNodes bareContext (componentName "Page.tpl") ⟨.empty, .empty⟩ strayPage.body = .ok p ∧
        p.draft.finish = [Draft.appending (.ofText "<Stray />")] ∧ p.findings.externals = [] ∧
        p.findings.imports = ∅ := by
    simp only [strayPage, writeNodes, writeNode, hbinding, htag, if_true]
    exact ⟨_, rfl, rfl, rfl, rfl⟩
  have htext : moduleText "Page.tpl" strayModule = .ok (Statement.text strayModule) :=
    moduleText_of_unrefusable (by decide +kernel) (by decide +kernel) (by decide +kernel)
  rw [strayModule, ← hdraft] at htext
  exact exists_compile hp rfl hexternals himports htext

/-- The document of the page reports the tag, and nothing else. -/
theorem diagnostics_exact_stray : ∃ d, AllSlashEmpty strayPage.body ∧
    compile bareContext strayPage "Page.tpl" = .ok d ∧ Reports bareContext strayPage d ∧
    d.diagnostics = [.unresolvedComponent .start "Stray"] ∧ d.components = [] := by
  have hslash : AllSlashEmpty strayPage.body := by
    simp [strayPage, AllSlashEmpty, Template.Node.SlashEmpty]
  obtain ⟨d, hd⟩ := exists_strayDocument
  have hreports := (diagnostics_exact bareContext "Page.tpl").1 strayPage d hslash hd
  have htag : Template.isComponentTag "Stray" = true := by decide
  have huses : strayPage.uses = [⟨.start, "Stray", []⟩] := by
    simp [strayPage, Template.uses, Template.bodyUses, Template.Node.uses, htag]
  have hfound : (strayPage.uses.flatMap (unboundTag bareContext) ++
      strayPage.uses.flatMap (unknownAttributes bareContext) ++
      strayPage.uses.flatMap (missingParams bareContext) ++ foreignModules bareContext strayPage) =
        [.unresolvedComponent .start "Stray"] := by
    have husings : strayPage.usings = [] := rfl
    simp [huses, husings, unboundTag, unknownAttributes, missingParams, declaredParams?,
      resolve_stray, foreignModules]
  refine ⟨d, hslash, hd, hreports, List.perm_singleton.mp (hfound ▸ hreports.kinds), ?_⟩
  rw [hreports.components, huses]
  simp [resolve_stray]

end Component

end LivePreview
