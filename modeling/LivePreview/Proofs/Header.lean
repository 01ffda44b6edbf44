import LivePreview.Proofs.Hygiene
import LivePreview.Proofs.Registry

/-!
# The header of a document

After the fixed imports a header has three runs. The modules that the template names come first, in
the order of the text; then the modules of its external tags, as far as they are not among these; and
then the declared components that its tags stand for, each from its module. The last two runs are
ascending. Which tags there are is a matter of the tree alone, whatever is written for them, so that a
tag in the content of another, or below a tag that stands for nothing, has its import too.
-/

namespace LivePreview.Component

open LivePreview.Code (Statement)
open LivePreview.Template (Use)

/-! ## Each once -/

/-- The modules that a template names, each where it comes first. -/
theorem usedModules_eq (t : Template) :
    usedModules t = (t.usings.map (·.module)).eraseDups := by
  have hfold (us : List Template.Using) : ∀ names : List String,
      us.foldl (fun ms u => if ms.contains u.module then ms else ms ++ [u.module])
        names.eraseDups = (names ++ us.map (·.module)).eraseDups := by
    induction us with
    | nil => exact fun names => by rw [List.map_nil, List.append_nil]; rfl
    | cons u us ih =>
      intro names
      have hstep : (if names.eraseDups.contains u.module then names.eraseDups
          else names.eraseDups ++ [u.module]) = (names ++ [u.module]).eraseDups := by
        rw [Aggregate.eraseDups_concat]
        simp only [List.contains_iff_mem, List.mem_eraseDups]
      rw [List.foldl_cons, hstep, ih, List.append_assoc, List.map_cons, List.singleton_append]
  exact hfold t.usings []

theorem Findings.nodup_externals_meet {c : Context} {own : String} {f : Findings}
    (h : f.externals.Nodup) (u : Use) : (f.meet c own u).externals.Nodup := by
  unfold Findings.meet
  cases c.resolve u.name with
  | none => exact h
  | some b =>
    simp only [Findings.use_eq]
    split
    · next hnew =>
      refine List.nodup_append.mpr ⟨h, List.nodup_singleton _, fun a ha m hm heq => ?_⟩
      rw [List.mem_singleton.mp hm] at heq
      exact hnew.2 (heq ▸ ha)
    · exact h

theorem Findings.nodup_externals_foldl_meet {c : Context} {own : String} (us : List Use) :
    ∀ f : Findings, f.externals.Nodup → (us.foldl (Findings.meet c own) f).externals.Nodup := by
  induction us with
  | nil => exact fun _ h => h
  | cons u us ih => exact fun f h => ih _ (f.nodup_externals_meet h u)

/-! ## What there is to import -/

/-- What the header of a template imports against a context: the modules `named` by the template, the
`others` that external tags lie in, and the `components` that declared tags stand for. -/
structure Needed (c : Context) (path : String) (t : Template) (named others : List String)
    (components : List (String × String)) : Prop where
  /-- In the order of the text, each where it comes first. -/
  named_eq : named = (t.usings.map (·.module)).eraseDups
  others_ascending : others.Pairwise (· < ·)
  mem_others : ∀ m, m ∈ others ↔ m ∉ named ∧
    ∃ u ∈ t.uses, ∃ b, c.resolve u.name = some b ∧ b.isExternal = true ∧ b.module = m
  components_ascending : components.Pairwise fun a b => a.1 < b.1
  mem_components : ∀ n m, (n, m) ∈ components ↔ n ≠ componentName path ∧
    ∃ u ∈ t.uses, u.name = n ∧ ∃ b, c.resolve n = some b ∧ b.isExternal = false ∧ b.module = m

/-- The statements of the header after the fixed ones. -/
def neededImports (named others : List String) (components : List (String × String)) :
    List Statement :=
  named.map .importModule ++ others.map .importModule ++
    components.map fun (name, module) => .importFrom module [⟨name, none⟩]

/-- The import that a tag bound to `b` asks for. -/
def importFor (u : Use) (b : Binding) : Statement :=
  if b.isExternal then .importModule b.module else .importFrom b.module [⟨u.name, none⟩]

theorem header_eq (t : Template) (f : Findings) :
    header t f = fixedImports ++ neededImports (usedModules t)
      (Module.sortNames (f.externals.filter fun m => !(usedModules t).contains m))
      (sortImports f.imports.entries) := by
  rw [header, neededImports, List.map_append, List.append_assoc]

section Header

variable {c : Context} {path content : String} {t : Template} {p : Progress}

theorem needed_of_read (ht : Template.ofChars content.toList = .ok t)
    (hp : writeNodes c (componentName path) ⟨.empty, .empty⟩ t.body = .ok p) :
    Needed c path t (usedModules t)
      (Module.sortNames (p.findings.externals.filter fun m => !(usedModules t).contains m))
      (sortImports p.findings.imports.entries) where
  named_eq := usedModules_eq t
  others_ascending := by
    have hnodup : p.findings.externals.Nodup := by
      have hexternals := congrArg Findings.externals (findings_of_read ht hp)
      change p.findings.externals = _ at hexternals
      rw [hexternals]
      exact Findings.nodup_externals_foldl_meet t.uses _ List.nodup_nil
    exact Module.pairwise_sortNames (hnodup.filter _)
  mem_others m := by
    have hexternals := congrArg (fun f => m ∈ f.externals) (findings_of_read ht hp)
    simp only [Findings.externals_foldl_meet] at hexternals
    change (m ∈ p.findings.externals) = _ at hexternals
    rw [Module.sortNames, List.mem_mergeSort, List.mem_filter, hexternals, and_comm]
    simp [Findings.empty]
  components_ascending := Module.pairwise_mergeSort_of_nodup Prod.fst p.findings.imports.nodup
  mem_components n m := by
    rw [mem_componentImports ht hp]
    constructor
    · rintro ⟨u, hu, hname, b, hresolve, hdeclared, hother, hmodule⟩
      exact ⟨hother, u, hu, hname, b, hresolve, hdeclared, hmodule⟩
    · rintro ⟨hother, u, hu, hname, b, hresolve, hdeclared, hmodule⟩
      exact ⟨u, hu, hname, b, hresolve, hdeclared, hother, hmodule⟩

end Header

namespace Needed

variable {c : Context} {path : String} {t : Template} {named others : List String}
  {components : List (String × String)} (h : Needed c path t named others components)

include h

/-- Every tag that stands for something has the import it asks for, the component itself apart. -/
theorem mem_imports {u : Use} (hu : u ∈ t.uses) {b : Binding} (hresolve : c.resolve u.name = some b) :
    importFor u b ∈ neededImports named others components ∨
      b.isExternal = false ∧ u.name = componentName path := by
  rw [importFor, neededImports]
  cases hexternal : b.isExternal with
  | true =>
    refine .inl (List.mem_append_left _ (List.mem_append.mpr ?_))
    by_cases hnamed : b.module ∈ named
    · exact .inl (List.mem_map_of_mem hnamed)
    · exact .inr (List.mem_map_of_mem
        ((h.mem_others _).mpr ⟨hnamed, u, hu, b, hresolve, hexternal, rfl⟩))
  | false =>
    by_cases hown : u.name = componentName path
    · exact .inr ⟨rfl, hown⟩
    · exact .inl (List.mem_append_right _ (List.mem_map.mpr ⟨(u.name, b.module),
        (h.mem_components _ _).mpr ⟨hown, u, hu, rfl, b, hresolve, hexternal, rfl⟩, rfl⟩))

/-- No statement of the header is there twice. -/
theorem nodup_imports : (fixedImports ++ neededImports named others components).Nodup := by
  have hmodule : Function.Injective Statement.importModule := fun a b hab => by
    injection hab
  have hcomponent : Function.Injective fun e : String × String =>
      Statement.importFrom e.2 [⟨e.1, none⟩] := by
    intro a b hab
    simp only [Statement.importFrom.injEq, List.cons.injEq, Code.Imported.mk.injEq, and_true] at hab
    exact Prod.ext hab.2 hab.1
  have hnamed : named.Nodup := h.named_eq ▸ Module.nodup_eraseDups _
  have hothers : others.Nodup := h.others_ascending.imp String.ne_of_lt
  have hcomponents : components.Nodup :=
    h.components_ascending.imp fun {a b} hlt heq => String.ne_of_lt hlt (congrArg Prod.fst heq)
  have hmodules : (named.map Statement.importModule ++ others.map Statement.importModule).Nodup := by
    rw [← List.map_append]
    refine (List.nodup_append.mpr ⟨hnamed, hothers, fun a ha b hb heq => ?_⟩).map hmodule
    exact ((h.mem_others b).mp hb).1 (heq ▸ ha)
  -- The fixed imports bring in more than one name, or one that no tag has.
  have hfixed : ∀ s ∈ fixedImports, s ∉ neededImports named others components := by
    have htag : Template.isComponentTag "annotations" = false := by decide
    have hannotations (m : String) : ("annotations", m) ∉ components := by
      intro hmem
      obtain ⟨-, u, hu, hname, -⟩ := (h.mem_components _ _).mp hmem
      have hcomponent := Template.isComponentTag_of_mem_body t.body hu
      rw [hname, htag] at hcomponent
      cases hcomponent
    intro s hs
    simp only [fixedImports, List.mem_cons, List.not_mem_nil, or_false] at hs
    rcases hs with rfl | rfl
    · simp only [neededImports, List.mem_append, List.mem_map]
      rintro ((⟨m, -, hm⟩ | ⟨m, -, hm⟩) | ⟨⟨n, m⟩, hmem, hm⟩)
      · cases hm
      · cases hm
      · cases hm
        exact hannotations _ hmem
    · simp [neededImports]
  refine List.nodup_append.mpr ⟨by simp [fixedImports], ?_, fun a ha b hb heq => ?_⟩
  · refine List.nodup_append.mpr ⟨hmodules, hcomponents.map hcomponent, fun a ha b hb heq => ?_⟩
    subst heq
    rw [← List.map_append] at ha
    obtain ⟨m, -, rfl⟩ := List.mem_map.mp ha
    obtain ⟨e, -, he⟩ := List.mem_map.mp hb
    cases he
  · exact hfixed a ha (heq ▸ hb)

end Needed

/-- The header of every document imports what its template needs and nothing else, in the order that
is given: modules that the template names, other modules of external tags, and declared components.
Every tag of the template that stands for something, however deep, has the import it asks for, unless
it is the component of the document; and no import is there twice. -/
theorem header_of_document {c : Context} {path content : String} {document : Document}
    (h : Document.generate c path content = .ok document) :
    ∃ t named others components body,
      Template.ofChars content.toList = .ok t ∧
      document.code = Statement.text (fixedImports ++ neededImports named others components ++
        [componentClass t path body]) ∧
      Needed c path t named others components ∧
      (∀ u ∈ t.uses, ∀ b, c.resolve u.name = some b →
        importFor u b ∈ neededImports named others components ∨
          b.isExternal = false ∧ u.name = document.component) ∧
      (fixedImports ++ neededImports named others components).Nodup := by
  obtain ⟨t, ht, hcompile⟩ := generate_eq_ok h
  obtain ⟨p, hp, htext, hdocument⟩ := compile_eq_ok hcompile
  obtain ⟨-, -, -, -, hcode⟩ := moduleText_eq_ok htext
  have hneeded := needed_of_read ht hp
  have hcomponent : document.component = componentName path := by rw [hdocument]
  refine ⟨t, _, _, _, p.draft.finish, ht, ?_, hneeded, fun u hu b hresolve => ?_,
    hneeded.nodup_imports⟩
  · rw [hcode, moduleOf, header_eq]
  · rw [hcomponent]
    exact hneeded.mem_imports hu hresolve

/-- The page with a badge imports the module of the badge, and nothing else. -/
theorem header_of_document_badge : ∃ document t body,
    Document.generate widgetsContext "Page.tpl" badgeText = .ok document ∧
    document.code = Statement.text (fixedImports ++ [.importModule "widgets"] ++
      [componentClass t "Page.tpl" body]) := by
  obtain ⟨document, hdocument⟩ := exists_badgeDocument
  obtain ⟨t, named, others, components, body, ht, hcode, hneeded, -, -⟩ :=
    header_of_document hdocument
  obtain ⟨mark, place, hread⟩ := read_badgePage
  rw [hread, Except.ok.injEq] at ht
  subst ht
  have htag : Template.isComponentTag "widgets.Badge" = true := by decide
  have huses : (badgePage mark place).uses = [⟨place, "widgets.Badge", []⟩] := by
    simp [badgePage, Template.uses, Template.bodyUses, Template.Node.uses, htag]
  have hnamed : named = [] := hneeded.named_eq
  have hothers : others = ["widgets"] := by
    have hmem (m : String) : m ∈ others ↔ m = "widgets" := by
      have hexternal : badgeBinding.isExternal = true := rfl
      have hmodule : badgeBinding.module = "widgets" := rfl
      rw [hneeded.mem_others, hnamed, huses]
      simp only [List.not_mem_nil, not_false_eq_true, true_and, List.mem_singleton,
        exists_eq_left, resolve_badge, Option.some.injEq, exists_eq_left', hexternal, hmodule]
      exact eq_comm
    have hnodup : others.Nodup := hneeded.others_ascending.imp String.ne_of_lt
    exact List.perm_singleton.mp ((List.perm_ext_iff_of_nodup hnodup (List.nodup_singleton _)).mpr
      fun m => (hmem m).trans List.mem_singleton.symm)
  have hcomponents : components = [] := by
    refine List.eq_nil_iff_forall_not_mem.mpr fun e he => ?_
    obtain ⟨-, u, hu, hname, b, hresolve, hdeclared, -⟩ := (hneeded.mem_components e.1 e.2).mp he
    rw [huses, List.mem_singleton] at hu
    rw [← hname, hu, resolve_badge, Option.some.injEq] at hresolve
    rw [← hresolve] at hdeclared
    cases hdeclared
  rw [hnamed, hothers, hcomponents] at hcode
  exact ⟨document, _, body, hdocument, hcode⟩

end LivePreview.Component
