import LivePreview.Proofs.Document
import LivePreview.Proofs.Refusals
import LivePreview.Proofs.Resolution
import LivePreview.Proofs.Uses

/-!
# The class that a tag calls

A generated module has the class of a component from another module, or makes it itself. Where a tag
is bound to a declared component, it calls the class from the module of this very component, with one
exception. A component never imports its own name, and its own class is then what the tag calls, even
where the name is bound to a later declaration of another path, against which the tag was checked.
-/

namespace LivePreview.Component

open LivePreview.Code (Expr Statement)

/-! ## Names in generated modules -/

/-- The module that a statement imports a name from. -/
def importedFrom? (name : String) : Statement → Option String
  | .importFrom module names =>
    if names.any fun i => i.renamed.getD i.name = name then some module else none
  | _ => none

/-- Where the class lies that a name stands for in the module of a path: in the module it is imported
from, or else in this module itself. -/
def classHome (path : String) (statements : List Statement) (name : String) : String :=
  (statements.findSome? (importedFrom? name)).getD (moduleName path)

/-- The names that every generated module imports. -/
def fixedNames : List String :=
  ["annotations", baseName, "_Markup", "_escape", "_render_component"]

theorem importedFrom?_fixedImports {name : String} (h : name ∉ fixedNames) :
    fixedImports.findSome? (importedFrom? name) = none := by
  simp only [fixedNames, List.mem_cons, List.not_mem_nil, or_false, not_or] at h
  simp [fixedImports, importedFrom?, Ne.symm h.1, Ne.symm h.2.1, Ne.symm h.2.2.1,
    Ne.symm h.2.2.2.1, Ne.symm h.2.2.2.2]

theorem importedFrom?_map (name : String) (imports : List (String × String)) :
    (imports.map fun (n, module) => Statement.importFrom module [⟨n, none⟩]).findSome?
      (importedFrom? name) = (imports.find? fun e => e.1 = name).map (·.2) := by
  induction imports with
  | nil => rfl
  | cons e imports ih =>
    obtain ⟨n, module⟩ := e
    by_cases h : n = name
    · simp [importedFrom?, h]
    · simpa [importedFrom?, h] using ih

theorem find?_sortImports (t : Table String String) (name : String) :
    ((sortImports t.entries).find? fun e => e.1 = name).map (·.2) = t.get? name := by
  have hperm : (sortImports t.entries).Perm t.entries := List.mergeSort_perm _ _
  let sorted : Table String String :=
    ⟨sortImports t.entries, (hperm.map (·.1)).nodup_iff.mpr t.nodup⟩
  change sorted.get? name = t.get? name
  apply Option.ext
  intro module
  rw [← Table.mem_entries_iff, ← Table.mem_entries_iff]
  exact hperm.mem_iff

/-- A name that is not among the fixed ones comes from where the findings say. -/
theorem classHome_moduleOf (t : Template) (path : String) (p : Progress) {name : String}
    (h : name ∉ fixedNames) : classHome path (moduleOf t path p) name =
      (p.findings.imports.get? name).getD (moduleName path) := by
  have hmodules (ms : List String) :
      (ms.map Statement.importModule).findSome? (importedFrom? name) = none := by
    rw [List.findSome?_eq_none_iff]
    intro s hs
    obtain ⟨m, -, rfl⟩ := List.mem_map.mp hs
    rfl
  have hclass : [componentClass t path p.draft.finish].findSome? (importedFrom? name) = none := rfl
  rw [classHome, moduleOf, header]
  simp only [List.findSome?_append, importedFrom?_fixedImports h, hmodules, hclass,
    importedFrom?_map, find?_sortImports, Option.none_or, Option.or_none]

/-- No tag of a declared component has a fixed name. -/
theorem notMem_fixedNames {path name : String} (htag : Template.isComponentTag name = true)
    (hname : name = componentName path) : name ∉ fixedNames := by
  intro h
  have hfixed : ∀ n ∈ fixedNames, n = baseName ∨ Template.isComponentTag n = false := by decide
  rcases hfixed name h with hbase | hno
  · rw [hname] at hbase
    exact componentName_ne_baseName path hbase
  · rw [hno] at htag
    cases htag

/-! ## Tags of a document -/

/-- What a document does with its tags. Its diagnostics are those of the tags, each checked against
what it is bound to. A tag that is bound to a declared component calls the class of its name. Unless
this is the own name of the document, the class lies in the module of the component that the tag is
bound to. For the own name it lies in the module of the document, while the tag is bound to the last
declaration of the name: the two are the same exactly when that one has the module of the document. -/
theorem class_of_tag {before c : Context} {shapes : Table String Shape} {log : Log}
    (hrun : before.run = Stub.runText) (hshapes : Aggregate.Extracted shapes)
    (hbuilt : before.rebuild shapes = (log, .ok c)) {path content : String} {document : Document}
    (hdocument : Document.generate c path content = .ok document) :
    ∃ t p, Template.ofChars content.toList = .ok t ∧
      writeNodes c (componentName path) ⟨.empty, .empty⟩ t.body = .ok p ∧
      document.code = Statement.text (moduleOf t path p) ∧
      document.diagnostics =
        Diagnostic.sort (t.uses.flatMap (useDiagnostics c) ++ unknownModules c t) ∧
      ∀ u ∈ t.uses, ∀ b, c.resolve u.name = some b → b.isExternal = false →
        targetOf u.name b = .ok (.name u.name) ∧
        (u.name ≠ componentName path →
          classHome path (moduleOf t path p) u.name = b.module) ∧
        (u.name = componentName path →
          classHome path (moduleOf t path p) u.name = moduleName path ∧
          ∃ first e others, shapes.entries = first ++ e :: others ∧ e.2.component = u.name ∧
            (∀ o ∈ others, o.2.component ≠ u.name) ∧ b.module = moduleName e.2.path) := by
  obtain ⟨t, ht, hcompile⟩ := generate_eq_ok hdocument
  obtain ⟨p, hp, htext, hfields⟩ := compile_eq_ok hcompile
  obtain ⟨-, -, -, -, hcode⟩ := moduleText_eq_ok htext
  refine ⟨t, p, ht, hp, hcode, ?_, ?_⟩
  · rw [hfields, diagnostics_of_read ht hp]
  · intro u hu b hresolve hdeclared
    obtain ⟨first, e, others, hentries, hcomponent, hlast, hmodule⟩ :=
      module_of_declared hrun (congrArg Prod.snd hbuilt) hshapes hresolve hdeclared
    have he : e ∈ shapes.entries := by
      rw [hentries]
      exact List.mem_append_right _ List.mem_cons_self
    obtain ⟨declaring, hdeclaring⟩ := Aggregate.component_of_extracted hshapes he
    have hfixed : u.name ∉ fixedNames :=
      notMem_fixedNames (Template.isComponentTag_of_mem_body t.body hu)
        (hcomponent.symm.trans hdeclaring)
    have himport : p.findings.imports.get? u.name = importOf? c (componentName path) u.name := by
      rw [imports_of_read ht hp, if_pos ⟨u, hu, rfl⟩]
    have hhome := classHome_moduleOf t path p hfixed
    rw [himport, importOf?, hresolve] at hhome
    refine ⟨by rw [targetOf, hdeclared]; rfl, fun hother => ?_, fun hown => ⟨?_, ?_⟩⟩
    · simpa [hdeclared, hother] using hhome
    · simpa [hdeclared, hown] using hhome
    · exact ⟨first, e, others, hentries, hcomponent, hlast, hmodule⟩

/-! ## Two cards -/

/-- A card that calls a card. -/
def callingCard (place : Template.Position) : Template :=
  ⟨[], [], [.element place "Card" [] [] .slash]⟩

/-- A body with a single card in it, to which nothing is given. -/
def isCallingBody : List Template.Node → Bool
  | [.element _ "Card" [] [] .slash] => true
  | _ => false

theorem read_callingCard :
    ∃ place, Template.ofChars "<Card />".toList = .ok (callingCard place) := by
  have hread : (Template.ofChars "<Card />".toList).toOption.map (fun t =>
      t.params.isEmpty && t.usings.isEmpty && isCallingBody t.body) = some true := by
    decide +kernel
  cases ht : Template.ofChars "<Card />".toList with
  | error objection =>
    rw [ht] at hread
    cases hread
  | ok t =>
    obtain ⟨params, usings, body⟩ := t
    rw [ht] at hread
    have hparts := Option.some.inj hread
    rw [Bool.and_eq_true, Bool.and_eq_true, List.isEmpty_iff, List.isEmpty_iff] at hparts
    obtain ⟨⟨rfl, rfl⟩, hbody⟩ := hparts
    change isCallingBody body = true at hbody
    unfold isCallingBody at hbody
    split at hbody
    · next place => exact ⟨place, rfl⟩
    · cases hbody

theorem use_callingCard (place : Template.Position) :
    ⟨place, "Card", []⟩ ∈ (callingCard place).uses := by
  have htag : Template.isComponentTag "Card" = true := by decide
  simp [callingCard, Template.uses, Template.bodyUses, Template.Node.uses, htag]

/-- Shapes of a card that calls a card, and of a later one with a parameter. -/
def twoCards (place : Template.Position) (later : Template) : Table String Shape where
  entries := [("a/Card.tpl", .ofTemplate (callingCard place) "a/Card.tpl"),
    ("b/Card.tpl", .ofTemplate later "b/Card.tpl")]
  nodup := by simp

theorem names_twoCards : ∀ path ∈ ["a/Card.tpl", "b/Card.tpl"], componentName path = "Card" ∧
    '\x00' ∉ path.toList := by
  decide +kernel

theorem declares_card : Text.isIdentifier "Card".toList = true ∧ Text.isKeyword "Card" = false ∧
    Text.normalForm "Card" = "Card" := by
  decide +kernel

theorem exists_rebuild_twoCards (place : Template.Position) (later : Template) :
    ∃ log c, (Context.new [] "declarations").rebuild (twoCards place later) = (log, .ok c) := by
  have hshape (path : String) (hpath : path ∈ ["a/Card.tpl", "b/Card.tpl"]) (t : Template) :
      Aggregate.Declares Stub.runText (path, .ofTemplate t path) := by
    obtain ⟨hname, hnull⟩ := names_twoCards path hpath
    obtain ⟨hidentifier, hkeyword, hnormal⟩ := declares_card
    rw [← hname] at hidentifier hkeyword hnormal
    exact declares_ofTemplate hnull hidentifier hkeyword hnormal t
  refine exists_rebuild (List.forall_mem_cons.mpr ⟨hshape _ (by decide) _, ?_⟩)
  exact List.forall_mem_cons.mpr ⟨hshape _ (by decide) _, fun e he => absurd he List.not_mem_nil⟩

/-- What the calling card is written as. -/
theorem writeNodes_callingCard {c : Context} {b : Binding} (place : Template.Position)
    (hresolve : c.resolve "Card" = some b) (hdeclared : b.isExternal = false) :
    ∃ p, writeNodes c "Card" ⟨.empty, .empty⟩ (callingCard place).body = .ok p ∧
      p.draft.finish =
        [Draft.appending (renderCall (.name "Card") [] (.constant .none))] ∧
      p.findings.externals = [] ∧ p.findings.imports = ∅ := by
  have hbinding : binding? c "Card" = some b := by
    rw [binding?, if_pos (by decide), hresolve]
  simp only [callingCard, writeNodes, writeNode, hbinding, targetOf, hdeclared,
    Findings.use_eq]
  exact ⟨_, rfl, rfl, rfl, rfl⟩

/-- The module that the calling card is compiled to. -/
def callingModule : List Statement :=
  fixedImports ++ [componentClass ⟨[], [], []⟩ "a/Card.tpl"
    [Draft.appending (renderCall (.name "Card") [] (.constant .none))]]

theorem text_callingModule :
    moduleText "a/Card.tpl" callingModule = .ok (Statement.text callingModule) :=
  moduleText_of_unrefusable (by decide +kernel) (by decide +kernel) (by decide +kernel)

theorem exists_document {c : Context} {b : Binding} (hresolve : c.resolve "Card" = some b)
    (hdeclared : b.isExternal = false) :
    ∃ document, Document.generate c "a/Card.tpl" "<Card />" = .ok document := by
  obtain ⟨place, hread⟩ := read_callingCard
  obtain ⟨p, hp, hdraft, hexternals, himports⟩ := writeNodes_callingCard place hresolve hdeclared
  have hheader : header (callingCard place) p.findings = fixedImports := by
    have hentries : p.findings.imports.entries = [] := by rw [himports]; rfl
    simp [header, usedModules, callingCard, hexternals, hentries, Module.sortNames, sortImports]
  have hclass : componentClass (callingCard place) "a/Card.tpl" p.draft.finish =
      componentClass ⟨[], [], []⟩ "a/Card.tpl"
        [Draft.appending (renderCall (.name "Card") [] (.constant .none))] := by
    rw [hdraft]
    rfl
  have htext := text_callingModule
  rw [callingModule, ← hclass, ← hheader] at htext
  rw [← (names_twoCards "a/Card.tpl" (by decide)).1] at hp
  rw [Document.generate, hread]
  simp only [compile, hp, htext]
  exact ⟨_, rfl⟩

/-- The first card is compiled against the later one. -/
theorem exists_twoCards : ∃ place later log c b document,
    Template.ofChars "<Card />".toList = .ok (callingCard place) ∧
    Aggregate.Extracted (twoCards place later) ∧
    (Context.new [] "declarations").rebuild (twoCards place later) = (log, .ok c) ∧
    c.resolve "Card" = some b ∧ b.isExternal = false ∧ b.module = "b.Card" ∧
    b.required = ["x"] ∧
    Document.generate c "a/Card.tpl" "<Card />" = .ok document := by
  obtain ⟨place, hread⟩ := read_callingCard
  have hrequired : (Template.declarationsOfChars "@param x".toList).toOption.map (fun t =>
      (t.params.filter (·.required)).map (·.name)) = some ["x"] := by
    decide +kernel
  cases hlaterRead : Template.declarationsOfChars "@param x".toList with
  | error objection =>
    rw [hlaterRead] at hrequired
    cases hrequired
  | ok later =>
    rw [hlaterRead] at hrequired
    have hlater : (later.params.filter (·.required)).map (·.name) = ["x"] :=
      Option.some.inj hrequired
    have hfirst : Shape.extract "a/Card.tpl" "<Card />" =
        .ok (.ofTemplate (callingCard place) "a/Card.tpl") := by
      rw [Shape.extract, Template.declarationsOfChars_of_ofChars hread]
      rfl
    have hlast : Shape.extract "b/Card.tpl" "@param x" = .ok (.ofTemplate later "b/Card.tpl") := by
      rw [Shape.extract, hlaterRead]
    have hshapes : Aggregate.Extracted (twoCards place later) :=
      List.forall_mem_cons.mpr ⟨⟨_, _, hfirst⟩, List.forall_mem_cons.mpr
        ⟨⟨_, _, hlast⟩, fun e he => absurd he List.not_mem_nil⟩⟩
    obtain ⟨log, c, hbuilt⟩ := exists_rebuild_twoCards place later
    have hentries : (twoCards place later).entries =
        [("a/Card.tpl", .ofTemplate (callingCard place) "a/Card.tpl")] ++
          ("b/Card.tpl", .ofTemplate later "b/Card.tpl") :: [] := rfl
    obtain ⟨t, ht, hresolve⟩ := resolve_of_last rfl (congrArg Prod.snd hbuilt) hentries
      (fun o ho => absurd ho List.not_mem_nil) hlast
    rw [hlaterRead, Except.ok.injEq] at ht
    subst ht
    have hmodule : moduleName "b/Card.tpl" = "b.Card" := by decide +kernel
    rw [component_ofTemplate, (names_twoCards "b/Card.tpl" (by decide)).1, ofSurface_ofTemplate,
      hmodule, hlater] at hresolve
    obtain ⟨document, hdocument⟩ := exists_document hresolve rfl
    exact ⟨place, later, log, c, _, document, hread, hshapes, hbuilt, hresolve, rfl, rfl, rfl,
      hdocument⟩

/-- The card calls itself, while its tag is checked against the later card. -/
theorem class_of_tag_twoCards : ∃ shapes log c document b t p,
    Aggregate.Extracted shapes ∧
    (Context.new [] "declarations").rebuild shapes = (log, .ok c) ∧
    Document.generate c "a/Card.tpl" "<Card />" = .ok document ∧
    document.code = Statement.text (moduleOf t "a/Card.tpl" p) ∧
    c.resolve "Card" = some b ∧ b.module = "b.Card" ∧
    (∃ place, .missingParameter place "Card" "x" ∈ document.diagnostics) ∧
    classHome "a/Card.tpl" (moduleOf t "a/Card.tpl" p) "Card" = "a.Card" := by
  obtain ⟨place, later, log, c, b, document, hread, hshapes, hbuilt, hresolve, hdeclared, hmodule,
    hrequired, hdocument⟩ := exists_twoCards
  obtain ⟨t, p, ht, -, hcode, hdiagnostics, htags⟩ := class_of_tag rfl hshapes hbuilt hdocument
  rw [hread, Except.ok.injEq] at ht
  subst ht
  obtain ⟨-, -, hown⟩ := htags _ (use_callingCard place) b hresolve hdeclared
  have hname : "Card" = componentName "a/Card.tpl" := (names_twoCards _ (by decide)).1.symm
  have hhome := (hown hname).1
  have hself : moduleName "a/Card.tpl" = "a.Card" := by decide +kernel
  rw [hself] at hhome
  have hmissing : .missingParameter place "Card" "x" ∈ document.diagnostics := by
    rw [hdiagnostics, Diagnostic.sort, List.mem_mergeSort, List.mem_append, List.mem_flatMap]
    refine .inl ⟨_, use_callingCard place, ?_⟩
    simp [useDiagnostics, hresolve, misfits, hdeclared, hrequired]
  exact ⟨_, log, c, document, b, _, p, hshapes, hbuilt, hdocument, hcode, hresolve, hmodule,
    ⟨place, hmissing⟩, hhome⟩

/-- A tag may be checked against one class and call another. -/
theorem class_of_tag_not_bound :
    ¬ ∀ (before c : Context) (shapes : Table String Shape) (log : Log), before.run = Stub.runText →
      Aggregate.Extracted shapes → before.rebuild shapes = (log, .ok c) →
      ∀ (path content : String) (document : Document),
        Document.generate c path content = .ok document →
        ∀ t p, Template.ofChars content.toList = .ok t →
          writeNodes c (componentName path) ⟨.empty, .empty⟩ t.body = .ok p →
          ∀ u ∈ t.uses, ∀ b, c.resolve u.name = some b → b.isExternal = false →
            classHome path (moduleOf t path p) u.name = b.module := by
  intro hclaim
  obtain ⟨place, later, log, c, b, document, hread, hshapes, hbuilt, hresolve, hdeclared, hmodule, -,
    hdocument⟩ := exists_twoCards
  obtain ⟨p, hp, -, -, himports⟩ := writeNodes_callingCard place hresolve hdeclared
  rw [← (names_twoCards "a/Card.tpl" (by decide)).1] at hp
  have hhome := hclaim _ c _ log rfl hshapes hbuilt _ _ document hdocument _ p hread hp _
    (use_callingCard place) b hresolve hdeclared
  have hfixed : "Card" ∉ fixedNames := by decide
  rw [classHome_moduleOf _ _ p hfixed, himports, hmodule] at hhome
  have hself : moduleName "a/Card.tpl" = "a.Card" := by decide +kernel
  change moduleName "a/Card.tpl" = "b.Card" at hhome
  rw [hself] at hhome
  exact absurd hhome (by decide)

end LivePreview.Component
