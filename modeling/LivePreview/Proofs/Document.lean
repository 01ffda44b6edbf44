import LivePreview.Component.Document
import LivePreview.Proofs.Shape

/-!
# What documents are made of

A document is the text of the statements that its template is compiled to, and these statements have
passed all checks. The class among them shows the same surface as the stub of the template, although
the two come from separate readings: the one of the whole template, the other of its declarations.
What the checks are is not said here.
-/

namespace LivePreview.Component

open LivePreview.Code (Expr Parameter Statement checkModule)

/-! ## Compiling -/

/-- The text of a module is that of statements which passed all checks. -/
theorem moduleText_eq_ok {path code : String} {ss : List Statement}
    (h : moduleText path ss = .ok code) :
    '\x00' ∉ path.toList ∧ blockConstantName? ss = none ∧ checkModule ss = .ok () ∧
      blockUnwritable? ss = none ∧ code = Statement.text ss := by
  unfold moduleText at h
  split at h
  · cases h
  · next hpath =>
    split at h
    · cases h
    · next hconstant =>
      split at h
      · cases h
      · next hcheck =>
        split at h
        · cases h
        · next hwritable =>
          rw [List.contains_iff_mem] at hpath
          exact ⟨hpath, hconstant, hcheck, hwritable, (Except.ok.inj h).symm⟩

/-- The statements of the module that a template is compiled to. -/
def moduleOf (t : Template) (path : String) (p : Progress) : List Statement :=
  header t p.findings ++ [componentClass t path p.draft.finish]

theorem import_of_mem_header {t : Template} {f : Findings} {s : Statement} (hs : s ∈ header t f) :
    (∃ m, s = .importModule m) ∨ ∃ m names, s = .importFrom m names := by
  simp only [header, fixedImports, List.mem_append, List.mem_cons, List.mem_map, List.not_mem_nil,
    or_false] at hs
  rcases hs with ((rfl | rfl) | ⟨m, -, rfl⟩) | ⟨⟨name, m⟩, -, rfl⟩
  · exact .inr ⟨_, _, rfl⟩
  · exact .inr ⟨_, _, rfl⟩
  · exact .inl ⟨m, rfl⟩
  · exact .inr ⟨m, _, rfl⟩

/-- A document holds the text of its module, and what was found out on the way. -/
theorem compile_eq_ok {c : Context} {t : Template} {path : String} {document : Document}
    (h : compile c t path = .ok document) :
    ∃ p, writeNodes c (componentName path) ⟨.empty, .empty⟩ t.body = .ok p ∧
      moduleText path (moduleOf t path p) = .ok document.code ∧
      document = {
        path := path
        component := componentName path
        code := document.code
        diagnostics := Diagnostic.sort (p.findings.diagnostics ++ unknownModules c t)
        components := p.findings.resolved
        version := c.generation } := by
  unfold compile at h
  split at h
  · cases h
  · next p hp =>
    obtain ⟨code, hcode, h⟩ := bind_eq_ok_iff.mp h
    cases h
    exact ⟨p, hp, hcode, rfl⟩

theorem generate_eq_ok {c : Context} {path content : String} {document : Document}
    (h : Document.generate c path content = .ok document) :
    ∃ t, Template.ofChars content.toList = .ok t ∧ compile c t path = .ok document := by
  unfold Document.generate at h
  split at h
  · next t ht => exact ⟨t, ht, h⟩
  · cases h

/-! ## Surfaces of classes -/

/-- A class that shows a surface: the four attributes of it, and then other members. -/
def surfaceClass (name path doc : String) (params : List (String × Option String))
    (required : List String) (members : List Statement) : Statement :=
  .classDef name baseName doc ([
    assignName "__source__" (.ofText path),
    assignName "__generated_module__" (.ofText (moduleName path)),
    assignName "__params__" (.tuple (params.map fun p => .tuple [.ofText p.1, optionalText p.2])),
    assignName "__required__" (.tuple (required.map .ofText))] ++ members)

theorem classDef_surface (t : Template) (name path doc : String) (members : List Statement) :
    Statement.classDef name baseName doc (surface t path ++ members) =
      surfaceClass name path doc (Surface.ofTemplate t path).params
        (Surface.ofTemplate t path).required members := by
  rw [surfaceClass, surface, Surface.ofTemplate, List.map_map, List.map_map]
  rfl

theorem text_ofTemplate (t : Template) (path : String) :
    (Shape.ofTemplate t path).text = Statement.text [
      surfaceClass (componentName path) path ("Declaration of " ++ path ++ ".")
        (Surface.ofTemplate t path).params (Surface.ofTemplate t path).required []] := by
  rw [← classDef_surface, List.append_nil, Shape.ofTemplate]

/-- The parameters of a component, as its initializer takes them. -/
def takenParams (t : Template) : List Parameter :=
  t.params.map fun p => ⟨p.name, true, p.hint.map (·.tree), p.default.map (·.tree)⟩

theorem initializer_eq (t : Template) : ∃ stores, initializer t =
    .function "__init__" (⟨"self", false, none, none⟩ :: takenParams t) stores := ⟨_, rfl⟩

/-- What is taken without a default is what the surface calls required. -/
theorem required_takenParams (t : Template) (path : String) :
    ((takenParams t).filter (·.default.isNone)).map (·.name) =
      (Surface.ofTemplate t path).required := by
  rw [takenParams, List.filter_map, List.map_map, Surface.ofTemplate]
  have hdefault : (fun p : Template.Param => (p.default.map (·.tree)).isNone) =
      Template.Param.required := by
    funext p
    rw [Template.Param.required, Option.isNone_map]
  exact congrArg (fun f => (t.params.filter f).map (·.name)) hdefault

/-- The reading of the declarations alone agrees with the reading of the whole template: it succeeds
where that does, with the same declarations. So the class of a document and the stub of its template
have the same name and show the same surface, and the class takes what it shows: every parameter by
keyword, those without a default being the required ones. -/
theorem surface_of_document (c : Context) (path content : String) :
    (∀ filename t, Template.ofText content filename = .ok t →
      Template.declarationsOfText content filename = .ok ⟨t.params, t.usings, []⟩) ∧
    (∀ filename f, Template.declarationsOfText content filename = .error f →
      ∃ g, Template.ofText content filename = .error g) ∧
    ∀ document, Document.generate c path content = .ok document →
      ∃ t shape findings taken stores render,
        Template.declarationsOfText content (some path) = .ok t ∧
        Shape.extract path content = .ok shape ∧
        document.component = shape.component ∧
        shape.text = Statement.text [
          surfaceClass shape.component path ("Declaration of " ++ path ++ ".")
            (Surface.ofTemplate t path).params (Surface.ofTemplate t path).required []] ∧
        document.code = Statement.text (header t findings ++ [
          surfaceClass document.component path ("Generated from " ++ path ++ ".")
            (Surface.ofTemplate t path).params (Surface.ofTemplate t path).required [
              .function "__init__" (⟨"self", false, none, none⟩ :: taken) stores, render]]) ∧
        taken.map (fun p => (p.name, p.byKeyword)) = t.params.map (fun p => (p.name, true)) ∧
        (taken.filter (·.default.isNone)).map (·.name) = (Surface.ofTemplate t path).required := by
  refine ⟨fun filename t ht => ?_, fun filename f hf => ?_, fun document hdocument => ?_⟩
  · exact Template.declarationsOfText_of_ofText ht
  · cases ht : Template.ofText content filename with
    | error g => exact ⟨g, rfl⟩
    | ok t =>
      rw [Template.declarationsOfText_of_ofText ht] at hf
      cases hf
  · obtain ⟨t, ht, hcompile⟩ := generate_eq_ok hdocument
    obtain ⟨p, -, htext, hdocument⟩ := compile_eq_ok hcompile
    obtain ⟨-, -, -, -, hcode⟩ := moduleText_eq_ok htext
    have hread := Template.declarationsOfChars_of_ofChars ht
    have hcomponent : document.component = componentName path := by rw [hdocument]
    -- The surface is a matter of the parameters, so that the body left out does not show.
    have hsurface : Surface.ofTemplate ⟨t.params, t.usings, []⟩ path = Surface.ofTemplate t path := by
      rw [Surface.ofTemplate, Surface.ofTemplate]
    obtain ⟨stores, hinitializer⟩ := initializer_eq t
    refine ⟨⟨t.params, t.usings, []⟩, .ofTemplate ⟨t.params, t.usings, []⟩ path, p.findings,
      takenParams t, stores, renderer t p.draft.finish, ?_, ?_, ?_, ?_, ?_, ?_, ?_⟩
    · rw [Template.declarationsOfText, hread]
      rfl
    · rw [Shape.extract, hread]
    · rw [hcomponent, component_ofTemplate]
    · rw [text_ofTemplate, component_ofTemplate]
    · rw [hcode, moduleOf, componentClass, classDef_surface, hinitializer, hcomponent, hsurface]
      rfl
    · rw [takenParams, List.map_map]
      rfl
    · rw [hsurface]
      exact required_takenParams t path

end LivePreview.Component
