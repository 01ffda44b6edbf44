import LivePreview.Proofs.Aggregate
import LivePreview.Proofs.Signature
import LivePreview.Proofs.Stub
import Mathlib.Data.List.Nodup

/-!
# What shapes say

A shape that can be run declares the surface of its template, and the text of a shape says neither
more nor less than the path and the signature: every change of these changes the text, and no other
change does.
-/

namespace LivePreview.Component

open LivePreview.Code (Statement)

/-! ## Running shapes -/

@[simp] theorem component_ofTemplate (t : Template) (path : String) :
    (Shape.ofTemplate t path).component = componentName path := by
  rw [Shape.ofTemplate]

/-- A shape defines its component exactly when the name is an identifier in normal form. -/
theorem runText_ofTemplate (t : Template) (path : String) :
    Stub.runText (Shape.ofTemplate t path).text (componentName path) =
      if Text.isIdentifier (componentName path).toList && !Text.isKeyword (componentName path) then
        some (.ok (if Text.normalForm (componentName path) = componentName path then
          .component (Surface.ofTemplate t path) else .nothing))
      else none := by
  rw [Stub.runText_eq, ofChars?_text]
  split
  · rw [Option.map_some, Stub.run, if_pos rfl, Stub.unset,
      if_neg (componentName_ne_baseName path)]
  · rfl

theorem definition_ofTemplate {t : Template} {path : String} {d : Definition}
    (h : Stub.runText (Shape.ofTemplate t path).text (componentName path) = some (.ok d)) :
    d = .component (Surface.ofTemplate t path) ∨ d = .nothing := by
  rw [runText_ofTemplate] at h
  split at h
  · split at h
    · exact .inl (Except.ok.inj (Option.some.inj h)).symm
    · exact .inr (Except.ok.inj (Option.some.inj h)).symm
  · exact absurd h.symm (Option.some_ne_none _)

/-- A shape that can be run declares the surface of its template, whatever it is kept under. -/
theorem declared_ofTemplate {t : Template} {path key : String} {member : Option Surface}
    (h : Aggregate.declared Stub.runText key (Shape.ofTemplate t path) = .ok member) :
    member = some (Surface.ofTemplate t path) := by
  rcases Aggregate.declared_eq_ok h with ⟨hrun, -⟩ | ⟨s, hrun, hs⟩ <;>
    rw [component_ofTemplate] at hrun
  · rcases definition_ofTemplate hrun with h | h <;> exact Definition.noConfusion h
  · rcases definition_ofTemplate hrun with h | h
    · rw [hs, Definition.component.inj h]
    · exact Definition.noConfusion h

/-- The path alone decides whether a shape can be built: it has no null character, and its name is
an identifier in normal form. -/
theorem declares_ofTemplate {path : String} (hnull : '\x00' ∉ path.toList)
    (hidentifier : Text.isIdentifier (componentName path).toList = true)
    (hkeyword : Text.isKeyword (componentName path) = false)
    (hnormal : Text.normalForm (componentName path) = componentName path) (t : Template) :
    Aggregate.Declares Stub.runText (path, .ofTemplate t path) := by
  have hrun : Stub.runText (Shape.ofTemplate t path).text (componentName path) =
      some (.ok (.component (Surface.ofTemplate t path))) := by
    rw [runText_ofTemplate, hidentifier, hkeyword, if_pos hnormal]
    rfl
  obtain ⟨hdict, hclass⟩ := componentName_ne_unset path
  rw [← component_ofTemplate t path] at hrun hdict hclass
  exact ⟨_, Aggregate.declared_of_component hnull (null_notMem_text t path) hrun hdict hclass⟩

/-! ## Texts of shapes -/

/-- Behind the name of the component a stub goes on with the parenthesis. -/
theorem dropWhile_componentName (path : String) (rest : List Char) :
    ((componentName path).toList ++ '(' :: rest).dropWhile (· ≠ '(') = '(' :: rest := by
  have hname : ∀ c ∈ (componentName path).toList, decide (c ≠ '(') = true := by
    intro c hc
    rw [decide_eq_true_iff]
    rintro rfl
    exact absurd ((wordlike_componentName path).2 '(' hc) (by decide)
  rw [List.dropWhile_append_of_pos hname, List.dropWhile_cons_of_neg (by decide)]

/-- The text of a shape says exactly what its surface is. -/
theorem text_ofTemplate_eq_iff {t u : Template} {path other : String} :
    (Shape.ofTemplate t path).text = (Shape.ofTemplate u other).text ↔
      Surface.ofTemplate t path = Surface.ofTemplate u other := by
  rw [← String.toList_inj, toList_text_ofTemplate, toList_text_ofTemplate,
    List.append_cancel_left_eq]
  constructor
  · intro h
    have hbehind := congrArg (List.dropWhile (· ≠ '(')) h
    simp only [List.cons_append, List.nil_append, dropWhile_componentName] at hbehind
    have hbody : writtenBody t path = writtenBody u other := by
      simpa only [List.cons.injEq, true_and, List.append_cancel_left_eq] using hbehind
    have hread := surface_writtenBody t path
    rw [hbody, surface_writtenBody] at hread
    exact (congrArg Prod.fst (Option.some.inj hread)).symm
  · intro h
    have hpath : path = other := Option.some.inj (congrArg Surface.source h)
    subst hpath
    have hlines : Statement.blockLines 1 (surface t path) =
        Statement.blockLines 1 (surface u path) := by
      rw [blockLines_surface, blockLines_surface, h]
    rw [writtenBody, writtenBody, hlines]

/-! ## Surfaces and signatures -/

theorem params_ofTemplate (t : Template) (path : String) :
    (Surface.ofTemplate t path).params = t.signature.map fun p => (p.1, p.2.1) := by
  rw [Surface.ofTemplate, Template.signature, List.map_map]
  rfl

theorem required_ofTemplate (t : Template) (path : String) :
    (Surface.ofTemplate t path).required =
      (t.signature.filter fun p => !p.2.2).map (·.1) := by
  rw [Surface.ofTemplate, Template.signature, List.filter_map, List.map_map]
  have hdefault : (fun p : Template.Param => !p.default.isSome) = Template.Param.required := by
    funext p
    rw [Template.Param.required, Option.not_isSome]
  exact congrArg (fun f => (t.params.filter f).map (·.name)) hdefault.symm

/-- As names do not come twice, the names of the required parameters tell which these are. -/
theorem signature_ofSurface {t : Template} (ht : (t.params.map (·.name)).Nodup) (path : String) :
    t.signature = (Surface.ofTemplate t path).params.map fun p =>
      (p.1, p.2, !(Surface.ofTemplate t path).required.contains p.1) := by
  rw [Template.signature, Surface.ofTemplate, List.map_map]
  refine List.map_congr_left fun p hp => ?_
  have hrequired : ((t.params.filter (·.required)).map (·.name)).contains p.name = p.required := by
    rw [Bool.eq_iff_iff, List.contains_iff_mem, List.mem_map]
    constructor
    · rintro ⟨q, hq, hname⟩
      obtain ⟨hmem, hrequired⟩ := List.mem_filter.mp hq
      rwa [List.inj_on_of_nodup_map ht hp hmem hname.symm]
    · exact fun h => ⟨p, List.mem_filter.mpr ⟨hp, h⟩, rfl⟩
  simp only [Function.comp_apply, hrequired]
  rw [Template.Param.required, Option.not_isNone]

theorem ofTemplate_eq_iff {t u : Template} {path other : String}
    (ht : (t.params.map (·.name)).Nodup) (hu : (u.params.map (·.name)).Nodup) :
    Surface.ofTemplate t path = Surface.ofTemplate u other ↔
      path = other ∧ t.signature = u.signature := by
  constructor
  · intro h
    refine ⟨Option.some.inj (congrArg Surface.source h), ?_⟩
    rw [signature_ofSurface ht path, signature_ofSurface hu other, h]
  · rintro ⟨rfl, hsignature⟩
    have hparams := params_ofTemplate t path
    have hrequired := required_ofTemplate t path
    rw [hsignature, ← params_ofTemplate u path] at hparams
    rw [hsignature, ← required_ofTemplate u path] at hrequired
    rw [Surface.ofTemplate, Surface.mk.injEq]
    exact ⟨rfl, rfl, hparams, hrequired⟩

/-! ## Extracted shapes -/

theorem extract_eq_ok {path content : String} {shape : Shape}
    (h : Shape.extract path content = .ok shape) :
    ∃ t, Template.declarationsOfChars content.toList = .ok t ∧ shape = .ofTemplate t path := by
  unfold Shape.extract at h
  split at h
  · next t ht => exact ⟨t, ht, (Except.ok.inj h).symm⟩
  · cases h

/-- The text tells all of a shape that was extracted for a path. -/
theorem shape_eq_of_text {path content other : String} {shape old : Shape}
    (hshape : Shape.extract path content = .ok shape) (hold : Shape.extract path other = .ok old)
    (htext : old.text = shape.text) : old = shape := by
  obtain ⟨t, -, rfl⟩ := extract_eq_ok hshape
  obtain ⟨u, -, rfl⟩ := extract_eq_ok hold
  rw [Shape.ofTemplate, Shape.ofTemplate, Shape.mk.injEq]
  exact ⟨rfl, rfl, htext⟩

theorem text_eq_iff {path other content text : String} {shape another : Shape}
    (hshape : Shape.extract path content = .ok shape)
    (hanother : Shape.extract other text = .ok another) :
    shape.text = another.text ↔
      path = other ∧ Template.signature? content = Template.signature? text := by
  obtain ⟨t, ht, rfl⟩ := extract_eq_ok hshape
  obtain ⟨u, hu, rfl⟩ := extract_eq_ok hanother
  rw [text_ofTemplate_eq_iff, Template.signature?_of_read ht, Template.signature?_of_read hu,
    ofTemplate_eq_iff (Template.nodup_params_of_read ht) (Template.nodup_params_of_read hu),
    Option.some.injEq]

/-- What a component stands for behind a rebuild: exactly the surface of the last template that
declares it, whatever characters the path and the hints are made of. -/
theorem resolve_rebuild {c next : Context} {shapes : Table String Shape} {path content : String}
    {shape : Shape} {first others : List (String × Shape)} (hrun : c.run = Stub.runText)
    (hshape : Shape.extract path content = .ok shape)
    (hentries : shapes.entries = first ++ (path, shape) :: others)
    (hlast : ∀ e ∈ others, e.2.component ≠ componentName path)
    (hnext : (c.rebuild shapes).2 = .ok next) :
    ∃ t, Template.declarationsOfChars content.toList = .ok t ∧
      next.resolve (componentName path) = some {
        name := componentName path
        module := moduleName path
        source := some path
        params := some (t.params.map fun p => (p.name, p.hint.map (·.source)))
        required := (t.params.filter (·.required)).map (·.name) } := by
  obtain ⟨t, ht, rfl⟩ := extract_eq_ok hshape
  obtain ⟨a, ha, rfl⟩ := Context.rebuild_eq_ok hnext
  have hdeclared : Aggregate.Declares c.run (path, .ofTemplate t path) := by
    refine Aggregate.build_eq_ok_iff.mp ⟨a, ha⟩ _ ?_
    rw [hentries]
    exact List.mem_append_right _ List.mem_cons_self
  obtain ⟨member, hmember⟩ := hdeclared
  have hsurface : a.surface? (componentName path) = some (Surface.ofTemplate t path) := by
    rw [Aggregate.surface?_build ha,
      Aggregate.lastDeclared_of_last hentries (component_ofTemplate t path) hlast, hmember]
    rw [hrun] at hmember
    rw [declared_ofTemplate hmember]
    rfl
  have hmodule : (moduleName path).isEmpty = false := by
    rw [← Bool.not_eq_true, String.isEmpty_iff]
    exact moduleName_ne_empty path
  refine ⟨t, ht, ?_⟩
  rw [Context.resolve, modulePart?_componentName, hsurface, Option.map_some, Binding.ofSurface,
    Surface.ofTemplate]
  simp only [hmodule, Bool.false_eq_true, if_false]

/-- One template with quotes of all kinds, a backslash, a line break and an accent in its path and
its hints. -/
theorem resolve_rebuild_quotes :
    let path := "it's \"\"\"\n\\Card.tpl"
    let content := "@param kind: Literal['\\n', \"\\\"é\"] = 'x'\n@param z"
    ∃ shape next, Shape.extract path content = .ok shape ∧
      ((Context.new [] "declarations").rebuild (Table.ofList [(path, shape)])).2 = .ok next ∧
      next.resolve "Card" = some {
        name := "Card"
        module := "it_s_____.Card"
        source := some path
        params := some [("kind", some "Literal['\\n', \"\\\"é\"]"), ("z", none)]
        required := ["z"] } := by
  intro path content
  have hdeclared : (Template.declarationsOfChars content.toList).toOption.map (fun t =>
      (t.params.map fun p => (p.name, p.hint.map (·.source)),
        (t.params.filter (·.required)).map (·.name))) =
      some ([("kind", some "Literal['\\n', \"\\\"é\"]"), ("z", none)], ["z"]) := by
    decide +kernel
  have hname : componentName path = "Card" := by decide +kernel
  have hmodule : moduleName path = "it_s_____.Card" := by decide +kernel
  cases ht : Template.declarationsOfChars content.toList with
  | error objection =>
    rw [ht] at hdeclared
    cases hdeclared
  | ok t =>
    have hshape : Shape.extract path content = .ok (.ofTemplate t path) := by
      rw [Shape.extract, ht]
    have hentries : (Table.ofList [(path, Shape.ofTemplate t path)]).entries =
      [] ++ (path, .ofTemplate t path) :: [] := rfl
    have hbuilt : ∃ next, ((Context.new [] "declarations").rebuild
        (Table.ofList [(path, Shape.ofTemplate t path)])).2 = .ok next := by
      rw [Context.rebuild_eq_ok_iff, hentries]
      intro e he
      rw [List.mem_singleton.mp he]
      exact declares_ofTemplate (by decide +kernel) (by rw [hname]; decide +kernel)
        (by rw [hname]; decide +kernel) (by rw [hname]; decide +kernel) t
    obtain ⟨next, hnext⟩ := hbuilt
    obtain ⟨u, hu, hresolve⟩ :=
      resolve_rebuild rfl hshape hentries (fun e he => absurd he List.not_mem_nil) hnext
    rw [hu] at hdeclared
    obtain ⟨hparams, hrequired⟩ := Prod.mk.inj (Option.some.inj hdeclared)
    rw [hname, hmodule, hparams, hrequired] at hresolve
    exact ⟨_, next, hshape, hnext, hresolve⟩

end LivePreview.Component
