import LivePreview.Proofs.Isolation
import LivePreview.Proofs.Outcome
import LivePreview.Proofs.Repair
import LivePreview.Proofs.Replay

/-!
# Edits of two sources commute

What a refresh answers is a matter of its own path: of the cached shape and of the new text. A known
path keeps its place among the shapes, the aggregate is made from the shapes alone, and the counter
counts the changes. So two updates of cached paths lead to one session in either order, and each is
refused in both orders or in none.
-/

namespace LivePreview.Session

open LivePreview.Component (Aggregate Document Runner Shape)
open LivePreview.Module (Record Resolver)

/-! ## What a refresh depends on -/

/-- The new shape that a text has for a path where another shape may be cached, if it differs from
that one and declares something. -/
def newShape? (engine : Engine) (run : Runner) (kind path content : String)
    (cached : Option Shape) : Except Failure (Option Shape) :=
  match engine.shape ⟨path, content, kind⟩ with
  | .error f => .error f
  | .ok shape =>
    if cached.any (·.text = shape.text) then .ok none
    else (Aggregate.declared run path shape).map fun _ => some shape

/-- The shapes after a refresh with this outcome. -/
def Declarations.shapesAfter (d : Declarations) (path : String) :
    Except Failure (Option Shape) → Table String Shape
  | .ok (some shape) => d.shapes.insert path shape
  | _ => d.shapes

variable {run : Runner} {name : String} {external : List Record}

/-- Beside shapes that all declare something, a refresh sees of the cache only its own path. -/
theorem Coherent.refresh_eq {d : Declarations} (h : Coherent run name external d) (engine : Engine)
    (path content : String) :
    let outcome := newShape? engine run d.kind path content (d.shapes.get? path)
    (d.refresh engine path content).result = outcome.map Option.isSome ∧
      (d.refresh engine path content).state.shapes = d.shapesAfter path outcome := by
  intro outcome
  have hrebuild (shape : Shape) (f : Failure) :
      (d.context.rebuild (d.shapes.insert path shape)).2 = .error f ↔
        Aggregate.declared run path shape = .error f := by
    have henterable : d.Enterable := by
      intro e he
      rw [h.runs]
      exact h.declares e he
    rw [henterable.rebuild_insert, h.runs]
  have houtcome := Declarations.outcome_refresh engine d path content
  generalize (d.refresh engine path content).result = result at houtcome ⊢
  generalize (d.refresh engine path content).state = next at houtcome ⊢
  have hfresh {shape : Shape} (hnew : ∀ old, d.shapes.get? path = some old →
      old.text ≠ shape.text) : (d.shapes.get? path).any (·.text = shape.text) = false := by
    cases hold : d.shapes.get? path with
    | none => rfl
    | some old => exact decide_eq_false (hnew old hold)
  cases houtcome with
  | unread hshape =>
    simp only [outcome, newShape?, hshape]
    exact ⟨rfl, rfl⟩
  | @unbuilt shape f hshape hnew hbuild =>
    have hdeclared := (hrebuild shape f).mp hbuild
    simp only [outcome, newShape?, hshape, hfresh hnew, hdeclared]
    exact ⟨rfl, rfl⟩
  | @unchanged shape old hshape hold htext =>
    simp only [outcome, newShape?, hshape, hold, Option.any_some, htext, decide_true, if_true]
    exact ⟨rfl, rfl⟩
  | @changed shape context hshape hnew hbuild =>
    have hdeclared : ∃ member, Aggregate.declared run path shape = .ok member := by
      cases hdeclared : Aggregate.declared run path shape with
      | ok member => exact ⟨member, rfl⟩
      | error f =>
        rw [(hrebuild shape f).mpr hdeclared] at hbuild
        cases hbuild
    obtain ⟨member, hdeclared⟩ := hdeclared
    simp only [outcome, newShape?, hshape, hfresh hnew, hdeclared]
    exact ⟨rfl, rfl⟩

/-- A refresh keeps the kind of the sources. -/
theorem Outcome.kind_eq {engine : Engine} {d next : Declarations} {path content : String}
    {result : Except Failure Bool} (h : Outcome engine d path content result next) :
    next.kind = d.kind := by
  cases h <;> rfl

/-- Coherent declarations are told apart by their shapes, their counter and their kind. -/
theorem Coherent.ext {d e : Declarations} (hd : Coherent run name external d)
    (he : Coherent run name external e) (hshapes : d.shapes = e.shapes)
    (hcounter : d.context.generation = e.context.generation) (hkind : d.kind = e.kind) : d = e := by
  have haggregate := hd.aggregate_eq he hshapes
  obtain ⟨dshapes, ⟨dexternal, dname, daggregate, dgeneration, drun⟩, dkind⟩ := d
  obtain ⟨eshapes, ⟨eexternal, ename, eaggregate, egeneration, erun⟩, ekind⟩ := e
  have hexternal : dexternal = eexternal := hd.fixed.trans he.fixed.symm
  have hname : dname = ename := hd.named.trans he.named.symm
  have hrun : drun = erun := hd.runs.trans he.runs.symm
  cases hshapes
  cases hcounter
  cases hkind
  cases haggregate
  cases hexternal
  cases hname
  cases hrun
  rfl

/-! ## Two refreshes -/

/-- A refresh of another path leaves what a refresh answers as it was. -/
theorem newShape?_after (engine : Engine) (run : Runner) (d : Declarations) {path other : String}
    (hne : path ≠ other) (content text : String) :
    newShape? engine run (d.refresh engine other text).state.kind path content
        ((d.refresh engine other text).state.shapes.get? path) =
      newShape? engine run d.kind path content (d.shapes.get? path) := by
  have houtcome := Declarations.outcome_refresh engine d other text
  rw [houtcome.kind_eq, houtcome.get?_of_ne hne.symm]

/-- Refreshes of two paths commute if one is cached, and each answers in both orders the same. -/
theorem Coherent.refresh_comm {d : Declarations} (h : Coherent run name external d)
    (engine : Engine) {p q : String} (hne : p ≠ q) (hq : q ∈ d.shapes.keys)
    (c e : String) :
    let pFirst := (d.refresh engine p c).state
    let qFirst := (d.refresh engine q e).state
    (pFirst.refresh engine q e).state = (qFirst.refresh engine p c).state ∧
      (pFirst.refresh engine q e).result = (d.refresh engine q e).result ∧
      (qFirst.refresh engine p c).result = (d.refresh engine p c).result := by
  intro pFirst qFirst
  have hpOutcome := Declarations.outcome_refresh engine d p c
  have hqOutcome := Declarations.outcome_refresh engine d q e
  obtain ⟨hpFirst, hpCount⟩ := h.outcome hpOutcome
  obtain ⟨hqFirst, hqCount⟩ := h.outcome hqOutcome
  have hpqOutcome := Declarations.outcome_refresh engine pFirst q e
  have hqpOutcome := Declarations.outcome_refresh engine qFirst p c
  obtain ⟨hpq, hpqCount⟩ := hpFirst.outcome hpqOutcome
  obtain ⟨hqp, hqpCount⟩ := hqFirst.outcome hqpOutcome
  obtain ⟨hpResult, hpShapes⟩ := h.refresh_eq engine p c
  obtain ⟨hqResult, hqShapes⟩ := h.refresh_eq engine q e
  obtain ⟨hpqResult, hpqShapes⟩ := hpFirst.refresh_eq engine q e
  obtain ⟨hqpResult, hqpShapes⟩ := hqFirst.refresh_eq engine p c
  rw [newShape?_after engine run d hne.symm] at hpqResult hpqShapes
  rw [newShape?_after engine run d hne] at hqpResult hqpShapes
  have hpSame := hqpResult.trans hpResult.symm
  have hqSame := hpqResult.trans hqResult.symm
  refine ⟨hpq.ext hqp ?_ ?_ ?_, hqSame, hpSame⟩
  · rw [hpqShapes, hqpShapes]
    generalize newShape? engine run d.kind p c (d.shapes.get? p) = pNew at hpShapes ⊢
    generalize newShape? engine run d.kind q e (d.shapes.get? q) = qNew at hqShapes ⊢
    rcases pNew with f | _ | x <;> rcases qNew with g | _ | y <;>
      simp only [Declarations.shapesAfter] at hpShapes hqShapes ⊢ <;> rw [hpShapes, hqShapes]
    exact Table.insert_comm hne.symm hq y x
  · rw [hpqCount, hqpCount, hpCount, hqCount, hqSame, hpSame]
    omega
  · rw [hpqOutcome.kind_eq, hqpOutcome.kind_eq, hpOutcome.kind_eq, hqOutcome.kind_eq]

/-! ## Two updates -/

/-- Making a document never fails with an objection to a declaration. -/
theorem generate_ne_declaration (c : Component.Context) (path content name reason : String) :
    Document.generate c path content ≠ .error (.declaration name reason) := by
  intro h
  have houtcome : Document.Outcome c path content (Document.generate c path content) :=
    Component.outcome_generate
  rw [h] at houtcome
  cases houtcome

section Updating

variable {s : Session} {path : String} {source : Source}

/-- An update stores its text if its declaration is accepted, and leaves what its refresh leaves. -/
theorem state_perform_update (hsource : s.sources.get? path = some source)
    (content : Option String) :
    let refreshed := s.declarations.refresh s.engine path (content.getD "")
    (s.perform (.update path content)).state = { s with
      sources := if refreshed.result.toBool then
          s.sources.insert path { source with content := content.getD "" }
        else s.sources
      declarations := refreshed.state } := by
  intro refreshed
  cases hresult : refreshed.result with
  | error f =>
    have hsame : refreshed.state = s.declarations := Declarations.state_of_error hresult
    rw [(perform_update_refused hsource hresult).2, hsame]
    rfl
  | ok changed =>
    rw [(perform_update_accepted hsource hresult).2]
    rfl

/-- An update fails with an objection to a declaration exactly if its refresh does. -/
theorem perform_update_eq_declaration_iff (hengine : s.engine = templateEngine)
    (hsource : s.sources.get? path = some source) (content : Option String) (name reason : String) :
    (s.perform (.update path content)).result = .error (.declaration name reason) ↔
      (s.declarations.refresh s.engine path (content.getD "")).result =
        .error (.declaration name reason) := by
  cases hresult : (s.declarations.refresh s.engine path (content.getD "")).result with
  | error f =>
    rw [(perform_update_refused hsource hresult).1]
    simp
  | ok changed =>
    rw [(perform_update_accepted hsource hresult).1, hengine]
    refine iff_of_false (fun h => ?_) nofun
    refine generate_ne_declaration
      (s.declarations.refresh templateEngine path (content.getD "")).state.context source.path
      (content.getD "") name reason ?_
    change Except.map some (Document.generate _ source.path (content.getD "")) = _ at h
    cases hdocument : Document.generate
        (s.declarations.refresh templateEngine path (content.getD "")).state.context source.path
        (content.getD "") with
    | error f =>
      rw [hdocument] at h
      exact congrArg Except.error (Except.error.inj h)
    | ok document =>
      rw [hdocument] at h
      cases h

/-- An update keeps the engine, and every source but its own. -/
theorem frame_update (hsource : s.sources.get? path = some source) (content : Option String) :
    (s.perform (.update path content)).state.engine = s.engine ∧
      ∀ other, path ≠ other →
        (s.perform (.update path content)).state.sources.get? other = s.sources.get? other := by
  refine ⟨?_, fun other hother => get?_sources_perform fun heq => hother (Option.some.inj heq)⟩
  rw [state_perform_update hsource]

end Updating

/-- In every state of a run, updates of two different cached paths lead to the same session in
either order, and each is refused for its declaration in one order exactly if it is in the other. -/
theorem updates_commute (resolver : Resolver) (config : Config) (seeds : List Record)
    (run : Runner) (requests : List Request) (p q : String) (c e : Option String) :
    let s := (History.run (Session.start templateEngine resolver config seeds run).2
      requests).session
    let pFirst := (s.perform (.update p c)).state
    let qFirst := (s.perform (.update q e)).state
    p ≠ q → p ∈ s.declarations.shapes.keys → q ∈ s.declarations.shapes.keys →
      (pFirst.perform (.update q e)).state = (qFirst.perform (.update p c)).state ∧
      ∀ name reason,
        ((s.perform (.update p c)).result = .error (.declaration name reason) ↔
          (qFirst.perform (.update p c)).result = .error (.declaration name reason)) ∧
        ((s.perform (.update q e)).result = .error (.declaration name reason) ↔
          (pFirst.perform (.update q e)).result = .error (.declaration name reason)) := by
  intro s pFirst qFirst hne hp hq
  have hsound := History.sound_run resolver config seeds run requests
  have hsource {path : String} (hpath : path ∈ s.declarations.shapes.keys) :
      ∃ source, s.sources.get? path = some source := by
    obtain ⟨shape, hshape⟩ := Table.exists_get?_of_mem_keys hpath
    exact cachedRegistered_run resolver config seeds run requests path shape hshape
  obtain ⟨x, hx⟩ := hsource hp
  obtain ⟨y, hy⟩ := hsource hq
  have hengine : s.engine = templateEngine := hsound.engine
  obtain ⟨hpEngine, hpSources⟩ := frame_update hx c
  obtain ⟨hqEngine, hqSources⟩ := frame_update hy e
  have hyAfter : pFirst.sources.get? q = some y := (hpSources q hne).trans hy
  have hxAfter : qFirst.sources.get? p = some x := (hqSources p hne.symm).trans hx
  have hpState : pFirst = _ := state_perform_update hx c
  have hqState : qFirst = _ := state_perform_update hy e
  obtain ⟨hstate, hqSame, hpSame⟩ := hsound.coherent.refresh_comm s.engine hne hq (c.getD "")
    (e.getD "")
  have hpRefresh : (qFirst.declarations.refresh qFirst.engine p (c.getD "")).result =
      (s.declarations.refresh s.engine p (c.getD "")).result := by
    rw [hqEngine, ← hpSame, hqState]
  have hqRefresh : (pFirst.declarations.refresh pFirst.engine q (e.getD "")).result =
      (s.declarations.refresh s.engine q (e.getD "")).result := by
    rw [hpEngine, ← hqSame, hpState]
  refine ⟨?_, fun name reason => ⟨?_, ?_⟩⟩
  · rw [state_perform_update hyAfter, state_perform_update hxAfter, hqRefresh, hpRefresh, hpEngine,
      hqEngine, hpState, hqState]
    have hdeclarations : (Declarations.refresh s.engine
        (Declarations.refresh s.engine s.declarations p (c.getD "")).state q (e.getD "")).state =
        (Declarations.refresh s.engine
          (Declarations.refresh s.engine s.declarations q (e.getD "")).state p (c.getD "")).state :=
      hstate
    simp only [hdeclarations]
    congr 1
    split_ifs
    · exact Table.insert_comm hne.symm (Table.mem_keys_of_get? hy) _ _
    all_goals rfl
  · rw [perform_update_eq_declaration_iff hengine hx,
      perform_update_eq_declaration_iff (hqEngine.trans hengine) hxAfter, hpRefresh]
  · rw [perform_update_eq_declaration_iff hengine hy,
      perform_update_eq_declaration_iff (hpEngine.trans hengine) hyAfter, hqRefresh]

/-- A text without declarations is accepted under a path that can be declared. -/
theorem inStep_added {run : Runner} {first : Session} {h : History} (hsound : h.Sound run first)
    {path : String} (hpath : path ≠ "")
    (hdeclares : Aggregate.Declares run (path, Shape.ofTemplate ⟨[], [], []⟩ path)) :
    (h.step (.add (some path) none)).session.InStep path := by
  have hshape : h.session.engine.shape ⟨path, "", h.session.declarations.kind⟩ =
      .ok (.ofTemplate ⟨[], [], []⟩ path) := by
    rw [hsound.engine]
    rfl
  obtain ⟨changed, hresult⟩ := hsound.coherent.refresh_of_declares hshape hdeclares
  exact hsound.inStep_of_accepted
    (accepted?_of_result (refreshed?_add h.session hpath none) hresult)

/-- Two sources added one after the other are both cached if their paths can be declared. -/
theorem cached_added (resolver : Resolver) (config : Config) (seeds : List Record) {run : Runner}
    {p q : String} (hne : p ≠ q) (hp : p ≠ "") (hq : q ≠ "")
    (hpDeclares : Aggregate.Declares run (p, Shape.ofTemplate ⟨[], [], []⟩ p))
    (hqDeclares : Aggregate.Declares run (q, Shape.ofTemplate ⟨[], [], []⟩ q)) :
    let s := (History.run (Session.start templateEngine resolver config seeds run).2
      [.add (some p) none, .add (some q) none]).session
    p ∈ s.declarations.shapes.keys ∧ q ∈ s.declarations.shapes.keys := by
  have hsound := History.sound_run resolver config seeds run
  have hkept := (hsound [.add (some p) none]).inStep_step
    (inStep_added (hsound []) hp hpDeclares) (r := .add (some q) none)
    fun content h => hne (Option.some.inj (Request.add.inj h).1).symm
  obtain ⟨-, shape, -, hshape, -⟩ := hkept
  obtain ⟨-, other, -, hother, -⟩ := inStep_added (hsound [.add (some p) none]) hq hqDeclares
  exact ⟨Table.mem_keys_of_get? hshape, Table.mem_keys_of_get? hother⟩

/-- Two sources of one component: the first gets a parameter, the second a line that is refused. -/
theorem updates_commute_twoCards :
    let s := (History.run (Session.start templateEngine (.ofTable []) { rules := [] } []).2
      [.add (some "a/Card.tpl") none, .add (some "b/Card.tpl") none]).session
    let pFirst := (s.perform (.update "a/Card.tpl" (some "@param x"))).state
    let qFirst := (s.perform (.update "b/Card.tpl" (some "@param 1"))).state
    "a/Card.tpl" ≠ "b/Card.tpl" ∧ "a/Card.tpl" ∈ s.declarations.shapes.keys ∧
      "b/Card.tpl" ∈ s.declarations.shapes.keys ∧
      (pFirst.perform (.update "b/Card.tpl" (some "@param 1"))).state =
        (qFirst.perform (.update "a/Card.tpl" (some "@param x"))).state := by
  have hdeclares (path : String) (hpath : '\x00' ∉ path.toList)
      (hname : Component.componentName path = "Card") :
      Aggregate.Declares Component.Stub.runText (path, Shape.ofTemplate ⟨[], [], []⟩ path) :=
    Component.declares_ofTemplate hpath (by rw [hname]; decide +kernel)
      (by rw [hname]; decide +kernel) (by rw [hname]; decide +kernel) _
  have hne : "a/Card.tpl" ≠ "b/Card.tpl" := by decide
  obtain ⟨hp, hq⟩ := cached_added (.ofTable []) { rules := [] } []
    (p := "a/Card.tpl") (q := "b/Card.tpl") hne (by decide) (by decide)
    (hdeclares "a/Card.tpl" (by decide +kernel) (by decide +kernel))
    (hdeclares "b/Card.tpl" (by decide +kernel) (by decide +kernel))
  obtain ⟨hstate, -⟩ := updates_commute (.ofTable []) { rules := [] } [] Component.Stub.runText
    [.add (some "a/Card.tpl") none, .add (some "b/Card.tpl") none] "a/Card.tpl" "b/Card.tpl"
    (some "@param x") (some "@param 1") hne hp hq
  exact ⟨hne, hp, hq, hstate⟩

end LivePreview.Session
