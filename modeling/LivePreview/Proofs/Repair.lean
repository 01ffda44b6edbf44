import LivePreview.Proofs.History

/-!
# Failures and repairs

An addition stores its text before the declaration is refreshed. An update stores it only when the
refresh succeeded, but then also where no document can be made. So a failing request leaves one of a
few traces, or none, and these tell when the cached shape of a path is that of its stored text: from
an addition on that did not fail, and from an update on whose declaration was accepted, until the
path is added again.
-/

namespace LivePreview.Session

open LivePreview.Component (Document Runner Shape)
open LivePreview.Module (Record Resolver)

/-! ## Refused additions -/

section Failing

variable {s : Session} {path : String} {content : Option String} {source : Source} {f : Failure}

/-- An addition whose declaration is refused changes nothing but the stored text. -/
theorem perform_add_refused (hpath : path ≠ "")
    (hresult : (s.declarations.refresh s.engine path (content.getD "")).result = .error f) :
    (s.perform (.add (some path) content)).result = .error f ∧
      (s.perform (.add (some path) content)).state = { s with
        sources := s.sources.insert path ⟨path, content.getD "", s.config.kind⟩ } := by
  obtain ⟨hadded, hstate⟩ := perform_add hpath s content
  rw [hadded, hstate, hresult, Declarations.state_of_error hresult]
  exact ⟨rfl, rfl⟩

/-- An addition that does not fail is one whose declaration is accepted. -/
theorem accepted?_add_of_result
    (hresult : ∀ f, (s.perform (.add (some path) content)).result ≠ .error f) :
    s.accepted? (.add (some path) content) = some (path, content.getD "") := by
  have hpath : path ≠ "" := by
    rintro rfl
    exact hresult _ (congrArg Step.result (perform_add_unnamed s rfl content))
  cases hrefreshed : (s.declarations.refresh s.engine path (content.getD "")).result with
  | error f => exact absurd (perform_add_refused hpath hrefreshed).1 (hresult f)
  | ok changed => exact accepted?_of_result (refreshed?_add s hpath content) hrefreshed

end Failing

/-! ## Cached paths are registered -/

/-- Every path with a shape is that of a registered source. -/
def CachedRegistered (s : Session) : Prop :=
  ∀ path shape, s.declarations.shapes.get? path = some shape →
    ∃ source, s.sources.get? path = some source

theorem CachedRegistered.insert {s : Session} (h : s.CachedRegistered) (path text : String)
    (source : Source) : CachedRegistered { s with
      sources := s.sources.insert path source
      declarations := (s.declarations.refresh s.engine path text).state } := by
  intro other shape hshape
  by_cases hother : path = other
  · exact ⟨source, (Table.get?_insert ..).trans (if_pos hother)⟩
  · have houtcome := Declarations.outcome_refresh s.engine s.declarations path text
    obtain ⟨stored, hstored⟩ := h other shape ((houtcome.get?_of_ne hother).symm.trans hshape)
    exact ⟨stored, (Table.get?_insert ..).trans ((if_neg hother).trans hstored)⟩

theorem CachedRegistered.perform {s : Session} (h : s.CachedRegistered) (r : Request) :
    CachedRegistered (s.perform r).state := by
  have hperformed := performed s r
  generalize (s.perform r).state = next at hperformed ⊢
  cases hperformed with
  | idle _ => exact h
  | added _ => exact h.insert _ _ _
  | refused _ _ => exact h
  | updated _ _ => exact h.insert _ _ _

theorem cachedRegistered_run (resolver : Resolver) (config : Config) (seeds : List Record)
    (run : Runner) (requests : List Request) :
    CachedRegistered (History.run (Session.start templateEngine resolver config seeds run).2
      requests).session := by
  refine History.induction_run ?_ (fun _ r hcached => CachedRegistered.perform hcached r) requests
  intro path shape hshape
  cases hshape

/-! ## Stored texts and cached shapes -/

/-- The cached shape of a path is that of its stored text. -/
def InStep (s : Session) (path : String) : Prop :=
  ∃ source shape, s.sources.get? path = some source ∧
    s.declarations.shapes.get? path = some shape ∧ Shape.extract path source.content = .ok shape

namespace History

variable {run : Runner} {first : Session} {h : History} {path : String}

/-- An accepted text is stored, and its shape is cached. -/
theorem Sound.inStep_of_accepted (hsound : h.Sound run first) {r : Request} {text : String}
    (haccepted : h.session.accepted? r = some (path, text)) : (h.step r).session.InStep path := by
  obtain ⟨source, hstored, rfl⟩ := stored_of_accepted? haccepted
  have hlast : (h.step r).accepted.get? path = some source.content := by
    rw [History.step, haccepted]
    exact (Table.get?_insert ..).trans (if_pos rfl)
  obtain ⟨shape, hshape, -, hextract⟩ := (hsound.step r).matched.get?_left hlast
  exact ⟨source, shape, hstored, hshape, hextract⟩

/-- A request other than an addition of the path keeps its text and its shape in step. -/
theorem Sound.inStep_step (hsound : h.Sound run first) (hstep : h.session.InStep path) {r : Request}
    (hr : ∀ content, r ≠ .add (some path) content) : (h.step r).session.InStep path := by
  by_cases hedited : r.edited? = some path
  · cases r with
    | add given content =>
      have hgiven : given = some path := hedited
      exact absurd (congrArg (Request.add · content) hgiven) (hr content)
    | document name => cases hedited
    | update name content =>
      obtain rfl : name = path := Option.some.inj hedited
      obtain ⟨source, shape, hsource, hrest⟩ := hstep
      cases hresult :
        (h.session.declarations.refresh h.session.engine name (content.getD "")).result with
      | error f =>
        have hsame := (perform_update_refused hsource hresult).2
        rw [History.step, hsame]
        exact ⟨source, shape, hsource, hrest⟩
      | ok changed =>
        exact hsound.inStep_of_accepted (accepted?_of_result (refreshed?_update hsource) hresult)
  · obtain ⟨source, shape, hsource, hshape, hextract⟩ := hstep
    exact ⟨source, shape, (get?_sources_perform hedited).trans hsource,
      (get?_shapes_perform hedited).trans hshape, hextract⟩

theorem Sound.inStep_foldl (after : List Request) :
    ∀ {h : History}, h.Sound run first → h.session.InStep path →
      (∀ content, .add (some path) content ∉ after) →
      (after.foldl History.step h).session.InStep path := by
  induction after with
  | nil => exact fun _ hstep _ => hstep
  | cons r after ih =>
    intro h hsound hstep hafter
    have hr (content : Option String) : r ≠ .add (some path) content :=
      fun heq => hafter content (heq ▸ List.mem_cons_self)
    exact ih (hsound.step r) (hsound.inStep_step hstep hr)
      fun content hmem => hafter content (List.mem_cons_of_mem r hmem)

end History

/-- Of some requests, the last addition of the path did not fail, or an update of the path whose
declaration was accepted came after it. -/
inductive Settled (first : Session) (path : String) : List Request → Prop where
  | added {before after : List Request} {content : Option String}
      (hadded : ∀ f, ((History.run first before).session.perform
        (.add (some path) content)).result ≠ .error f)
      (hafter : ∀ content, .add (some path) content ∉ after) :
      Settled first path (before ++ .add (some path) content :: after)
  | repaired {before after : List Request} {content : Option String} {source : Source}
      {changed : Bool} (hsource : (History.run first before).session.sources.get? path = some source)
      (hrefreshed : ((History.run first before).session.declarations.refresh
        (History.run first before).session.engine path (content.getD "")).result = .ok changed)
      (hafter : ∀ content, .add (some path) content ∉ after) :
      Settled first path (before ++ .update path content :: after)

theorem inStep_of_settled (resolver : Resolver) (config : Config) (seeds : List Record)
    (run : Runner) {path : String} {requests : List Request}
    (hsettled : Settled (Session.start templateEngine resolver config seeds run).2 path requests) :
    InStep (History.run (Session.start templateEngine resolver config seeds run).2
      requests).session path := by
  have hsound := History.sound_run resolver config seeds run
  cases hsettled with
  | @added before after content hadded hafter =>
    rw [History.run, List.foldl_append, List.foldl_cons]
    exact History.Sound.inStep_foldl after ((hsound before).step _)
      ((hsound before).inStep_of_accepted (accepted?_add_of_result hadded)) hafter
  | @repaired before after content source changed hsource hrefreshed hafter =>
    rw [History.run, List.foldl_append, List.foldl_cons]
    exact History.Sound.inStep_foldl after ((hsound before).step _)
      ((hsound before).inStep_of_accepted
        (accepted?_of_result (refreshed?_update hsource) hrefreshed)) hafter

/-- In every state of a run, a request without a path or for an unknown source changes nothing, and
neither does an update whose declaration is refused. An addition whose declaration is refused leaves
the stored text, and an update whose document cannot be made leaves the text and the refreshed
declarations. So cached paths are registered, and where the last addition did not fail or was
repaired, the cached shape is that of the stored text. -/
theorem failures_and_repairs (resolver : Resolver) (config : Config) (seeds : List Record)
    (run : Runner) (requests : List Request) :
    let first := (Session.start templateEngine resolver config seeds run).2
    let s := (History.run first requests).session
    let refresh (path : String) (content : Option String) :=
      s.declarations.refresh s.engine path (content.getD "")
    (∀ path content, path.getD "" = "" →
      s.perform (.add path content) =
        ⟨[], s, .error (.invalidArgument "path" "a source path is required")⟩) ∧
    (∀ path content, s.sources.get? path = none →
      s.perform (.update path content) = ⟨[], s, .error (s.missing path)⟩ ∧
      s.perform (.document path) = ⟨[], s, .error (s.missing path)⟩) ∧
    (∀ path content source f, s.sources.get? path = some source →
      (refresh path content).result = .error f →
      (s.perform (.update path content)).result = .error f ∧
      (s.perform (.update path content)).state = s) ∧
    (∀ path content f, path ≠ "" → (refresh path content).result = .error f →
      (s.perform (.add (some path) content)).result = .error f ∧
      (s.perform (.add (some path) content)).state = { s with
        sources := s.sources.insert path ⟨path, content.getD "", s.config.kind⟩ }) ∧
    (∀ path content source changed f, s.sources.get? path = some source →
      (refresh path content).result = .ok changed →
      Document.generate (refresh path content).state.context path (content.getD "") = .error f →
      (s.perform (.update path content)).result = .error f ∧
      (s.perform (.update path content)).state = { s with
        sources := s.sources.insert path { source with content := content.getD "" }
        declarations := (refresh path content).state }) ∧
    s.CachedRegistered ∧
    ∀ path, Settled first path requests → s.InStep path := by
  intro first s refresh
  have hsound := History.sound_run resolver config seeds run requests
  refine ⟨fun path content hpath => perform_add_unnamed s hpath content,
    fun path content hmissing =>
      ⟨perform_update_missing hmissing content, perform_document_missing hmissing⟩,
    fun path content source f hsource hresult => perform_update_refused hsource hresult,
    fun path content f hpath hresult => perform_add_refused hpath hresult, ?_,
    cachedRegistered_run resolver config seeds run requests,
    fun path hsettled => inStep_of_settled resolver config seeds run hsettled⟩
  intro path content source changed f hsource hresult hfailed
  obtain ⟨hdocument, hstate⟩ := perform_update_accepted hsource hresult
  refine ⟨?_, hstate⟩
  have hengine : s.engine = templateEngine := hsound.engine
  have hpath : source.path = path := (hsound.registered path source hsource).1
  have hgenerate : s.engine.document (refresh path content).state.context
      { source with content := content.getD "" } = .error f := by
    rw [hengine, ← hfailed, ← hpath]
    rfl
  rw [hdocument, hgenerate]
  rfl

end LivePreview.Session
