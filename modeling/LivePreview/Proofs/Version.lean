import LivePreview.Proofs.Document
import LivePreview.Proofs.Edit

/-!
# The version of a document

Every change of the declarations moves the counter of the context, and nothing moves it back. So while
the counter stands still the declarations do, and the outcome for a source is a matter of its stored
text. A document carries the counter as its version: it is up to date as long as this is still the
counter and its text is still stored.
-/

namespace LivePreview.Session

open LivePreview.Component (Document Runner)
open LivePreview.Module (Record Resolver)

/-- A text that was refreshed just before is found unchanged, or refused again. -/
theorem Declarations.refresh_refresh (engine : Engine) (d : Declarations) (path content : String) :
    ((d.refresh engine path content).state.refresh engine path content).state =
      (d.refresh engine path content).state := by
  have hfirst := outcome_refresh engine d path content
  cases hresult : (d.refresh engine path content).result with
  | error f =>
    have hsame := state_of_error hresult
    rw [hsame, hsame]
  | ok changed =>
    rw [hresult] at hfirst
    generalize (d.refresh engine path content).state = next at hfirst ⊢
    have hcached : ∃ shape old, engine.shape ⟨path, content, next.kind⟩ = .ok shape ∧
        next.shapes.get? path = some old ∧ old.text = shape.text := by
      cases hfirst with
      | unchanged hshape hold htext => exact ⟨_, _, hshape, hold, htext⟩
      | changed hshape hnew hbuild =>
        exact ⟨_, _, hshape, (Table.get?_insert ..).trans (if_pos rfl), rfl⟩
    obtain ⟨shape, old, hshape, hold, htext⟩ := hcached
    unfold refresh
    simp only [hshape, hold, if_pos htext]

variable {run : Runner} {first : Session} {h : History} {path : String}

/-- A request leaves the declarations alone or moves the counter. -/
theorem History.Sound.declarations_step (hsound : h.Sound run first) (r : Request) :
    (h.step r).session.declarations = h.session.declarations ∨
      (h.step r).session.context.generation = h.session.context.generation + 1 := by
  cases haccepted : h.session.accepted? r with
  | none =>
    left
    cases served h.session r with
    | kept _ hsame => exact hsame
    | accepted _ hsome _ =>
      rw [haccepted] at hsome
      cases hsome
  | some entry =>
    rcases hsound.step_accepted haccepted with ⟨-, hmoved⟩ | ⟨-, hsame⟩
    · exact .inr hmoved
    · exact .inl hsame

/-- The counter never goes back, and where it stands still so do the declarations. -/
theorem History.Sound.declarations_foldl (requests : List Request) :
    ∀ {h : History}, h.Sound run first →
      h.session.context.generation ≤
        (requests.foldl History.step h).session.context.generation ∧
      ((requests.foldl History.step h).session.context.generation =
          h.session.context.generation →
        (requests.foldl History.step h).session.declarations = h.session.declarations) := by
  induction requests with
  | nil => exact fun _ => ⟨Nat.le_refl _, fun _ => rfl⟩
  | cons r requests ih =>
    intro h hsound
    obtain ⟨hle, hkept⟩ := ih (hsound.step r)
    rw [List.foldl_cons]
    rcases hsound.declarations_step r with hsame | hmoved
    · have hcounter : (h.step r).session.context.generation = h.session.context.generation := by
        rw [Session.context, hsame, Session.context]
      rw [hcounter] at hle hkept
      exact ⟨hle, fun heq => (hkept heq).trans hsame⟩
    · constructor
      · omega
      · intro heq
        omega

/-- Two moments of a run with one counter and one stored text have one outcome for a source. -/
theorem document_eq_of_generation_eq {before : History} (hsound : before.Sound run first)
    (requests : List Request) {source later : Source}
    (hsource : before.session.sources.get? path = some source)
    (hlater : (requests.foldl History.step before).session.sources.get? path = some later)
    (htext : later.content = source.content)
    (hcounter : (requests.foldl History.step before).session.context.generation =
      before.session.context.generation) :
    (requests.foldl History.step before).session.document path = before.session.document path := by
  have hlast : (requests.foldl History.step before).Sound run first :=
    List.foldlRecOn requests History.step hsound fun _ hh r _ => hh.step r
  have hdeclarations := (hsound.declarations_foldl requests).2 hcounter
  rw [hlast.document_eq hlater, hsound.document_eq hsource, htext, Session.context, hdeclarations,
    Session.context]

/-- What an update with an accepted declaration answers is what its source has afterwards. -/
theorem result_of_update {s : Session} {content : Option String} {source : Source} {changed : Bool}
    (hsource : s.sources.get? path = some source)
    (hresult : (s.declarations.refresh s.engine path (content.getD "")).result = .ok changed) :
    (s.perform (.update path content)).state.sources.get? path =
        some { source with content := content.getD "" } ∧
      (s.perform (.update path content)).result =
        ((s.perform (.update path content)).state.document path).map some := by
  obtain ⟨hmade, hstate⟩ := perform_update_accepted hsource hresult
  have hstored : (s.perform (.update path content)).state.sources.get? path =
      some { source with content := content.getD "" } := by
    rw [hstate]
    exact (Table.get?_insert ..).trans (if_pos rfl)
  refine ⟨hstored, ?_⟩
  rw [hmade, Session.document, hstored, hstate]
  rfl

/-- A document that an update answers with carries the counter, and is what its source has
afterwards. -/
theorem History.Sound.document_of_update (hsound : h.Sound run first) {content : Option String}
    {document : Document}
    (hresult : (h.session.perform (.update path content)).result = .ok (some document)) :
    (∃ source, (h.step (.update path content)).session.sources.get? path = some source ∧
      source.content = content.getD "") ∧
    (h.step (.update path content)).session.document path = .ok document ∧
    document.version = (h.step (.update path content)).session.context.generation := by
  cases hsource : h.session.sources.get? path with
  | none =>
    rw [perform_update_missing hsource] at hresult
    cases hresult
  | some source =>
    cases hrefresh :
        (h.session.declarations.refresh h.session.engine path (content.getD "")).result with
    | error f =>
      rw [(perform_update_refused hsource hrefresh).1] at hresult
      cases hresult
    | ok changed =>
      obtain ⟨hstored, hmade⟩ := result_of_update hsource hrefresh
      have hdocument : (h.step (.update path content)).session.document path = .ok document := by
        rw [hmade] at hresult
        cases hafter : (h.session.perform (.update path content)).state.document path with
        | error f =>
          rw [hafter] at hresult
          cases hresult
        | ok made =>
          rw [hafter] at hresult
          cases hresult
          exact hafter
      refine ⟨⟨_, hstored, rfl⟩, hdocument, ?_⟩
      rw [(hsound.step (.update path content)).document_eq hstored] at hdocument
      obtain ⟨t, -, hcompile⟩ := Component.generate_eq_ok hdocument
      obtain ⟨p, -, -, hparts⟩ := Component.compile_eq_ok hcompile
      rw [hparts]

/-- A text that was added or stored just before was refreshed under its path, if the path is
registered now. -/
theorem History.Sound.refreshed?_before (hsound : h.Sound run first) {content : Option String}
    {r : Request} (hr : r = .add (some path) content ∨ r = .update path content) {source : Source}
    (hsource : (h.step r).session.sources.get? path = some source) :
    h.session.refreshed? r = some (path, content.getD "") := by
  rcases hr with rfl | rfl
  · have hpath : path ≠ "" := ((hsound.step _).registered path source hsource).2
    exact refreshed?_add h.session hpath content
  · cases hbefore : h.session.sources.get? path with
    | some old => exact refreshed?_update hbefore
    | none =>
      rw [History.step, perform_update_missing hbefore, hbefore] at hsource
      cases hsource

/-- An update with the text that was added or stored just before leaves the declarations alone. -/
theorem History.Sound.declarations_update_again (hsound : h.Sound run first)
    {content : Option String} {r : Request}
    (hr : r = .add (some path) content ∨ r = .update path content) :
    ((h.step r).step (.update path content)).session.declarations =
      (h.step r).session.declarations := by
  cases hsource : (h.step r).session.sources.get? path with
  | none =>
    rw [History.step, perform_update_missing hsource]
  | some source =>
    have hengine : (h.step r).session.engine = h.session.engine :=
      (hsound.step r).engine.trans hsound.engine.symm
    have hfirst : (h.step r).session.declarations =
        (h.session.declarations.refresh h.session.engine path (content.getD "")).state :=
      declarations_perform (hsound.refreshed?_before hr hsource)
    have hsecond : ((h.step r).step (.update path content)).session.declarations =
        ((h.step r).session.declarations.refresh (h.step r).session.engine path
          (content.getD "")).state :=
      declarations_perform (refreshed?_update hsource)
    rw [hsecond, hengine, hfirst, Declarations.refresh_refresh]

/-- At any two moments of a run with one counter and one stored text of a source, the outcome for
this source is one. The document of an update has the counter as its version, and stays the outcome
while the counter does and its text is stored. An update with the text that was added or stored just
before never moves the counter. -/
theorem version_guards_document (resolver : Resolver) (config : Config) (seeds : List Record)
    (run : Runner) :
    let state (requests : List Request) :=
      (History.run (Session.start templateEngine resolver config seeds run).2 requests).session
    (∀ before after path source later,
      (state before).sources.get? path = some source →
      (state (before ++ after)).sources.get? path = some later → later.content = source.content →
      (state (before ++ after)).context.generation = (state before).context.generation →
      (state (before ++ after)).document path = (state before).document path) ∧
    (∀ before path content document,
      ((state before).perform (.update path content)).result = .ok (some document) →
      document.version = (state (before ++ [.update path content])).context.generation ∧
      ∀ after later,
        (state (before ++ .update path content :: after)).sources.get? path = some later →
        later.content = content.getD "" →
        (state (before ++ .update path content :: after)).context.generation = document.version →
        (state (before ++ .update path content :: after)).document path = .ok document) ∧
    ∀ before path content r, r = .add (some path) content ∨ r = .update path content →
      (state (before ++ [r, .update path content])).context.generation =
        (state (before ++ [r])).context.generation := by
  intro state
  have hsound := History.sound_run resolver config seeds run
  have hstate (before after : List Request) : state (before ++ after) = (after.foldl History.step
      (History.run (Session.start templateEngine resolver config seeds run).2 before)).session := by
    simp only [state, History.run, List.foldl_append]
  refine ⟨?_, ?_, ?_⟩
  · intro before after path source later hsource hlater htext hcounter
    rw [hstate] at hlater hcounter ⊢
    exact document_eq_of_generation_eq (hsound before) after hsource hlater htext hcounter
  · intro before path content document hresult
    obtain ⟨⟨source, hsource, htext⟩, hdocument, hversion⟩ :=
      (hsound before).document_of_update hresult
    rw [hstate]
    refine ⟨hversion, ?_⟩
    intro after later hlater hsame hcounter
    rw [hstate, List.foldl_cons] at hlater hcounter ⊢
    rw [document_eq_of_generation_eq ((hsound before).step _) after hsource hlater
      (hsame.trans htext.symm) (hcounter.trans hversion)]
    exact hdocument
  · intro before path content r hr
    rw [hstate, hstate]
    simp only [List.foldl_cons, List.foldl_nil]
    rw [Session.context, (hsound before).declarations_update_again hr, Session.context]

end LivePreview.Session
