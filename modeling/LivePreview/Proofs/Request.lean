import LivePreview.Proofs.Refresh

/-!
# What a request does

A request reaches the declarations only by the refresh it asks for, and a session keeps its
configuration and its engine. Which document a request answers with is not said here.
-/

namespace LivePreview.Session

open LivePreview.Component (Shape)

theorem templateEngine_shape (path content kind : String) :
    templateEngine.shape ⟨path, content, kind⟩ = Shape.extract path content := rfl

/-- What an addition under a path does. -/
theorem add_eq {path : String} (hpath : path ≠ "") (s : Session) (text : String) :
    (s.add (some path) (some text)).result =
        (s.declarations.refresh s.engine path text).result.map (fun _ => ()) ∧
      (s.add (some path) (some text)).state = { s with
        sources := s.sources.insert path ⟨path, text, s.config.kind⟩
        declarations := (s.declarations.refresh s.engine path text).state } := by
  have hnonempty : ¬ path.isEmpty = true := by rwa [String.isEmpty_iff]
  rw [add, Option.getD_some, if_neg hnonempty]
  exact ⟨rfl, rfl⟩

/-! ## One request -/

section Performing

variable {s : Session} {path : String} {content : Option String} {source : Source} {f : Failure}

/-- A path that is left out counts as the empty one, which no source can have. -/
theorem perform_add_unnamed (s : Session) {path : Option String} (hpath : path.getD "" = "")
    (content : Option String) : s.perform (.add path content) =
      ⟨[], s, .error (.invalidArgument "path" "a source path is required")⟩ := by
  have hempty : (path.getD "").isEmpty = true := String.isEmpty_iff.mpr hpath
  rw [perform, add, if_pos hempty]
  rfl

/-- An addition stores its text, whatever becomes of the declaration. -/
theorem perform_add (hpath : path ≠ "") (s : Session) (content : Option String) :
    (s.perform (.add (some path) content)).result =
        (s.declarations.refresh s.engine path (content.getD "")).result.map (fun _ => none) ∧
      (s.perform (.add (some path) content)).state = { s with
        sources := s.sources.insert path ⟨path, content.getD "", s.config.kind⟩
        declarations := (s.declarations.refresh s.engine path (content.getD "")).state } := by
  obtain ⟨hresult, hstate⟩ := add_eq hpath s (content.getD "")
  have hadd : s.add (some path) content = s.add (some path) (some (content.getD "")) := by
    cases content <;> rfl
  rw [perform, hadd]
  refine ⟨?_, hstate⟩
  simp only [hresult]
  cases (s.declarations.refresh s.engine path (content.getD "")).result <;> rfl

theorem perform_update_missing (hmissing : s.sources.get? path = none) (content : Option String) :
    s.perform (.update path content) = ⟨[], s, .error (s.missing path)⟩ := by
  rw [perform, update, hmissing]
  rfl

/-- An update whose declaration is refused changes nothing. -/
theorem perform_update_refused (hsource : s.sources.get? path = some source)
    (hresult : (s.declarations.refresh s.engine path (content.getD "")).result = .error f) :
    (s.perform (.update path content)).result = .error f ∧
      (s.perform (.update path content)).state = s := by
  rw [perform, update, hsource]
  simp only [refresh, hresult, Declarations.state_of_error hresult, and_true]
  rfl

/-- An update whose declaration is accepted stores its text, whether or not its document can be
made. -/
theorem perform_update_accepted {changed : Bool} (hsource : s.sources.get? path = some source)
    (hresult : (s.declarations.refresh s.engine path (content.getD "")).result = .ok changed) :
    let edited := { source with content := content.getD "" }
    let refreshed := (s.declarations.refresh s.engine path (content.getD "")).state
    (s.perform (.update path content)).result =
        (s.engine.document refreshed.context edited).map some ∧
      (s.perform (.update path content)).state = { s with
        sources := s.sources.insert path edited, declarations := refreshed } := by
  rw [perform, update, hsource]
  simp only [refresh, hresult, and_true]
  rfl

theorem perform_document_missing (hmissing : s.sources.get? path = none) :
    s.perform (.document path) = ⟨[], s, .error (s.missing path)⟩ := by
  rw [perform, document, hmissing]
  rfl

end Performing

/-- All that a request can leave behind. -/
inductive Performed (s : Session) : Request → Session → Prop where
  | idle {r : Request} (hidle : s.refreshed? r = none) : Performed s r s
  | added {path : String} {content : Option String} (hpath : path ≠ "") :
      Performed s (.add (some path) content) { s with
        sources := s.sources.insert path ⟨path, content.getD "", s.config.kind⟩
        declarations := (s.declarations.refresh s.engine path (content.getD "")).state }
  | refused {path : String} {content : Option String} {source : Source} {f : Failure}
      (hsource : s.sources.get? path = some source)
      (hresult : (s.declarations.refresh s.engine path (content.getD "")).result = .error f) :
      Performed s (.update path content) s
  | updated {path : String} {content : Option String} {source : Source} {changed : Bool}
      (hsource : s.sources.get? path = some source)
      (hresult : (s.declarations.refresh s.engine path (content.getD "")).result = .ok changed) :
      Performed s (.update path content) { s with
        sources := s.sources.insert path { source with content := content.getD "" }
        declarations := (s.declarations.refresh s.engine path (content.getD "")).state }

theorem performed (s : Session) (r : Request) : Performed s r (s.perform r).state := by
  cases r with
  | document path => exact .idle rfl
  | add given content =>
    by_cases hnone : given.getD "" = ""
    · rw [perform_add_unnamed s hnone]
      exact .idle (by rw [refreshed?, if_pos (String.isEmpty_iff.mpr hnone)])
    · cases given with
      | none => exact absurd rfl hnone
      | some path =>
        have hpath : path ≠ "" := hnone
        rw [(perform_add hpath s content).2]
        exact .added hpath
  | update path content =>
    cases hsource : s.sources.get? path with
    | none =>
      rw [perform_update_missing hsource]
      exact .idle (by rw [refreshed?, Table.contains_eq_isSome, hsource]; rfl)
    | some source =>
      cases hresult : (s.declarations.refresh s.engine path (content.getD "")).result with
      | error f =>
        rw [(perform_update_refused hsource hresult).2]
        exact .refused hsource hresult
      | ok changed =>
        rw [(perform_update_accepted hsource hresult).2]
        exact .updated hsource hresult

/-- Besides the declarations only the sources can change. -/
theorem perform_frame (s : Session) (r : Request) : ∃ sources declarations,
    (s.perform r).state = { s with sources, declarations } := by
  have hperformed := performed s r
  generalize (s.perform r).state = next at hperformed ⊢
  cases hperformed <;> exact ⟨_, _, rfl⟩

/-! ## Refreshed declarations -/

theorem refreshed?_add (s : Session) {path : String} (hpath : path ≠ "")
    (content : Option String) :
    s.refreshed? (.add (some path) content) = some (path, content.getD "") := by
  have hnonempty : ¬ path.isEmpty = true := by rwa [String.isEmpty_iff]
  rw [refreshed?, Option.getD_some, if_neg hnonempty]

theorem refreshed?_update {s : Session} {path : String} {content : Option String} {source : Source}
    (hsource : s.sources.get? path = some source) :
    s.refreshed? (.update path content) = some (path, content.getD "") := by
  rw [refreshed?, Table.contains_eq_isSome, hsource, Option.isSome_some, if_pos rfl]

/-- A request that refreshes a declaration adds its path, or updates a registered source. -/
theorem refreshed?_cases {s : Session} {r : Request} {path text : String}
    (h : s.refreshed? r = some (path, text)) :
    (∃ content, r = .add (some path) content ∧ content.getD "" = text ∧ path ≠ "") ∨
      ∃ content source, r = .update path content ∧ content.getD "" = text ∧
        s.sources.get? path = some source := by
  have hperformed := performed s r
  generalize (s.perform r).state = next at hperformed
  cases hperformed with
  | idle hidle =>
    rw [hidle] at h
    cases h
  | @added _ content hpath =>
    rw [refreshed?_add s hpath] at h
    cases h
    exact .inl ⟨content, rfl, rfl, hpath⟩
  | @refused _ content source _ hsource _ =>
    rw [refreshed?_update hsource] at h
    cases h
    exact .inr ⟨content, source, rfl, rfl, hsource⟩
  | @updated _ content source _ hsource _ =>
    rw [refreshed?_update hsource] at h
    cases h
    exact .inr ⟨content, source, rfl, rfl, hsource⟩

/-- A request touches the declarations by its refresh, and by nothing else. -/
theorem declarations_perform {s : Session} {r : Request} {path text : String}
    (hrefreshed : s.refreshed? r = some (path, text)) :
    (s.perform r).state.declarations = (s.declarations.refresh s.engine path text).state := by
  rcases refreshed?_cases hrefreshed with
    ⟨content, rfl, rfl, hpath⟩ | ⟨content, source, rfl, rfl, hsource⟩
  · rw [(perform_add hpath s content).2]
  · cases hresult : (s.declarations.refresh s.engine path (content.getD "")).result with
    | error f =>
      rw [(perform_update_refused hsource hresult).2]
      exact (Declarations.state_of_error hresult).symm
    | ok changed => rw [(perform_update_accepted hsource hresult).2]

/-- A request that asks for no refresh changes nothing. -/
theorem perform_of_idle {s : Session} {r : Request} (hidle : s.refreshed? r = none) :
    (s.perform r).state = s := by
  have hperformed := performed s r
  generalize (s.perform r).state = next at hperformed ⊢
  cases hperformed with
  | idle _ => rfl
  | added hpath =>
    rw [refreshed?_add s hpath] at hidle
    cases hidle
  | refused _ _ => rfl
  | updated hsource _ =>
    rw [refreshed?_update hsource] at hidle
    cases hidle

/-! ## Edited sources -/

/-- The path whose source a request would edit. -/
def Request.edited? : Request → Option String
  | .add path _ => path
  | .update path _ => some path
  | .document _ => none

theorem edited?_of_refreshed? {s : Session} {r : Request} {path text : String}
    (h : s.refreshed? r = some (path, text)) : r.edited? = some path := by
  rcases refreshed?_cases h with ⟨content, rfl, -, -⟩ | ⟨content, source, rfl, -, -⟩ <;> rfl

/-- A request leaves all sources alone but the one that it edits. -/
theorem get?_sources_perform {s : Session} {r : Request} {path : String}
    (hr : r.edited? ≠ some path) : (s.perform r).state.sources.get? path = s.sources.get? path := by
  have hperformed := performed s r
  generalize (s.perform r).state = next at hperformed ⊢
  cases hperformed with
  | idle _ => rfl
  | added _ => exact (Table.get?_insert ..).trans (if_neg fun heq => hr (congrArg some heq))
  | refused _ _ => rfl
  | updated _ _ => exact (Table.get?_insert ..).trans (if_neg fun heq => hr (congrArg some heq))

/-! ## Registered sources -/

/-- Every source is registered under its own path, which is not empty. -/
def Registered (s : Session) : Prop :=
  ∀ path source, s.sources.get? path = some source → source.path = path ∧ path ≠ ""

theorem Registered.insert {s : Session} (h : s.Registered) {path : String} (source : Source)
    (hsource : source.path = path) (hpath : path ≠ "") (declarations : Declarations) :
    Registered { s with sources := s.sources.insert path source, declarations } := by
  intro name other hother
  change (s.sources.insert path source).get? name = some other at hother
  rw [Table.get?_insert] at hother
  split at hother
  · next heq =>
    cases hother
    exact ⟨hsource.trans heq, heq ▸ hpath⟩
  · exact h name other hother

theorem Registered.perform {s : Session} (h : s.Registered) (r : Request) :
    Registered (s.perform r).state := by
  have hperformed := performed s r
  generalize (s.perform r).state = next at hperformed ⊢
  cases hperformed with
  | idle _ => exact h
  | added hpath => exact h.insert ⟨_, _, _⟩ rfl hpath _
  | refused _ _ => exact h
  | @updated path content source _ hsource _ =>
    obtain ⟨hown, hpath⟩ := h path source hsource
    exact h.insert { source with content := content.getD "" } hown hpath _

theorem Registered.refreshed?_ne_empty {s : Session} (h : s.Registered) {r : Request}
    {path text : String} (hr : s.refreshed? r = some (path, text)) : path ≠ "" := by
  rcases refreshed?_cases hr with ⟨content, -, -, hpath⟩ | ⟨content, source, -, -, hsource⟩
  · exact hpath
  · exact (h path source hsource).2

/-! ## Accepted texts -/

/-- What became of the refresh of a request. -/
inductive Served (s : Session) (r : Request) : Prop where
  | kept (haccepted : s.accepted? r = none)
      (hsame : (s.perform r).state.declarations = s.declarations)
  | accepted {path text : String} {changed : Bool} (hrefreshed : s.refreshed? r = some (path, text))
      (haccepted : s.accepted? r = some (path, text))
      (houtcome : Outcome s.engine s.declarations path text (.ok changed)
        (s.perform r).state.declarations)

theorem accepted?_eq_some_iff {s : Session} {r : Request} {path text : String} :
    s.accepted? r = some (path, text) ↔ s.refreshed? r = some (path, text) ∧
      ∃ changed, (s.declarations.refresh s.engine path text).result = .ok changed := by
  rw [accepted?, Option.filter_eq_some_iff]
  refine and_congr_right fun _ => ?_
  cases hresult : (s.declarations.refresh s.engine path text).result with
  | error f => simp [hresult, Except.toBool]
  | ok changed => simp [hresult, Except.toBool]

theorem accepted?_of_result {s : Session} {r : Request} {path text : String} {changed : Bool}
    (hrefreshed : s.refreshed? r = some (path, text))
    (hresult : (s.declarations.refresh s.engine path text).result = .ok changed) :
    s.accepted? r = some (path, text) :=
  accepted?_eq_some_iff.mpr ⟨hrefreshed, changed, hresult⟩

/-- An accepted text is stored. -/
theorem stored_of_accepted? {s : Session} {r : Request} {path text : String}
    (haccepted : s.accepted? r = some (path, text)) :
    ∃ source, (s.perform r).state.sources.get? path = some source ∧ source.content = text := by
  obtain ⟨hrefreshed, changed, hresult⟩ := accepted?_eq_some_iff.mp haccepted
  rcases refreshed?_cases hrefreshed with
    ⟨content, rfl, rfl, hpath⟩ | ⟨content, source, rfl, rfl, hsource⟩
  · rw [(perform_add hpath s content).2]
    exact ⟨_, (Table.get?_insert ..).trans (if_pos rfl), rfl⟩
  · rw [(perform_update_accepted hsource hresult).2]
    exact ⟨_, (Table.get?_insert ..).trans (if_pos rfl), rfl⟩

theorem served (s : Session) (r : Request) : Served s r := by
  cases hrefreshed : s.refreshed? r with
  | none =>
    have hnone : s.accepted? r = none := by
      rw [accepted?, hrefreshed]
      rfl
    exact .kept hnone (by rw [perform_of_idle hrefreshed])
  | some entry =>
    obtain ⟨path, text⟩ := entry
    have hperform := declarations_perform hrefreshed
    have houtcome := Declarations.outcome_refresh s.engine s.declarations path text
    cases hresult : (s.declarations.refresh s.engine path text).result with
    | error f =>
      have hnone : s.accepted? r = none := by
        rw [accepted?, hrefreshed]
        simp [Option.filter, hresult, Except.toBool]
      exact .kept hnone (hperform.trans (Declarations.state_of_error hresult))
    | ok changed =>
      have hsome := accepted?_of_result hrefreshed hresult
      rw [hresult, ← hperform] at houtcome
      exact .accepted hrefreshed hsome houtcome

/-- A request leaves all shapes alone but that of the source it edits. -/
theorem get?_shapes_perform {s : Session} {r : Request} {path : String}
    (hr : r.edited? ≠ some path) :
    (s.perform r).state.declarations.shapes.get? path = s.declarations.shapes.get? path := by
  cases served s r with
  | kept _ hsame => rw [hsame]
  | accepted hrefreshed _ houtcome =>
    exact houtcome.get?_of_ne fun heq => hr (heq ▸ edited?_of_refreshed? hrefreshed)

end LivePreview.Session
