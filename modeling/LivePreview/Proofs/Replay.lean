import LivePreview.Proofs.Dependence
import LivePreview.Proofs.History
import LivePreview.Rendering.Library

/-!
# Replaying a run

A run can be replayed from its accepted texts alone: each is added once to a fresh session, in the
order of the cache. That never fails, and it ends with the same shapes, the same aggregate and the
same documents. Only the counter of rebuilds can tell the two sessions apart.
-/

namespace LivePreview.Session

open LivePreview.Component (Aggregate Context Document Runner Shape)
open LivePreview.Module (Record Resolver)
open LivePreview.Rendering (addAll)

variable {run : Runner} {name : String} {external : List Record}

/-! ## Adding what is new -/

/-- A new shape that can be entered is accepted, and comes last. -/
theorem Coherent.refresh_new {d : Declarations} (h : Coherent run name external d)
    {path text : String} {shape : Shape} (hshape : Shape.extract path text = .ok shape)
    (hdeclares : Aggregate.Declares run (path, shape)) (hnew : path ∉ d.shapes.keys) :
    (d.refresh templateEngine path text).result = .ok true ∧
      (d.refresh templateEngine path text).state.shapes.entries =
        d.shapes.entries ++ [(path, shape)] := by
  have hextract : templateEngine.shape ⟨path, text, d.kind⟩ = .ok shape := by
    rw [templateEngine_shape, hshape]
  obtain ⟨changed, hresult⟩ := h.refresh_of_declares hextract hdeclares
  have hother : ∀ old, d.shapes.get? path = some old → old.text ≠ shape.text := by
    intro old hold
    rw [Table.get?_eq_none_iff.mpr hnew] at hold
    cases hold
  obtain ⟨rfl, hshapes⟩ := (Declarations.result_of_new hextract hother).2 changed hresult
  rw [hshapes]
  exact ⟨hresult, Table.entries_insert_of_not_mem hnew shape⟩

/-- What a session is after some texts were added to it. -/
structure Extends (s last : Session) (texts : List (String × String))
    (shapes : List (String × Shape)) : Prop where
  engine : last.engine = s.engine
  config : last.config = s.config
  shapes : last.declarations.shapes.entries = s.declarations.shapes.entries ++ shapes
  added : ∀ e ∈ texts, last.sources.get? e.1 = some ⟨e.1, e.2, s.config.kind⟩
  others : ∀ path, path ∉ texts.map (·.1) → last.sources.get? path = s.sources.get? path

theorem Extends.refl (s : Session) : Extends s s [] [] where
  engine := rfl
  config := rfl
  shapes := (List.append_nil _).symm
  added _ he := absurd he List.not_mem_nil
  others _ _ := rfl

theorem Extends.trans {s next last : Session} {texts more : List (String × String)}
    {shapes others : List (String × Shape)} (h : Extends s next texts shapes)
    (hmore : Extends next last more others) (hapart : ∀ e ∈ texts, e.1 ∉ more.map (·.1)) :
    Extends s last (texts ++ more) (shapes ++ others) where
  engine := hmore.engine.trans h.engine
  config := hmore.config.trans h.config
  shapes := by rw [hmore.shapes, h.shapes, List.append_assoc]
  added e he := by
    rcases List.mem_append.mp he with he | he
    · rw [hmore.others e.1 (hapart e he)]
      exact h.added e he
    · rw [← h.config]
      exact hmore.added e he
  others path hpath := by
    rw [List.map_append, List.mem_append, not_or] at hpath
    rw [hmore.others path hpath.2, h.others path hpath.1]

/-- A text of a new path whose shape can be entered is accepted. -/
theorem add_new {s : Session} {path text : String} {shape : Shape}
    (hengine : s.engine = templateEngine) (hcoherent : Coherent run name external s.declarations)
    (haccepts : Accepts path text shape) (hdeclares : Aggregate.Declares run (path, shape))
    (hnew : path ∉ s.declarations.shapes.keys) :
    (s.add (some path) (some text)).result = .ok () ∧
      Coherent run name external (s.add (some path) (some text)).state.declarations ∧
      Extends s (s.add (some path) (some text)).state [(path, text)] [(path, shape)] := by
  obtain ⟨hpath, hextract⟩ := haccepts
  obtain ⟨hresult, hstate⟩ := add_eq hpath s text
  obtain ⟨haccepted, hshapes⟩ := hcoherent.refresh_new hextract hdeclares hnew
  have houtcome := Declarations.outcome_refresh templateEngine s.declarations path text
  rw [hengine] at hresult hstate
  rw [hresult, hstate, haccepted]
  refine ⟨rfl, (hcoherent.outcome houtcome).1, hengine.symm, rfl, hshapes, ?_, ?_⟩
  · intro e he
    rw [List.mem_singleton.mp he]
    exact (Table.get?_insert ..).trans (if_pos rfl)
  · intro other hother
    rw [List.map_singleton, List.mem_singleton] at hother
    exact (Table.get?_insert ..).trans (if_neg (Ne.symm hother))

/-- Texts of new paths whose shapes can be entered are all accepted. -/
theorem addAll_new {texts : List (String × String)} {shapes : List (String × Shape)}
    (hmatched : List.Forall₂ (MatchedEntries Accepts) texts shapes) :
    ∀ s : Session, s.engine = templateEngine → Coherent run name external s.declarations →
      (∀ m ∈ shapes, Aggregate.Declares run m) → (texts.map (·.1)).Nodup →
      (∀ e ∈ texts, e.1 ∉ s.declarations.shapes.keys) →
      ∃ last, addAll s texts = .ok last ∧ Coherent run name external last.declarations ∧
        Extends s last texts shapes := by
  induction hmatched with
  | nil => exact fun s _ hcoherent _ _ _ => ⟨s, rfl, hcoherent, .refl s⟩
  | @cons e m texts shapes hem _ ih =>
    intro s hengine hcoherent hdeclares hdistinct hnew
    obtain ⟨given, text⟩ := e
    obtain ⟨path, shape⟩ := m
    obtain ⟨hkey, haccepts⟩ : path = given ∧ Accepts given text shape := hem
    subst hkey
    rw [List.map_cons, List.nodup_cons] at hdistinct
    obtain ⟨hfresh, hdistinct⟩ := hdistinct
    obtain ⟨hhead, hdeclares⟩ := List.forall_mem_cons.mp hdeclares
    obtain ⟨hother, hnew⟩ := List.forall_mem_cons.mp hnew
    obtain ⟨hresult, hkept, hadded⟩ := add_new hengine hcoherent haccepts hhead hother
    have hrest : addAll s ((path, text) :: texts) =
        addAll (s.add (some path) (some text)).state texts := by
      rw [addAll]
      simp only [hresult]
    generalize (s.add (some path) (some text)).state = next at hkept hadded hrest
    have hkeys : ∀ e ∈ texts, e.1 ∉ next.declarations.shapes.keys := by
      intro e he
      rw [Table.keys, hadded.shapes, List.map_append, List.mem_append, List.map_singleton,
        List.mem_singleton, not_or]
      exact ⟨hnew e he, fun heq => hfresh (List.mem_map.mpr ⟨e, he, heq⟩)⟩
    obtain ⟨last, hlast, hcoherent, hextends⟩ :=
      ih next (hadded.engine.trans hengine) hkept hdeclares hdistinct hkeys
    have hapart : ∀ e ∈ [(path, text)], e.1 ∉ texts.map (·.1) := by
      intro e he
      rw [List.mem_singleton.mp he]
      exact hfresh
    exact ⟨last, hrest.trans hlast, hcoherent, hadded.trans hextends hapart⟩

/-! ## Replaying -/

/-- Contexts that differ in their counters only resolve the same names. -/
theorem resolve_eq {c d : Context} (hexternal : c.external = d.external)
    (haggregate : c.aggregate = d.aggregate) (name : String) : c.resolve name = d.resolve name := by
  unfold Context.resolve Context.hasModule
  rw [hexternal, haggregate]

theorem agree_of_aggregate_eq {c d : Context} (hexternal : c.external = d.external)
    (haggregate : c.aggregate = d.aggregate) (t : Template) : Component.Agree c d t where
  tags tag _ := resolve_eq hexternal haggregate tag
  modules u _ := by
    unfold Context.hasModule
    rw [hexternal]

/-- Coherent declarations with the same shapes have the same aggregate. -/
theorem Coherent.aggregate_eq {d e : Declarations} (hd : Coherent run name external d)
    (he : Coherent run name external e) (hshapes : d.shapes = e.shapes) :
    d.context.aggregate = e.context.aggregate := by
  have hbuilt := hd.built
  rw [hshapes, he.built] at hbuilt
  exact (Except.ok.inj hbuilt).symm

/-- The accepted texts of any run, added once each to a fresh session, lead to the same shapes, the
same aggregate and, where they are the registered texts, to the same documents up to the version. -/
theorem replay_run (resolver : Resolver) (config : Config) (seeds : List Record) (run : Runner)
    (requests : List Request) :
    let first := (Session.start templateEngine resolver config seeds run).2
    let h := History.run first requests
    h.accepted.keys = h.session.declarations.shapes.keys ∧
      ∃ fresh, addAll first h.accepted.entries = .ok fresh ∧
        fresh.declarations.shapes = h.session.declarations.shapes ∧
        fresh.context.aggregate = h.session.context.aggregate ∧
        (∀ name, fresh.context.resolve name = h.session.context.resolve name) ∧
        ∀ path source, h.session.sources.get? path = some source →
          h.accepted.get? path = some source.content →
          h.session.document path = (fresh.document path).map fun document =>
            { document with version := h.session.context.generation } := by
  intro first h
  have hsound := History.sound_run resolver config seeds run requests
  have hkeys := hsound.matched.keys_eq
  refine ⟨hkeys.symm, ?_⟩
  have hnothing : ∀ e ∈ h.accepted.entries, e.1 ∉ first.declarations.shapes.keys :=
    fun e _ => List.not_mem_nil
  obtain ⟨fresh, hfresh, hcoherent, hextends⟩ := addAll_new hsound.matched first rfl
    (coherent_start templateEngine resolver config seeds run) hsound.coherent.declares
    h.accepted.nodup hnothing
  have hshapes : fresh.declarations.shapes = h.session.declarations.shapes :=
    Table.ext hextends.shapes
  have haggregate : fresh.context.aggregate = h.session.context.aggregate :=
    hcoherent.aggregate_eq hsound.coherent hshapes
  have hexternal : fresh.context.external = h.session.context.external :=
    hcoherent.fixed.trans hsound.coherent.fixed.symm
  refine ⟨fresh, hfresh, hshapes, haggregate, resolve_eq hexternal haggregate, ?_⟩
  intro path source hsource haccepted
  obtain ⟨hpath, -⟩ := hsound.registered path source hsource
  have hadded := hextends.added _ (Table.mem_entries_iff.mpr haccepted)
  have hdocument : h.session.document path =
      Document.generate h.session.context path source.content := by
    rw [Session.document, hsource, hsound.engine, ← hpath]
    rfl
  have hreplayed : fresh.document path = Document.generate fresh.context path source.content := by
    rw [Session.document, hadded, hextends.engine]
    rfl
  rw [hdocument, hreplayed]
  exact Component.generate_eq
    (fun t _ => agree_of_aggregate_eq hexternal.symm haggregate.symm t) path

end LivePreview.Session
