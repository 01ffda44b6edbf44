import LivePreview.Proofs.Dependence
import LivePreview.Proofs.History

/-!
# What an edit can change elsewhere

A document sees of its context only what the component tags of its template stand for, and which of
its modules are there. The external modules of a session never change. So an edit of another source
shows in a document only through a tag that stands for something else afterwards; the version of the
document apart.
-/

namespace LivePreview.Session

open LivePreview.Component (Agree Context Document Runner)
open LivePreview.Module (Record Resolver)

variable {run : Runner} {first : Session} {h : History}

/-- The document of a registered source is made from its stored text. -/
theorem History.Sound.document_eq (hsound : h.Sound run first) {path : String} {source : Source}
    (hsource : h.session.sources.get? path = some source) :
    h.session.document path = Document.generate h.session.context path source.content := by
  obtain ⟨hpath, -⟩ := hsound.registered path source hsource
  rw [Session.document, hsource, hsound.engine, ← hpath]
  rfl

/-- Every state of a session has the external modules of its start. -/
theorem History.Sound.hasModule_step (hsound : h.Sound run first) (r : Request) (name : String) :
    (h.step r).session.context.hasModule name = h.session.context.hasModule name := by
  have hfixed := (hsound.step r).coherent.fixed.trans hsound.coherent.fixed.symm
  exact congrArg (List.any · fun m => decide (m.name = name)) hfixed

/-- Contexts in which the component tags of a template stand for the same and which agree on the
modules that it names give the same document up to the version, or the same failure. So after any
requests, an edit of one source changes anything but the version in the outcome for another one only
if a component tag used there stands for something else afterwards. -/
theorem document_depends_on_tags :
    (∀ (c d : Context) (path content : String),
      (∀ t, Template.ofChars content.toList = .ok t →
        (∀ tag ∈ t.componentTags, c.resolve tag = d.resolve tag) ∧
        ∀ u ∈ t.usings, c.hasModule u.module = d.hasModule u.module) →
      Document.generate c path content = (Document.generate d path content).map fun document =>
        { document with version := c.generation }) ∧
    ∀ (resolver : Resolver) (config : Config) (seeds : List Record) (run : Runner)
      (requests : List Request) (r : Request) (path : String) (source : Source),
      let s := (History.run (Session.start templateEngine resolver config seeds run).2
        requests).session
      let next := (s.perform r).state
      s.sources.get? path = some source → r.edited? ≠ some path →
      next.document path ≠ (s.document path).map (fun document =>
        { document with version := next.context.generation }) →
      ∃ t, Template.ofChars source.content.toList = .ok t ∧
        ∃ tag ∈ t.componentTags, next.context.resolve tag ≠ s.context.resolve tag := by
  refine ⟨fun c d path content hagree => ?_, ?_⟩
  · exact Component.generate_eq (fun t ht => ⟨(hagree t ht).1, (hagree t ht).2⟩) path
  · intro resolver config seeds run requests r path source s next hsource hother hchanged
    have hsound := History.sound_run resolver config seeds run requests
    by_contra hnone
    have hstored : next.sources.get? path = some source :=
      (get?_sources_perform hother).trans hsource
    have hbefore : s.document path = Document.generate s.context path source.content :=
      hsound.document_eq hsource
    have hafter : next.document path = Document.generate next.context path source.content :=
      (hsound.step r).document_eq hstored
    have hagree (t : Template) (ht : Template.ofChars source.content.toList = .ok t) :
        Agree next.context s.context t := by
      refine ⟨fun tag htag => ?_, fun u _ => hsound.hasModule_step r u.module⟩
      by_contra hne
      exact hnone ⟨t, ht, tag, htag, hne⟩
    refine hchanged ?_
    rw [hbefore, hafter]
    exact Component.generate_eq hagree path

end LivePreview.Session
