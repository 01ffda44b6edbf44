import LivePreview.Proofs.Request
import LivePreview.Proofs.Shape
import LivePreview.Proofs.Table

/-!
# What is left of a run

Of all requests of a run only the texts that were accepted last count: every cached shape is that of
its accepted text, and the aggregate is made from these shapes. So a request makes the aggregate
anew exactly when the signature differs from the accepted one.
-/

namespace LivePreview.Session

open LivePreview.Component (Aggregate Context Runner Shape)
open LivePreview.Module (Record Resolver)

/-- A text whose declaration a session with the template engine has accepted, and its shape. -/
def Accepts (path text : String) (shape : Shape) : Prop :=
  path ≠ "" ∧ Shape.extract path text = .ok shape

/-- What holds in every state of a run that began with the session `first`. -/
structure History.Sound (run : Runner) (first : Session) (h : History) : Prop where
  engine : h.session.engine = templateEngine
  config : h.session.config = first.config
  registered : h.session.Registered
  coherent : Coherent run first.config.aggregateName first.context.external h.session.declarations
  matched : h.accepted.Matched Accepts h.session.declarations.shapes

namespace History

variable {run : Runner} {first : Session} {h : History}

/-- A successful refresh keeps every shape matched with its accepted text. -/
theorem matched_outcome {accepted : Table String String} {d next : Declarations}
    {path text : String} {changed : Bool} (hmatched : accepted.Matched Accepts d.shapes)
    (hpath : path ≠ "") (houtcome : Outcome templateEngine d path text (.ok changed) next) :
    (accepted.insert path text).Matched Accepts next.shapes := by
  cases houtcome with
  | unchanged hshape hold htext =>
    obtain ⟨before, -, -, hbefore⟩ := hmatched.get?_right hold
    rw [← Table.insert_self hold, Component.shape_eq_of_text hshape hbefore htext]
    exact hmatched.insert ⟨hpath, hshape⟩
  | changed hshape hnew hbuild => exact hmatched.insert ⟨hpath, hshape⟩

theorem Sound.step (hsound : h.Sound run first) (r : Request) : (h.step r).Sound run first := by
  obtain ⟨sources, declarations, hframe⟩ := perform_frame h.session r
  have hengine : (h.step r).session.engine = templateEngine := by
    rw [History.step, hframe]
    exact hsound.engine
  have hconfig : (h.step r).session.config = first.config := by
    rw [History.step, hframe]
    exact hsound.config
  have hregistered := hsound.registered.perform r
  cases served h.session r with
  | kept haccepted hsame =>
    refine ⟨hengine, hconfig, hregistered, ?_, ?_⟩
    · rw [History.step, hsame]
      exact hsound.coherent
    · rw [History.step, haccepted, hsame]
      exact hsound.matched
  | accepted hrefreshed haccepted houtcome =>
    refine ⟨hengine, hconfig, hregistered, (hsound.coherent.outcome houtcome).1, ?_⟩
    rw [hsound.engine] at houtcome
    rw [History.step, haccepted]
    exact matched_outcome hsound.matched (hsound.registered.refreshed?_ne_empty hrefreshed) houtcome

theorem sound_start (resolver : Resolver) (config : Config) (seeds : List Record) (run : Runner) :
    (History.start (Session.start templateEngine resolver config seeds run).2).Sound run
      (Session.start templateEngine resolver config seeds run).2 where
  engine := rfl
  config := rfl
  registered := fun path source hsource => by cases hsource
  coherent := coherent_start templateEngine resolver config seeds run
  matched := Table.matched_empty

/-- What holds at the start and is kept by every request holds after every run. -/
theorem induction_run {P : History → Prop} {s : Session} (hstart : P (start s))
    (hstep : ∀ h r, P h → P (h.step r)) (requests : List Request) : P (History.run s requests) :=
  List.foldlRecOn requests step hstart fun h hh r _ => hstep h r hh

/-- Every state of every run is sound. -/
theorem sound_run (resolver : Resolver) (config : Config) (seeds : List Record) (run : Runner)
    (requests : List Request) :
    (History.run (Session.start templateEngine resolver config seeds run).2 requests).Sound run
      (Session.start templateEngine resolver config seeds run).2 :=
  induction_run (sound_start resolver config seeds run) (fun _ r hsound => hsound.step r) requests

/-! ## Changes -/

/-- A path whose declaration was never accepted, or was accepted with another signature. -/
def Differs (h : History) (path text : String) : Prop :=
  path ∉ h.session.declarations.shapes.keys ∨
    ∃ old, h.accepted.get? path = some old ∧ Template.signature? old ≠ Template.signature? text

/-- What the accepted text of a cached path says of the signature, the shapes say as well. -/
theorem Sound.differs_iff (hsound : h.Sound run first) {path text : String} {shape : Shape}
    (hshape : Shape.extract path text = .ok shape) :
    h.Differs path text ↔
      ∀ old, h.session.declarations.shapes.get? path = some old → old.text ≠ shape.text := by
  constructor
  · intro hdiffers old hold htext
    obtain ⟨before, hbefore, -, hextract⟩ := hsound.matched.get?_right hold
    have hsignature := ((Component.text_eq_iff hextract hshape).mp htext).2
    rcases hdiffers with hnew | ⟨other, hother, hne⟩
    · rw [Table.get?_eq_none_iff.mpr hnew] at hold
      cases hold
    · rw [hbefore] at hother
      cases hother
      exact hne hsignature
  · intro htexts
    cases hold : h.session.declarations.shapes.get? path with
    | none => exact .inl (Table.get?_eq_none_iff.mp hold)
    | some old =>
      obtain ⟨before, hbefore, -, hextract⟩ := hsound.matched.get?_right hold
      refine .inr ⟨before, hbefore, fun hsignature => htexts old hold ?_⟩
      exact (Component.text_eq_iff hextract hshape).mpr ⟨rfl, hsignature⟩

/-- An accepted text makes the aggregate anew if it differs from what was accepted before, and
leaves all declarations as they are otherwise. -/
theorem Sound.step_accepted (hsound : h.Sound run first) {r : Request} {path text : String}
    (haccepted : h.session.accepted? r = some (path, text)) :
    (h.Differs path text ∧
      (h.step r).session.context.generation = h.session.context.generation + 1) ∨
    (¬ h.Differs path text ∧ (h.step r).session.declarations = h.session.declarations) := by
  have hnext : (h.step r).session.declarations = (h.session.perform r).state.declarations := rfl
  unfold Session.context
  rw [hnext]
  cases served h.session r with
  | kept hnone hsame =>
    rw [haccepted] at hnone
    cases hnone
  | accepted hrefreshed hsome houtcome =>
    rw [haccepted] at hsome
    cases hsome
    rw [hsound.engine] at houtcome
    generalize (h.session.perform r).state.declarations = next at houtcome
    cases houtcome with
    | unchanged hshape hold htext =>
      exact .inr ⟨fun h => (hsound.differs_iff hshape).mp h _ hold htext, rfl⟩
    | changed hshape hnew hbuild =>
      obtain ⟨a, -, rfl⟩ := Context.rebuild_eq_ok hbuild
      exact .inl ⟨(hsound.differs_iff hshape).mpr hnew, rfl⟩

/-- An accepted text makes the aggregate anew exactly when its path is new or its signature differs
from the accepted one; shapes differ in their texts exactly when paths or signatures do. -/
theorem generation_step_iff (resolver : Resolver) (config : Config) (seeds : List Record)
    (run : Runner) (requests : List Request) (r : Request) (path text : String) :
    let h := History.run (Session.start templateEngine resolver config seeds run).2 requests
    h.session.accepted? r = some (path, text) →
      ((h.step r).session.context.generation = h.session.context.generation + 1 ↔
        path ∉ h.session.declarations.shapes.keys ∨ ∃ old, h.accepted.get? path = some old ∧
          Template.signature? old ≠ Template.signature? text) ∧
      ((h.step r).session.context.generation ≠ h.session.context.generation + 1 →
        (h.step r).session.declarations = h.session.declarations) ∧
      ∀ p q a b x y, Shape.extract p a = .ok x → Shape.extract q b = .ok y →
        (x.text = y.text ↔ p = q ∧ Template.signature? a = Template.signature? b) := by
  intro h haccepted
  have hstep := (sound_run resolver config seeds run requests).step_accepted haccepted
  refine ⟨⟨fun hrebuilt => ?_, fun hdiffers => ?_⟩, fun hkept => ?_,
    fun p q a b x y hx hy => Component.text_eq_iff hx hy⟩
  · rcases hstep with ⟨hdiffers, -⟩ | ⟨-, hsame⟩
    · exact hdiffers
    · have hcontext : (h.step r).session.context = h.session.context := by
        rw [Session.context, hsame, Session.context]
      rw [hcontext] at hrebuilt
      omega
  · rcases hstep with ⟨-, hrebuilt⟩ | ⟨hsame, -⟩
    · exact hrebuilt
    · exact absurd hdiffers hsame
  · rcases hstep with ⟨-, hrebuilt⟩ | ⟨-, hsame⟩
    · exact absurd hrebuilt hkept
    · exact hsame

/-- A text whose declarations are read is accepted for a path that can be declared. -/
theorem Sound.accepted_of_read (hsound : h.Sound Component.Stub.runText first) {r : Request}
    {path text : String} {t : Template}
    (hrefreshed : h.session.refreshed? r = some (path, text))
    (ht : Template.declarationsOfChars text.toList = .ok t)
    (hdeclares : Aggregate.Declares Component.Stub.runText (path, .ofTemplate t path)) :
    h.session.accepted? r = some (path, text) := by
  have hshape : h.session.engine.shape ⟨path, text, h.session.declarations.kind⟩ =
      .ok (.ofTemplate t path) := by
    rw [hsound.engine]
    change Shape.extract path text = _
    rw [Shape.extract, ht]
  obtain ⟨changed, hresult⟩ := hsound.coherent.refresh_of_declares hshape hdeclares
  exact accepted?_of_result hrefreshed hresult

theorem get?_accepted_run {s : Session} {r : Request} {path text : String}
    (haccepted : (History.run s []).session.accepted? r = some (path, text)) :
    (History.run s [r]).accepted.get? path = some text := by
  change ((History.run s []).step r).accepted.get? path = some text
  rw [History.step, haccepted]
  exact (Table.get?_insert ..).trans (if_pos rfl)

/-- Where a parameter was accepted, another name for it makes the aggregate anew, and markup below it
does not. -/
theorem generation_step_replaced :
    let h := History.run (Session.start templateEngine (.ofTable []) { rules := [] } []).2
      [.add (some "Card.tpl") (some "@param title")]
    let renamed := Request.update "Card.tpl" (some "@param heading")
    let extended := Request.update "Card.tpl" (some "@param title\n<h1>{{ title }}</h1>")
    h.accepted.get? "Card.tpl" = some "@param title" ∧
      h.session.accepted? renamed = some ("Card.tpl", "@param heading") ∧
      (h.step renamed).session.context.generation = h.session.context.generation + 1 ∧
      h.session.accepted? extended = some ("Card.tpl", "@param title\n<h1>{{ title }}</h1>") ∧
      (h.step extended).session.declarations = h.session.declarations := by
  intro h renamed extended
  have hname : Component.componentName "Card.tpl" = "Card" := by decide +kernel
  have hdeclares (t : Template) :
      Aggregate.Declares Component.Stub.runText ("Card.tpl", .ofTemplate t "Card.tpl") :=
    Component.declares_ofTemplate (by decide +kernel) (by rw [hname]; decide +kernel)
      (by rw [hname]; decide +kernel) (by rw [hname]; decide +kernel) t
  have hsound := sound_run (.ofTable []) { rules := [] } [] Component.Stub.runText
  have hread (text : String) (htext : (Template.declarationsOfChars text.toList).toBool = true) :
      ∃ t, Template.declarationsOfChars text.toList = .ok t := by
    cases ht : Template.declarationsOfChars text.toList with
    | ok t => exact ⟨t, rfl⟩
    | error objection =>
      rw [ht] at htext
      cases htext
  have hold : h.accepted.get? "Card.tpl" = some "@param title" := by
    obtain ⟨t, ht⟩ := hread "@param title" (by decide +kernel)
    have hadded : (History.run (Session.start templateEngine (.ofTable []) { rules := [] } []).2
        []).session.accepted? (.add (some "Card.tpl") (some "@param title")) =
          some ("Card.tpl", "@param title") := (hsound []).accepted_of_read rfl ht (hdeclares t)
    with_reducible exact get?_accepted_run hadded
  have hupdated (text : String) (htext : (Template.declarationsOfChars text.toList).toBool = true) :
      h.session.accepted? (.update "Card.tpl" (some text)) = some ("Card.tpl", text) := by
    obtain ⟨t, ht⟩ := hread text htext
    have hsource : h.session.sources.contains "Card.tpl" = true := by decide +kernel
    have hrefreshed : h.session.refreshed? (.update "Card.tpl" (some text)) =
        some ("Card.tpl", text) := by
      rw [Session.refreshed?, if_pos hsource]
      rfl
    with_reducible exact (hsound _).accepted_of_read hrefreshed ht (hdeclares t)
  have hrenamed := hupdated "@param heading" (by decide +kernel)
  have hextended := hupdated "@param title\n<h1>{{ title }}</h1>" (by decide +kernel)
  obtain ⟨hrebuilt, -, -⟩ := generation_step_iff (.ofTable []) { rules := [] } []
    Component.Stub.runText [.add (some "Card.tpl") (some "@param title")] renamed "Card.tpl"
    "@param heading" hrenamed
  obtain ⟨hsame, hkept, -⟩ := generation_step_iff (.ofTable []) { rules := [] } []
    Component.Stub.runText [.add (some "Card.tpl") (some "@param title")] extended "Card.tpl"
    "@param title\n<h1>{{ title }}</h1>" hextended
  have hquiet : (h.step extended).session.context.generation ≠ h.session.context.generation + 1 := by
    intro hchanged
    rcases hsame.mp hchanged with hnew | ⟨old, hbefore, hdiffers⟩
    · obtain ⟨shape, hshape, -⟩ := (hsound _).matched.get?_left hold
      exact hnew (Table.mem_keys_of_get? hshape)
    · cases hold.symm.trans hbefore
      revert hdiffers
      decide +kernel
  have hdiffers : Template.signature? "@param title" ≠ Template.signature? "@param heading" := by
    decide +kernel
  refine ⟨hold, hrenamed, ?_, hextended, ?_⟩
  · with_reducible exact hrebuilt.mpr (.inr ⟨"@param title", hold, hdiffers⟩)
  · with_reducible exact hkept hquiet

end History

end LivePreview.Session
