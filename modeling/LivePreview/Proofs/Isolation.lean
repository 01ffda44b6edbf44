import LivePreview.Proofs.Hosted

/-!
# A broken source never blocks another one

Every rebuild makes the aggregate from all shapes that are kept. Yet each of these was entered before,
and what becomes of a text that keeps to itself is a matter of this text. So whether a new shape is
accepted, and what is wrong with it otherwise, is found out by building it alone: which shapes are kept
beside it, and in which order, does not show. The context may have been used before.
-/

namespace LivePreview.Session

open LivePreview.Component (Aggregate Context Flags Host Runner Shape)
open LivePreview.Module (Record)

namespace Declarations

/-- Every shape that is kept can be entered, whatever is kept beside it. -/
def Enterable (d : Declarations) : Prop :=
  ∀ e ∈ d.shapes.entries, Aggregate.Declares d.context.run e

theorem enterable_new (c : Context) (kind : String) : (new c kind).Enterable :=
  fun _ he => absurd he List.not_mem_nil

variable {d next : Declarations} {engine : Engine} {path content : String}

/-- A refresh keeps every shape enterable, and never changes how texts are run. -/
theorem Enterable.outcome (h : d.Enterable) {result : Except Failure Bool}
    (houtcome : Outcome engine d path content result next) :
    next.Enterable ∧ next.context.run = d.context.run := by
  cases houtcome with
  | unread hshape => exact ⟨h, rfl⟩
  | unbuilt hshape hnew hbuild => exact ⟨h, rfl⟩
  | unchanged hshape hold htext => exact ⟨h, rfl⟩
  | changed hshape hnew hbuild =>
    have hentered := Context.rebuild_eq_ok_iff.mp ⟨_, hbuild⟩
    obtain ⟨a, -, rfl⟩ := Context.rebuild_eq_ok hbuild
    exact ⟨hentered, rfl⟩

theorem Enterable.serveAll (h : d.Enterable) (calls : List Call) :
    (d.serveAll calls).Enterable ∧ (d.serveAll calls).context.run = d.context.run := by
  refine List.foldlRecOn (motive := fun e : Declarations => e.Enterable ∧
    e.context.run = d.context.run) calls _ ⟨h, rfl⟩ fun next hnext call _ => ?_
  obtain ⟨henterable, hrun⟩ := hnext
  obtain ⟨hkept, hsame⟩ :=
    henterable.outcome (outcome_refresh call.engine next call.path call.content)
  exact ⟨hkept, hsame.trans hrun⟩

/-- Beside shapes that can be entered, a rebuild fails only for what is wrong with the new one. -/
theorem Enterable.rebuild_insert (h : d.Enterable) (shape : Shape) (f : Failure) :
    (d.context.rebuild (d.shapes.insert path shape)).2 = .error f ↔
      Aggregate.declared d.context.run path shape = .error f := by
  obtain ⟨first, others, hentries, hold⟩ := d.shapes.exists_entries_insert path shape
  exact Context.rebuild_eq_error_iff_of_others hentries fun e he => h e (hold e he)

end Declarations

/-! ## On a host -/

namespace Hosted

variable {W : Type} {host : Host W} {h next : Hosted W} {call : Call}

/-- What keeps a text from disturbing others, and others from disturbing it. -/
abbrev KeepsToItself (host : Host W) (shape : Shape) : Prop :=
  host.Contains shape ∧ host.KeepsApart shape

/-- Every shape that is kept can always be entered. -/
def Enterable (host : Host W) (d : Declarations) : Prop := ∀ e ∈ d.shapes.entries, host.Accepts e

theorem Outcome.enterable {result : Except Raised Bool} (houtcome : Outcome host h call result next)
    (henterable : Enterable host h.declarations)
    (hkept : ∀ e ∈ h.declarations.shapes.entries, KeepsToItself host e.2)
    (hnew : Delivers h.declarations.kind [call] (KeepsToItself host)) :
    Enterable host next.declarations := by
  have hshapes := houtcome.forall_shapes hkept hnew
  cases houtcome with
  | unread hshape => exact henterable
  | unbuilt _ _ _ _ => exact henterable
  | ended hshape _ hbuild habrupt =>
    rw [ordinary_of_rebuild hshape (fun e he => (hkept e he).1) hnew.and.1 hbuild] at habrupt
    cases habrupt
  | unchanged _ _ _ => exact henterable
  | changed hshape _ hbuild => exact Host.accepts_of_rebuild (fun e he => (hshapes e he).2) hbuild

theorem enterable_serveAll (calls : List Call) (h : Hosted W)
    (henterable : Enterable host h.declarations)
    (hkept : ∀ e ∈ h.declarations.shapes.entries, KeepsToItself host e.2)
    (hnew : Delivers h.declarations.kind calls (KeepsToItself host)) :
    Enterable host (h.serveAll host calls).declarations :=
  serveAll_preserves (Enterable host) Outcome.enterable calls h henterable hkept hnew

/-- A new shape is kept unless the rebuild fails. -/
theorem result_of_new {shape : Shape}
    (hshape : call.engine.shape ⟨call.path, call.content, h.declarations.kind⟩ = .ok shape)
    (hnew : ∀ old, h.declarations.shapes.get? call.path = some old → old.text ≠ shape.text) :
    (∀ raised, (h.serve host call).result = .error raised ↔
      (host.rebuild h.world h.declarations.context
        (h.declarations.shapes.insert call.path shape)).result = .error raised) ∧
    ∀ changed, (h.serve host call).result = .ok changed → changed = true ∧
      (h.serve host call).state.declarations.shapes =
        h.declarations.shapes.insert call.path shape := by
  have houtcome := outcome_serve host h call
  generalize (h.serve host call).result = result at houtcome ⊢
  generalize (h.serve host call).state = state at houtcome ⊢
  cases houtcome with
  | unread hfail =>
    rw [hshape] at hfail
    cases hfail
  | unbuilt hother _ hbuild _ | ended hother _ hbuild _ =>
    rw [hshape] at hother
    cases hother
    rw [hbuild]
    exact ⟨fun other => by simp, fun changed h => (by cases h)⟩
  | unchanged hother hold htext =>
    rw [hshape] at hother
    cases hother
    exact absurd htext (hnew _ hold)
  | changed hother _ hbuild =>
    rw [hshape] at hother
    cases hother
    rw [hbuild]
    refine ⟨fun raised => by simp, fun changed h => ?_⟩
    cases h
    exact ⟨rfl, rfl⟩

/-- A shape that is built alone fails for what is wrong with it. -/
theorem rebuild_alone (external : List Record) (name : String) {path : String} {shape : Shape}
    (hapart : host.KeepsApart shape) {raised : Raised} (w v : W) :
    (host.rebuild w (Context.new external name) (.ofList [(path, shape)])).result = .error raised ↔
      (host.declared v path shape).2 = .error raised := by
  have hentries : (Table.ofList [(path, shape)]).entries = [] ++ (path, shape) :: [] := rfl
  exact Host.rebuild_eq_error_iff_of_others hentries (fun _ he => absurd he List.not_mem_nil) hapart
    w v

/-- On any host, after any refreshes with texts that keep to themselves, the refresh of a path with a
new such text fails exactly when its shape fails alone on a fresh context, whatever was left on the
host by then, and with the same failure. Otherwise it answers that the declaration changed, and the
shapes of all other paths stay. -/
theorem serve_eq_error_iff_alone (host : Host W) (world : W) (c : Context) (kind : String)
    (calls : List Call) (call : Call) (shape : Shape) (external : List Record) (name : String) :
    let h := (⟨world, .new c kind⟩ : Hosted W).serveAll host calls
    let alone w := (host.rebuild w (Context.new external name) (.ofList [(call.path, shape)])).result
    Delivers kind (call :: calls) (KeepsToItself host) →
    call.engine.shape ⟨call.path, call.content, kind⟩ = .ok shape →
    (∀ old, h.declarations.shapes.get? call.path = some old → old.text ≠ shape.text) →
      ∀ w,
        (∀ raised, (h.serve host call).result = .error raised ↔ alone w = .error raised) ∧
        ((∀ raised, alone w ≠ .error raised) →
          (h.serve host call).result = .ok true ∧
          (h.serve host call).state.declarations.shapes.get? call.path = some shape ∧
          ∀ other, other ≠ call.path →
            (h.serve host call).state.declarations.shapes.get? other =
              h.declarations.shapes.get? other) := by
  intro h alone hkeeps hshape hnew w
  obtain ⟨⟨-, hself⟩, hcalls⟩ : KeepsToItself host shape ∧ Delivers kind calls (KeepsToItself host) :=
    ⟨hkeeps call List.mem_cons_self shape hshape, hkeeps.cons.2⟩
  have henterable : Enterable host h.declarations :=
    enterable_serveAll calls _ (fun e he => absurd he List.not_mem_nil)
      (fun e he => absurd he List.not_mem_nil) hcalls
  have hkind : h.declarations.kind = kind := kind_serveAll calls _
  rw [← hkind] at hshape
  obtain ⟨hfailed, hkept⟩ := result_of_new hshape hnew
  obtain ⟨first, others, hentries, hold⟩ :=
    h.declarations.shapes.exists_entries_insert call.path shape
  have hfailure (raised : Raised) :
      (h.serve host call).result = .error raised ↔ alone w = .error raised := by
    refine (hfailed raised).trans (Iff.trans ?_ (rebuild_alone external name hself w w).symm)
    exact Host.rebuild_eq_error_iff_of_others hentries (fun e he => henterable e (hold e he)) hself
      h.world w
  refine ⟨hfailure, fun halone => ?_⟩
  cases hresult : (h.serve host call).result with
  | error raised => exact absurd ((hfailure raised).mp hresult) (halone raised)
  | ok changed =>
    obtain ⟨rfl, hshapes⟩ := hkept changed hresult
    rw [hshapes]
    refine ⟨rfl, ?_, fun other hother => ?_⟩
    · rw [Table.get?_insert, if_pos rfl]
    · rw [Table.get?_insert, if_neg (Ne.symm hother)]

/-- A stub that fails is refused beside one that raised a flag, and its repair is kept. -/
theorem serve_beside_kept :
    let card : Shape :=
      ⟨"Card.tpl", "Card", "ComponentBase.seen = True\nclass Card(ComponentBase): pass"⟩
    let broken : Shape := ⟨"Link.tpl", "Link", "class Link(ComponentBase): raise ValueError('late')"⟩
    let repaired : Shape := ⟨"Link.tpl", "Link", "class Link(ComponentBase): pass"⟩
    let h := (⟨∅, .new (Context.new [] "declarations") "component"⟩ : Hosted Flags).serveAll
      Flags.host [delivering card]
    (h.serve Flags.host (delivering broken)).result =
        .error (.failure (.declaration "Link.tpl" "declaration failed: ValueError: late")) ∧
      (h.serve Flags.host (delivering repaired)).result = .ok true ∧
      (h.serve Flags.host (delivering repaired)).state.declarations.shapes.get? "Card.tpl" =
        some card := by
  intro card broken repaired h
  have hkeeps : ∀ shape ∈ [card, broken, repaired], KeepsToItself Flags.host shape := by
    intro shape hshape
    refine Flags.keepsToItself ?_
    revert shape
    decide +kernel
  simp only [List.forall_mem_cons] at hkeeps
  obtain ⟨hcard, hbroken, hrepaired, -⟩ := hkeeps
  have hdelivers {shape : Shape} (hshape : KeepsToItself Flags.host shape) :
      Delivers "component" (List.map delivering [shape, card]) (KeepsToItself Flags.host) := by
    rw [delivers_map_delivering, List.forall_mem_cons, List.forall_mem_singleton]
    exact ⟨hshape, hcard⟩
  have hnew (shape : Shape) :
      ∀ old, h.declarations.shapes.get? "Link.tpl" = some old → old.text ≠ shape.text := by
    have hnone : h.declarations.shapes.get? "Link.tpl" = none := by decide +kernel
    intro old hold
    rw [hnone] at hold
    cases hold
  obtain ⟨hfails, -⟩ := serve_eq_error_iff_alone Flags.host ∅ (Context.new [] "declarations")
    "component" [delivering card] (delivering broken) broken [] "declarations" (hdelivers hbroken)
    rfl (hnew broken) ∅
  obtain ⟨-, hkept⟩ := serve_eq_error_iff_alone Flags.host ∅ (Context.new [] "declarations")
    "component" [delivering card] (delivering repaired) repaired [] "declarations"
    (hdelivers hrepaired) rfl (hnew repaired) ∅
  have hrefused : (Flags.host.declared ∅ "Link.tpl" broken).2 =
      .error (.failure (.declaration "Link.tpl" "declaration failed: ValueError: late")) := by
    decide +kernel
  have hdeclared : (Flags.host.declared ∅ "Link.tpl" repaired).2 = .ok (some .empty) := by
    decide +kernel
  obtain ⟨hresult, -, hothers⟩ := hkept fun raised halone => by
    cases hdeclared.symm.trans ((rebuild_alone [] "declarations" hrepaired.2 ∅ ∅).mp halone)
  refine ⟨(hfails _).mpr ((rebuild_alone _ _ hbroken.2 ∅ ∅).mpr hrefused), hresult, ?_⟩
  rw [hothers "Card.tpl" (by decide)]
  decide +kernel

/-- A text that looks at a flag fails beside one that raises it, though a third one had lowered it
again and the text is built alone; and beside a text that has ended the host, nothing is kept. -/
theorem not_always_alone :
    let start : Hosted Flags := ⟨∅, .new (Context.new [] "declarations") "component"⟩
    let alone (h : Hosted Flags) (shape : Shape) :=
      (Flags.host.rebuild h.world (Context.new [] "declarations")
        (.ofList [(shape.path, shape)])).result
    let flagged := start.serveAll Flags.host (List.map delivering [
      ⟨"A.tpl", "A", "ComponentBase.seen = True\nclass A(ComponentBase): pass"⟩,
      ⟨"P.tpl", "P", "class P(ComponentBase): pass"⟩,
      ⟨"Z.tpl", "Z", "ComponentBase.seen = False\nclass Z(ComponentBase): pass"⟩])
    let watching : Shape := ⟨"P.tpl", "P",
      "class P(ComponentBase):\n    if ComponentBase.seen: raise RuntimeError('boom')"⟩
    let ended := start.serveAll Flags.host (List.map delivering [
      ⟨"A.tpl", "A", "class A(ComponentBase): raise SystemExit('over')"⟩])
    let plain : Shape := ⟨"B.tpl", "B", "class B(ComponentBase): pass"⟩
    (flagged.serve Flags.host (delivering watching)).result =
        .error (.failure (.declaration "P.tpl" "declaration failed: RuntimeError: boom")) ∧
      (alone flagged watching).toBool = true ∧
      (ended.serve Flags.host (delivering plain)).result = .error (.host ⟨"SystemExit", "over"⟩) ∧
      (alone ended plain).toBool = true := by
  decide +kernel

end Hosted

end LivePreview.Session
