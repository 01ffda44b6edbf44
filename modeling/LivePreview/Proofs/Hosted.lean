import LivePreview.Proofs.Host
import LivePreview.Proofs.Refresh
import LivePreview.Session.Hosted

/-!
# Declarations on a host

Whatever the texts do, external modules and the counter are sound, and an ordinary exception leaves
the declarations as they are. Where no other exception comes out of a text, the aggregate was made of
the shapes that are kept; and where moreover no text looks at what others left behind, it would be
made of them again at any time.
-/

namespace LivePreview.Session

open LivePreview.Component (Aggregate Context Flags Host Ran Runner Shape)
open LivePreview.Module (Ascending Record Resolver)

/-- What the engines of some refreshes can deliver for declarations of this kind. -/
def Delivers (kind : String) (calls : List Call) (p : Shape → Prop) : Prop :=
  ∀ call ∈ calls, ∀ shape, call.engine.shape ⟨call.path, call.content, kind⟩ = .ok shape → p shape

theorem Delivers.and {kind : String} {calls : List Call} {p q : Shape → Prop}
    (h : Delivers kind calls fun shape => p shape ∧ q shape) :
    Delivers kind calls p ∧ Delivers kind calls q :=
  ⟨fun call hcall shape hshape => (h call hcall shape hshape).1,
    fun call hcall shape hshape => (h call hcall shape hshape).2⟩

theorem Delivers.cons {kind : String} {call : Call} {calls : List Call} {p : Shape → Prop}
    (h : Delivers kind (call :: calls) p) : Delivers kind [call] p ∧ Delivers kind calls p := by
  refine ⟨fun c hc => h c ?_, fun c hc => h c (List.mem_cons_of_mem _ hc)⟩
  rw [List.mem_singleton.mp hc]
  exact List.mem_cons_self

/-- What holds of the shapes that are kept, and of what an engine can deliver, holds of all shapes
when one that it delivers is kept, too. -/
theorem Delivers.forall_insert {d : Declarations} {call : Call} {shape : Shape} {p : Shape → Prop}
    (hnew : Delivers d.kind [call] p)
    (hshape : call.engine.shape ⟨call.path, call.content, d.kind⟩ = .ok shape)
    (hkept : ∀ e ∈ d.shapes.entries, p e.2) :
    ∀ e ∈ (d.shapes.insert call.path shape).entries, p e.2 := by
  intro e he
  rcases Table.mem_entries_insert he with rfl | he
  · exact hnew call List.mem_cons_self _ hshape
  · exact hkept e he

/-- A refresh with a given shape. -/
def delivering (shape : Shape) : Call where
  engine := { shape := fun _ => .ok shape, document := fun _ s => .error (.generation s.path "") }
  path := shape.path
  content := shape.text

theorem delivers_map_delivering {kind : String} {shapes : List Shape} {p : Shape → Prop} :
    Delivers kind (shapes.map delivering) p ↔ ∀ shape ∈ shapes, p shape := by
  simp [Delivers, delivering]

namespace Hosted

variable {W : Type} {host : Host W}

/-! ## One refresh -/

/-- All that a refresh on a host can answer and leave behind. -/
inductive Outcome (host : Host W) (h : Hosted W) (call : Call) :
    Except Raised Bool → Hosted W → Prop where
  | unread {f : Failure}
      (hshape : call.engine.shape ⟨call.path, call.content, h.declarations.kind⟩ = .error f) :
      Outcome host h call (.error (.failure f)) h
  | unbuilt {shape : Shape} {raised : Raised} {world : W}
      (hshape : call.engine.shape ⟨call.path, call.content, h.declarations.kind⟩ = .ok shape)
      (hnew : ∀ old, h.declarations.shapes.get? call.path = some old → old.text ≠ shape.text)
      (hbuild : (host.rebuild h.world h.declarations.context
        (h.declarations.shapes.insert call.path shape)).result = .error raised)
      (hordinary : raised.isOrdinary = true) :
      Outcome host h call (.error raised) ⟨world, h.declarations⟩
  | ended {shape : Shape} {raised : Raised} {world : W}
      (hshape : call.engine.shape ⟨call.path, call.content, h.declarations.kind⟩ = .ok shape)
      (hnew : ∀ old, h.declarations.shapes.get? call.path = some old → old.text ≠ shape.text)
      (hbuild : (host.rebuild h.world h.declarations.context
        (h.declarations.shapes.insert call.path shape)).result = .error raised)
      (habrupt : raised.isOrdinary = false) :
      Outcome host h call (.error raised) ⟨world, h.declarations.keep call.path shape⟩
  | unchanged {shape old : Shape}
      (hshape : call.engine.shape ⟨call.path, call.content, h.declarations.kind⟩ = .ok shape)
      (hold : h.declarations.shapes.get? call.path = some old) (htext : old.text = shape.text) :
      Outcome host h call (.ok false) h
  | changed {shape : Shape} {next : Context} {world : W}
      (hshape : call.engine.shape ⟨call.path, call.content, h.declarations.kind⟩ = .ok shape)
      (hnew : ∀ old, h.declarations.shapes.get? call.path = some old → old.text ≠ shape.text)
      (hbuild : (host.rebuild h.world h.declarations.context
        (h.declarations.shapes.insert call.path shape)).result = .ok next) :
      Outcome host h call (.ok true)
        ⟨world, { h.declarations with
          shapes := h.declarations.shapes.insert call.path shape, context := next }⟩

theorem outcome_store {h : Hosted W} {call : Call} {shape : Shape}
    (hshape : call.engine.shape ⟨call.path, call.content, h.declarations.kind⟩ = .ok shape)
    (hnew : ∀ old, h.declarations.shapes.get? call.path = some old → old.text ≠ shape.text) :
    Outcome host h call (h.store host call.path shape).result
      (h.store host call.path shape).state := by
  unfold store
  extract_lets kept
  split
  · next log world raised hbuild =>
    have hresult := congrArg Ran.result hbuild
    cases hordinary : raised.isOrdinary with
    | true =>
      simp only [if_pos]
      rw [Declarations.restore_keep]
      exact .unbuilt hshape hnew hresult hordinary
    | false => exact .ended hshape hnew hresult hordinary
  · next log world next hbuild => exact .changed hshape hnew (congrArg Ran.result hbuild)

theorem outcome_serve (host : Host W) (h : Hosted W) (call : Call) :
    Outcome host h call (h.serve host call).result (h.serve host call).state := by
  unfold serve refresh
  split
  · next f hshape => exact .unread hshape
  · next shape hshape =>
    split
    · next hnone => exact outcome_store hshape fun old hold => by simp [hnone] at hold
    · next old hold =>
      split
      · next htext => exact .unchanged hshape hold htext
      · next htext =>
        refine outcome_store hshape fun other hother => ?_
        rw [hold] at hother
        exact Option.some.inj hother ▸ htext

variable {h next : Hosted W} {call : Call} {result : Except Raised Bool}

theorem Outcome.kind_eq (houtcome : Outcome host h call result next) :
    next.declarations.kind = h.declarations.kind := by
  cases houtcome <;> rfl

theorem Outcome.run_eq (houtcome : Outcome host h call result next) :
    next.declarations.context.run = h.declarations.context.run := by
  cases houtcome with
  | unread hshape => rfl
  | unbuilt _ _ _ _ => rfl
  | ended _ _ _ _ => rfl
  | unchanged _ _ _ => rfl
  | changed hshape hnew hbuild =>
    obtain ⟨aggregate, -, rfl⟩ := Host.rebuild_eq_ok hbuild
    rfl

/-- An ordinary exception leaves the declarations as they are. -/
theorem Outcome.declarations_of_ordinary {raised : Raised}
    (houtcome : Outcome host h call (.error raised) next) (hordinary : raised.isOrdinary = true) :
    next.declarations = h.declarations := by
  cases houtcome with
  | unread hshape => rfl
  | unbuilt hshape hnew hbuild _ => rfl
  | ended hshape hnew hbuild habrupt =>
    rw [hordinary] at habrupt
    cases habrupt

/-- Whatever holds of all shapes that are kept, and of what the engine delivers, holds after the
refresh of all that are kept. -/
theorem Outcome.forall_shapes {p : Shape → Prop} (houtcome : Outcome host h call result next)
    (hkept : ∀ e ∈ h.declarations.shapes.entries, p e.2)
    (hnew : Delivers h.declarations.kind [call] p) :
    ∀ e ∈ next.declarations.shapes.entries, p e.2 := by
  cases houtcome with
  | unread hshape => exact hkept
  | unbuilt hshape _ _ _ => exact hkept
  | ended hshape _ _ _ => exact hnew.forall_insert hshape hkept
  | unchanged hshape _ _ => exact hkept
  | changed hshape _ _ => exact hnew.forall_insert hshape hkept

/-- If all texts raise ordinary exceptions only, so does a rebuild with a new one. -/
theorem ordinary_of_rebuild {shape : Shape} {raised : Raised} {w : W} {c : Context}
    {d : Declarations}
    (hshape : call.engine.shape ⟨call.path, call.content, d.kind⟩ = .ok shape)
    (hkept : ∀ e ∈ d.shapes.entries, host.Contains e.2)
    (hnew : Delivers d.kind [call] host.Contains)
    (hbuild : (host.rebuild w c (d.shapes.insert call.path shape)).result = .error raised) :
    raised.isOrdinary = true :=
  Host.ordinary_of_enterAll (hnew.forall_insert hshape hkept) _ _
    (Host.rebuild_eq_error_iff.mp hbuild)

/-- And so does the refresh. -/
theorem Outcome.ordinary {raised : Raised}
    (houtcome : Outcome host h call (.error raised) next)
    (hkept : ∀ e ∈ h.declarations.shapes.entries, host.Contains e.2)
    (hnew : Delivers h.declarations.kind [call] host.Contains) : raised.isOrdinary = true := by
  cases houtcome with
  | unread hshape => rfl
  | unbuilt _ _ _ hordinary => exact hordinary
  | ended hshape _ hbuild _ => exact ordinary_of_rebuild hshape hkept hnew hbuild

/-! ## All refreshes -/

/-- What holds of declarations on any host: the context has its name and its external modules, and
its modules are these and the aggregate, which refers to them by name. -/
structure Joined (name : String) (external : List Record) (d : Declarations) : Prop where
  named : d.context.aggregateName = name
  fixed : d.context.external = external
  references : d.context.references = external ++ [d.context.aggregate.record]
  record : d.context.aggregate.record =
    { name, location := none, references := external.map (·.name), synthetic := true }

/-- The aggregate was made of the shapes that are kept. -/
def Made (host : Host W) (d : Declarations) : Prop :=
  ∃ w, (host.build w d.context.aggregateName (d.context.external.map (·.name)) d.shapes).result =
    .ok d.context.aggregate

theorem Outcome.joined {name : String} {external : List Record}
    (houtcome : Outcome host h call result next) (hjoined : Joined name external h.declarations) :
    Joined name external next.declarations ∧
      next.declarations.context.generation =
        h.declarations.context.generation + if isChange result then 1 else 0 := by
  cases houtcome with
  | unread hshape => exact ⟨hjoined, rfl⟩
  | unbuilt _ _ _ _ => exact ⟨hjoined, rfl⟩
  | ended _ _ _ _ => exact ⟨⟨hjoined.named, hjoined.fixed, hjoined.references, hjoined.record⟩, rfl⟩
  | unchanged _ _ _ => exact ⟨hjoined, rfl⟩
  | changed hshape hnew hbuild =>
    obtain ⟨aggregate, haggregate, rfl⟩ := Host.rebuild_eq_ok hbuild
    obtain ⟨last, -, rfl⟩ := Host.build_eq_ok haggregate
    refine ⟨⟨hjoined.named, hjoined.fixed, ?_, ?_⟩, rfl⟩
    · exact congrArg (· ++ [_]) hjoined.fixed
    · rw [Context.replace, Aggregate.record, hjoined.named, hjoined.fixed]

theorem Outcome.made (houtcome : Outcome host h call result next)
    (hmade : Made host h.declarations)
    (hkept : ∀ e ∈ h.declarations.shapes.entries, host.Contains e.2)
    (hnew : Delivers h.declarations.kind [call] host.Contains) : Made host next.declarations := by
  cases houtcome with
  | unread hshape => exact hmade
  | unbuilt _ _ _ _ => exact hmade
  | ended hshape _ hbuild habrupt =>
    rw [ordinary_of_rebuild hshape hkept hnew hbuild] at habrupt
    cases habrupt
  | unchanged _ _ _ => exact hmade
  | changed hshape _ hbuild =>
    obtain ⟨aggregate, haggregate, rfl⟩ := Host.rebuild_eq_ok hbuild
    exact ⟨h.world, haggregate⟩

theorem kind_serveAll (calls : List Call) :
    ∀ h : Hosted W, (h.serveAll host calls).declarations.kind = h.declarations.kind := by
  induction calls with
  | nil => exact fun h => rfl
  | cons call calls ih => exact fun h => (ih _).trans (outcome_serve host h call).kind_eq

theorem joined_serveAll {name : String} {external : List Record} (calls : List Call) :
    ∀ h : Hosted W, Joined name external h.declarations →
      Joined name external (h.serveAll host calls).declarations ∧
        (h.serveAll host calls).declarations.context.generation =
          h.declarations.context.generation + (h.answers host calls).countP isChange := by
  induction calls with
  | nil => exact fun h hjoined => ⟨hjoined, rfl⟩
  | cons call calls ih =>
    intro h hjoined
    obtain ⟨hnext, hcount⟩ := (outcome_serve host h call).joined hjoined
    obtain ⟨hlast, hsum⟩ := ih _ hnext
    refine ⟨hlast, ?_⟩
    change ((h.serve host call).state.serveAll host calls).declarations.context.generation = _
    rw [answers, List.countP_cons, hsum, hcount]
    omega

/-- What each refresh preserves among shapes with a property, all refreshes preserve that deliver such
shapes only. -/
theorem serveAll_preserves (inv : Declarations → Prop) {p : Shape → Prop}
    (hstep : ∀ {h next : Hosted W} {call : Call} {result : Except Raised Bool},
      Outcome host h call result next → inv h.declarations →
      (∀ e ∈ h.declarations.shapes.entries, p e.2) → Delivers h.declarations.kind [call] p →
        inv next.declarations)
    (calls : List Call) : ∀ h : Hosted W, inv h.declarations →
      (∀ e ∈ h.declarations.shapes.entries, p e.2) → Delivers h.declarations.kind calls p →
        inv (h.serveAll host calls).declarations := by
  induction calls with
  | nil => exact fun h hinv _ _ => hinv
  | cons call calls ih =>
    intro h hinv hkept hnew
    obtain ⟨hfirst, hothers⟩ := hnew.cons
    have houtcome := outcome_serve host h call
    refine ih _ (hstep houtcome hinv hkept hfirst) (houtcome.forall_shapes hkept hfirst) ?_
    rw [houtcome.kind_eq]
    exact hothers

theorem shapes_serveAll {p : Shape → Prop} (calls : List Call) (h : Hosted W)
    (hkept : ∀ e ∈ h.declarations.shapes.entries, p e.2)
    (hnew : Delivers h.declarations.kind calls p) :
    ∀ e ∈ (h.serveAll host calls).declarations.shapes.entries, p e.2 :=
  serveAll_preserves (fun d => ∀ e ∈ d.shapes.entries, p e.2)
    (fun houtcome _ hkept hfirst => houtcome.forall_shapes hkept hfirst) calls h hkept hkept hnew

theorem made_serveAll (calls : List Call) (h : Hosted W) (hmade : Made host h.declarations)
    (hkept : ∀ e ∈ h.declarations.shapes.entries, host.Contains e.2)
    (hnew : Delivers h.declarations.kind calls host.Contains) :
    Made host (h.serveAll host calls).declarations :=
  serveAll_preserves (Made host) Outcome.made calls h hmade hkept hnew

/-- Declarations on a host, as a session starts with them. -/
def start (world : W) (engine : Engine) (resolver : Resolver) (config : Config)
    (seeds : List Record) : Hosted W :=
  ⟨world, (Session.start engine resolver config seeds).2.declarations⟩

/-- In every state of every run, on any host and with any engines, the context joins its external
modules to the aggregate, the counter counts the changes, and an ordinary exception would leave the
declarations as they are. If no text lets other exceptions out, none would come out of a refresh, and
the aggregate was made of the shapes that are kept, in their order. If no text looks at what others
left behind either, the aggregate is at any time what would be made of these shapes. -/
theorem coherent_serveAll (host : Host W) (world : W) (engine : Engine) (resolver : Resolver)
    (config : Config) (seeds : List Record) (calls : List Call) :
    let first := start world engine resolver config seeds
    let external := first.declarations.context.external
    let last := first.serveAll host calls
    let context := last.declarations.context
    let shapes := last.declarations.shapes
    let rebuilt w := (host.build w config.aggregateName (external.map (·.name)) shapes).result
    Joined config.aggregateName external last.declarations ∧
      Ascending external ∧
      (∀ m ∈ external, m.synthetic = false) ∧
      context.generation = (first.answers host calls).countP isChange ∧
      (∀ call raised, (last.serve host call).result = .error raised → raised.isOrdinary = true →
        (last.serve host call).state.declarations = last.declarations) ∧
      (Delivers config.kind calls host.Contains →
        context.aggregate.sources = shapes.keys ∧
        (∃ w, rebuilt w = .ok context.aggregate) ∧
        (∀ call raised, Delivers config.kind [call] host.Contains →
          (last.serve host call).result = .error raised → raised.isOrdinary = true) ∧
        (Delivers config.kind calls host.KeepsApart →
          ∀ w, rebuilt w = .ok context.aggregate)) := by
  intro first external last context shapes rebuilt
  obtain ⟨hascending, hlocated⟩ := external_start engine resolver config seeds Component.Stub.runText
  have hfirst : Joined config.aggregateName external first.declarations := ⟨rfl, rfl, rfl, rfl⟩
  obtain ⟨hjoined, hcount⟩ : Joined config.aggregateName external last.declarations ∧ _ :=
    joined_serveAll calls first hfirst
  refine ⟨hjoined, hascending, hlocated, hcount.trans (Nat.zero_add _), ?_, ?_⟩
  · intro call raised hraised hordinary
    have houtcome := outcome_serve host last call
    rw [hraised] at houtcome
    exact houtcome.declarations_of_ordinary hordinary
  · intro hcontains
    have hnone (p : Shape → Prop) : ∀ e ∈ first.declarations.shapes.entries, p e.2 :=
      fun e he => absurd he List.not_mem_nil
    have hkept : ∀ e ∈ shapes.entries, host.Contains e.2 :=
      shapes_serveAll calls first (hnone _) hcontains
    obtain ⟨w, hmade⟩ : Made host last.declarations :=
      made_serveAll calls first ⟨world, rfl⟩ (hnone _) hcontains
    rw [hjoined.named, hjoined.fixed] at hmade
    have hsources : context.aggregate.sources = shapes.keys := by
      obtain ⟨last, -, haggregate⟩ := Host.build_eq_ok hmade
      exact congrArg Aggregate.sources haggregate
    refine ⟨hsources, ⟨w, hmade⟩, ?_, ?_⟩
    · intro call raised hcall hraised
      have houtcome := outcome_serve host last call
      rw [hraised] at houtcome
      refine houtcome.ordinary hkept ?_
      rw [kind_serveAll]
      exact hcall
    · intro hapart v
      have hkeptApart : ∀ e ∈ shapes.entries, host.KeepsApart e.2 :=
        shapes_serveAll calls first (hnone _) hapart
      exact (Host.build_apart hkeptApart v w _ _).trans hmade

/-- A shape that sets a flag, one beside it that fails, and a new text for the first: there is one
source then, after two changes, and the aggregate would be the same at any time. -/
theorem coherent_serveAll_repaired :
    let calls := List.map delivering [
      ⟨"Card.tpl", "Card", "ComponentBase.seen = True\nclass Card(ComponentBase): pass"⟩,
      ⟨"Link.tpl", "Link", "class Link(ComponentBase): raise ValueError('late')"⟩,
      ⟨"Card.tpl", "Card", "class Card(ComponentBase): pass"⟩]
    let config : Config := { rules := [] }
    let first : Hosted Flags := start ∅ templateEngine (.ofTable []) config []
    let last := first.serveAll Flags.host calls
    last.declarations.context.aggregate.sources = ["Card.tpl"] ∧
      last.declarations.context.generation = 2 ∧
      ∀ w, (Flags.host.build w config.aggregateName
        (first.declarations.context.external.map (·.name)) last.declarations.shapes).result =
          .ok last.declarations.context.aggregate := by
  intro calls config first last
  have hself : Delivers config.kind calls fun shape =>
      Flags.host.Contains shape ∧ Flags.host.KeepsApart shape := by
    refine delivers_map_delivering.mpr fun shape hshape => Flags.keepsToItself ?_
    revert shape
    decide +kernel
  obtain ⟨hcontains, hapart⟩ := hself.and
  obtain ⟨-, -, -, hcount, -, hmade⟩ := coherent_serveAll Flags.host ∅ templateEngine
    (.ofTable []) config [] calls
  obtain ⟨hsources, -, -, hany⟩ := hmade hcontains
  have hrun : last.declarations.shapes.keys = ["Card.tpl"] ∧
      (first.answers Flags.host calls).countP isChange = 2 := by decide +kernel
  refine ⟨?_, ?_, ?_⟩
  · with_reducible exact hsources.trans hrun.1
  · with_reducible exact hcount.trans hrun.2
  · with_reducible exact hany hapart

/-- A text that ends the host stays beside an aggregate that was made without it. And a text that
looks at a flag was kept before another one raised this flag; now it cannot be made again. -/
theorem not_always_coherent :
    let config : Config := { rules := [] }
    let first : Hosted Flags := start ∅ templateEngine (.ofTable []) config []
    let ended := first.serveAll Flags.host (List.map delivering [
      ⟨"Card.tpl", "Card", "class Card(ComponentBase): raise SystemExit('over')"⟩])
    let watched := first.serveAll Flags.host (List.map delivering [
      ⟨"Z.tpl", "Z", "ComponentBase.seen = False\nclass Z(ComponentBase): pass"⟩,
      ⟨"Z.tpl", "Z", "class Z(ComponentBase): pass"⟩,
      ⟨"P.tpl", "P",
        "class P(ComponentBase):\n    if ComponentBase.seen: raise RuntimeError('boom')"⟩,
      ⟨"A.tpl", "A", "ComponentBase.seen = True\nclass A(ComponentBase): pass"⟩])
    let rebuilt := Flags.host.build watched.world config.aggregateName
      (first.declarations.context.external.map (·.name)) watched.declarations.shapes
    (ended.declarations.shapes.keys = ["Card.tpl"] ∧
      ended.declarations.context.aggregate.sources = []) ∧
    watched.declarations.context.aggregate.sources = ["Z.tpl", "P.tpl", "A.tpl"] ∧
      rebuilt.result.toBool = false := by
  decide +kernel

/-! ## Texts that follow a runner -/

/-- What an operation does on a host is what it does without one. -/
structure Agrees (ran : Ran (Hosted W) Bool) (step : Step Declarations Bool) : Prop where
  log : ran.log = step.log
  state : ran.state.declarations = step.state
  result : ran.result = step.result.mapError .failure

variable {run : Runner}

theorem agrees_store {path : String} {shape : Shape} (hrun : h.declarations.context.run = run)
    (hkept : ∀ e ∈ (h.declarations.shapes.insert path shape).entries, host.Follows run e.2) :
    Agrees (h.store host path shape) (h.declarations.store path shape) := by
  unfold store Declarations.store
  extract_lets kept
  obtain ⟨hlog, hresult⟩ : (host.rebuild h.world kept.context kept.shapes).log =
        (kept.context.rebuild kept.shapes).1 ∧
      (host.rebuild h.world kept.context kept.shapes).result =
        (kept.context.rebuild kept.shapes).2.mapError .failure :=
    Host.rebuild_of_follows hkept h.world hrun
  generalize host.rebuild h.world kept.context kept.shapes = ran at hlog hresult ⊢
  generalize kept.context.rebuild kept.shapes = built at hlog hresult ⊢
  obtain ⟨log, world, result⟩ := ran
  obtain ⟨builtLog, built⟩ := built
  dsimp only at hlog hresult
  subst hlog hresult
  cases built <;> exact ⟨rfl, rfl, rfl⟩

/-- Where all texts follow the runner of the context, the host does not show in a refresh. -/
theorem agrees_serve (hrun : h.declarations.context.run = run)
    (hkept : ∀ e ∈ h.declarations.shapes.entries, host.Follows run e.2)
    (hnew : Delivers h.declarations.kind [call] (host.Follows run)) :
    Agrees (h.serve host call) (h.declarations.serve call) := by
  unfold serve refresh Declarations.serve Declarations.refresh
  cases hshape : call.engine.shape ⟨call.path, call.content, h.declarations.kind⟩ with
  | error f => exact ⟨rfl, rfl, rfl⟩
  | ok shape =>
    have hfollows := hnew.forall_insert hshape hkept
    cases hold : h.declarations.shapes.get? call.path with
    | none => exact agrees_store hrun hfollows
    | some old =>
      dsimp only
      split
      · exact ⟨rfl, rfl, rfl⟩
      · exact agrees_store hrun hfollows

theorem agrees_serveAll (calls : List Call) : ∀ h : Hosted W, h.declarations.context.run = run →
    (∀ e ∈ h.declarations.shapes.entries, host.Follows run e.2) →
    Delivers h.declarations.kind calls (host.Follows run) →
      (h.serveAll host calls).declarations = h.declarations.serveAll calls ∧
        h.answers host calls = (h.declarations.answers calls).map (·.mapError .failure) := by
  induction calls with
  | nil => exact fun h _ _ _ => ⟨rfl, rfl⟩
  | cons call calls ih =>
    intro h hrun hkept hnew
    obtain ⟨hfirst, hothers⟩ := hnew.cons
    have houtcome := outcome_serve host h call
    have hagrees := agrees_serve hrun hkept hfirst
    obtain ⟨hstate, hanswers⟩ := ih _ (houtcome.run_eq.trans hrun)
      (houtcome.forall_shapes hkept hfirst) (houtcome.kind_eq ▸ hothers)
    rw [hagrees.state] at hstate hanswers
    refine ⟨hstate, ?_⟩
    rw [answers, Declarations.answers, List.map_cons, hagrees.result, hanswers]

/-- Of templates the declarations are the same on the host of flags as without a host, whatever flags
are raised. -/
theorem serveAll_templates (flags : Flags) (c : Context) (kind : String)
    (hrun : c.run = Component.Stub.runText) (edits : List (String × String)) :
    let calls := edits.map fun (path, content) => ⟨templateEngine, path, content⟩
    ((⟨flags, .new c kind⟩ : Hosted Flags).serveAll Flags.host calls).declarations =
      (Declarations.new c kind).serveAll calls := by
  intro calls
  refine (agrees_serveAll calls ⟨flags, .new c kind⟩ hrun (fun e he => absurd he List.not_mem_nil)
    fun call hcall shape hshape => ?_).1
  obtain ⟨edit, -, rfl⟩ := List.mem_map.mp hcall
  obtain ⟨t, -, rfl⟩ := Component.extract_eq_ok hshape
  exact Flags.follows_ofTemplate t edit.1

end Hosted

end LivePreview.Session
