import LivePreview.Component.Host
import LivePreview.Proofs.Shape

/-!
# Making an aggregate on a host

A text keeps apart if it ends in the same way whatever other texts left on the host, and it is
contained if nothing but ordinary exceptions comes out of it. Beside texts that keep apart and were
entered before, what becomes of one more is a matter of this text. And where all texts end as a runner
says, the host does not show: the aggregate is that of the runner. So it is with all declarations of
templates.
-/

namespace LivePreview.Component

namespace Host

variable {W : Type} (host : Host W)

/-- Nothing but ordinary exceptions comes out of the text of the shape. -/
def Contains (shape : Shape) : Prop :=
  ∀ w, (host w shape.text shape.component).2.isContained = true

/-- How the text of the shape ends does not depend on what was left behind. -/
def KeepsApart (shape : Shape) : Prop :=
  ∀ w v, (host w shape.text shape.component).2 = (host v shape.text shape.component).2

variable {host}

/-! ## Making an aggregate -/

theorem declared_apart {shape : Shape} (h : host.KeepsApart shape) (path : String) (w v : W) :
    (host.declared w path shape).2 = (host.declared v path shape).2 := by
  unfold declared
  split
  · rfl
  · split
    · rfl
    · simp only [h w v]

theorem ordinary_of_declared {shape : Shape} (h : host.Contains shape) {w : W} {path : String}
    {raised : Raised} (hraised : (host.declared w path shape).2 = .error raised) :
    raised.isOrdinary = true := by
  have hcontained := h w
  unfold declared at hraised
  split at hraised
  · cases hraised
    rfl
  · split at hraised
    · cases hraised
      rfl
    · dsimp only at hraised
      split at hraised
      · cases hraised
        rfl
      · next e hending =>
        rw [hending] at hcontained
        cases hraised
        exact hcontained
      · next e hending =>
        rw [hending] at hcontained
        have htakes : [Caught.ordinary].any (·.takes e) = true := by
          rw [List.any_cons, show Caught.ordinary.takes e = true from hcontained, Bool.true_or]
        rw [guarded, if_pos htakes] at hraised
        cases hraised
        rfl
      · next definition hending =>
        cases hmember : Aggregate.member path shape.component definition with
        | error f =>
          rw [hmember] at hraised
          cases hraised
          rfl
        | ok surface? =>
          rw [hmember] at hraised
          cases hraised

theorem ordinary_of_enterAll {raised : Raised} {entries : List (String × Shape)}
    (h : ∀ e ∈ entries, host.Contains e.2) : ∀ (w : W) (b : Aggregate.Build),
      (host.enterAll w b entries).result = .error raised → raised.isOrdinary = true := by
  induction entries with
  | nil =>
    intro w b hraised
    cases hraised
  | cons entry entries ih =>
    intro w b hraised
    obtain ⟨path, shape⟩ := entry
    obtain ⟨hshape, hothers⟩ := List.forall_mem_cons.mp h
    rw [enterAll] at hraised
    split at hraised
    · next left first hfirst =>
      cases hraised
      exact ordinary_of_declared hshape (congrArg Prod.snd hfirst)
    · next left surface? hfirst => exact ih hothers _ _ hraised

/-- Whether a shape can always be entered at its own path. -/
def Accepts (host : Host W) (entry : String × Shape) : Prop :=
  ∀ w, ∃ surface?, (host.declared w entry.1 entry.2).2 = .ok surface?

/-- Shapes that can always be entered do not keep others from being entered. -/
theorem enterAll_append {first : List (String × Shape)} (h : ∀ e ∈ first, host.Accepts e)
    (rest : List (String × Shape)) : ∀ (w : W) (b : Aggregate.Build),
      ∃ left next, host.enterAll w b (first ++ rest) = host.enterAll left next rest := by
  induction first with
  | nil => exact fun w b => ⟨w, b, rfl⟩
  | cons entry first ih =>
    intro w b
    obtain ⟨path, shape⟩ := entry
    obtain ⟨hshape, hothers⟩ := List.forall_mem_cons.mp h
    obtain ⟨surface?, hsurface⟩ := hshape w
    have hdeclared : host.declared w path shape = ((host.declared w path shape).1, .ok surface?) :=
      Prod.ext rfl hsurface
    rw [List.cons_append, enterAll, hdeclared]
    exact ih hothers _ _

/-- Where all other shapes can always be entered, the outcome is that of the one which is left. -/
theorem enterAll_eq_error_iff {raised : Raised} {first others : List (String × Shape)}
    {path : String} {shape : Shape} (hothers : ∀ e ∈ first ++ others, host.Accepts e)
    (hapart : host.KeepsApart shape) (w : W) (b : Aggregate.Build) (v : W) :
    (host.enterAll w b (first ++ (path, shape) :: others)).result = .error raised ↔
      (host.declared v path shape).2 = .error raised := by
  obtain ⟨left, next, hfirst⟩ := enterAll_append (fun e he =>
    hothers e (List.mem_append_left _ he)) ((path, shape) :: others) w b
  rw [hfirst, enterAll, declared_apart hapart path v left]
  generalize host.declared left path shape = ran
  obtain ⟨left, result⟩ := ran
  cases result with
  | error other => exact ⟨fun h => by cases h; rfl, fun h => by cases h; rfl⟩
  | ok surface? =>
    obtain ⟨end', last, hrest⟩ := enterAll_append (fun e he =>
      hothers e (List.mem_append_right _ he)) [] left (next.enter path shape.component surface?)
    rw [List.append_nil] at hrest
    simp [hrest, enterAll]

/-- Shapes that keep apart and were entered once can always be entered. -/
theorem accepts_of_enterAll {entries : List (String × Shape)}
    (h : ∀ e ∈ entries, host.KeepsApart e.2) : ∀ {w : W} {b last : Aggregate.Build},
      (host.enterAll w b entries).result = .ok last → ∀ e ∈ entries, host.Accepts e := by
  induction entries with
  | nil => exact fun _ e he => absurd he List.not_mem_nil
  | cons entry entries ih =>
    intro w b last hlast
    obtain ⟨path, shape⟩ := entry
    obtain ⟨hshape, hothers⟩ := List.forall_mem_cons.mp h
    rw [enterAll] at hlast
    split at hlast
    · cases hlast
    · next left surface? hdeclared =>
      have hfirst : host.Accepts (path, shape) := fun v =>
        ⟨surface?, (declared_apart hshape path v w).trans (congrArg Prod.snd hdeclared)⟩
      exact List.forall_mem_cons.mpr ⟨hfirst, ih hothers hlast⟩

/-- What is made of shapes that keep apart does not depend on what was left behind. -/
theorem enterAll_apart {entries : List (String × Shape)} (h : ∀ e ∈ entries, host.KeepsApart e.2) :
    ∀ (w v : W) (b : Aggregate.Build),
      (host.enterAll w b entries).result = (host.enterAll v b entries).result := by
  induction entries with
  | nil => exact fun w v b => rfl
  | cons entry entries ih =>
    intro w v b
    obtain ⟨path, shape⟩ := entry
    obtain ⟨hshape, hothers⟩ := List.forall_mem_cons.mp h
    have hsame := declared_apart hshape path w v
    rw [enterAll, enterAll]
    generalize host.declared w path shape = ran at hsame ⊢
    generalize host.declared v path shape = other at hsame ⊢
    obtain ⟨left, result⟩ := ran
    obtain ⟨left', result'⟩ := other
    obtain rfl : result = result' := hsame
    cases result with
    | error raised => rfl
    | ok surface? => exact ih hothers _ _ _

/-! ## Rebuilding -/

theorem build_eq_ok {w : W} {name : String} {references : List String}
    {shapes : Table String Shape} {aggregate : Aggregate}
    (h : (host.build w name references shapes).result = .ok aggregate) :
    ∃ last, (host.enterAll w ⟨Aggregate.firstMembers, ∅, []⟩ shapes.entries).result = .ok last ∧
      aggregate = ⟨name, references, last.members, shapes.keys⟩ := by
  obtain ⟨last, hlast, haggregate⟩ := map_eq_ok_iff.mp h
  exact ⟨last, hlast, haggregate.symm⟩

/-- What is built of shapes that keep apart does not depend on what was left behind. -/
theorem build_apart {shapes : Table String Shape} (h : ∀ e ∈ shapes.entries, host.KeepsApart e.2)
    (w v : W) (name : String) (references : List String) :
    (host.build w name references shapes).result = (host.build v name references shapes).result :=
  congrArg (Except.map _) (enterAll_apart h w v _)

theorem rebuild_result (w : W) (c : Context) (shapes : Table String Shape) :
    (host.rebuild w c shapes).result =
      (host.build w c.aggregateName (c.external.map (·.name)) shapes).result.map c.replace := by
  rw [rebuild]
  generalize host.build w c.aggregateName (c.external.map (·.name)) shapes = ran
  obtain ⟨log, left, result⟩ := ran
  cases result <;> rfl

theorem rebuild_eq_error_iff {w : W} {c : Context} {shapes : Table String Shape} {raised : Raised} :
    (host.rebuild w c shapes).result = .error raised ↔
      (host.enterAll w ⟨Aggregate.firstMembers, ∅, []⟩ shapes.entries).result = .error raised := by
  rw [rebuild_result, map_eq_error_iff]
  exact map_eq_error_iff

theorem rebuild_eq_ok {w : W} {c next : Context} {shapes : Table String Shape}
    (h : (host.rebuild w c shapes).result = .ok next) :
    ∃ aggregate, (host.build w c.aggregateName (c.external.map (·.name)) shapes).result =
      .ok aggregate ∧ next = c.replace aggregate := by
  rw [rebuild_result] at h
  obtain ⟨aggregate, hbuilt, hnext⟩ := map_eq_ok_iff.mp h
  exact ⟨aggregate, hbuilt, hnext.symm⟩

/-- Shapes that keep apart and were built once can always be entered. -/
theorem accepts_of_rebuild {w : W} {c next : Context} {shapes : Table String Shape}
    (hapart : ∀ e ∈ shapes.entries, host.KeepsApart e.2)
    (h : (host.rebuild w c shapes).result = .ok next) : ∀ e ∈ shapes.entries, host.Accepts e := by
  obtain ⟨aggregate, hbuilt, -⟩ := rebuild_eq_ok h
  obtain ⟨last, hlast, -⟩ := build_eq_ok hbuilt
  exact accepts_of_enterAll hapart hlast

/-- Beside shapes that can always be entered, a rebuild fails with what is wrong with the one that is
left. -/
theorem rebuild_eq_error_iff_of_others {c : Context} {shapes : Table String Shape} {raised : Raised}
    {first others : List (String × Shape)} {path : String} {shape : Shape}
    (hentries : shapes.entries = first ++ (path, shape) :: others)
    (hothers : ∀ e ∈ first ++ others, host.Accepts e) (hapart : host.KeepsApart shape) (w v : W) :
    (host.rebuild w c shapes).result = .error raised ↔
      (host.declared v path shape).2 = .error raised := by
  rw [rebuild_eq_error_iff, hentries]
  exact enterAll_eq_error_iff hothers hapart w _ v

/-! ## Runners -/

/-- The text of the shape always ends as the runner says. -/
def Follows (host : Host W) (run : Runner) (shape : Shape) : Prop :=
  ∀ w, (host w shape.text shape.component).2 = .ofRun (run shape.text shape.component)

variable {run : Runner}

theorem declared_of_follows {shape : Shape} (h : host.Follows run shape) (w : W) (path : String) :
    (host.declared w path shape).2 = (Aggregate.declared run path shape).mapError .failure := by
  unfold declared Aggregate.declared
  split
  · rfl
  · split
    · rfl
    · simp only [h w]
      cases hending : run shape.text shape.component with
      | none => rfl
      | some result =>
        cases result with
        | ok definition => rfl
        | error e =>
          have htakes : [Caught.ordinary].any (·.takes e) = true := by
            rw [List.any_cons, run.ordinary hending, Bool.true_or]
          simp only [Ending.ofRun, Ending.ofResult, guarded, if_pos htakes]
          rfl

theorem enterAll_of_follows {entries : List (String × Shape)}
    (h : ∀ e ∈ entries, host.Follows run e.2) : ∀ (w : W) (b : Aggregate.Build),
      (host.enterAll w b entries).log = (b.enterAll run entries).1 ∧
      (host.enterAll w b entries).result = (b.enterAll run entries).2.mapError .failure := by
  induction entries with
  | nil => exact fun w b => ⟨rfl, rfl⟩
  | cons entry entries ih =>
    intro w b
    obtain ⟨path, shape⟩ := entry
    obtain ⟨hshape, hothers⟩ := List.forall_mem_cons.mp h
    have hdeclared := declared_of_follows hshape w path
    rw [enterAll, Aggregate.Build.enterAll]
    generalize host.declared w path shape = ran at hdeclared ⊢
    obtain ⟨left, result⟩ := ran
    cases hrun : Aggregate.declared run path shape with
    | error f =>
      rw [hrun] at hdeclared
      cases hdeclared
      exact ⟨rfl, rfl⟩
    | ok member =>
      rw [hrun] at hdeclared
      cases hdeclared
      exact ih hothers left _

theorem rebuild_of_follows {shapes : Table String Shape}
    (h : ∀ e ∈ shapes.entries, host.Follows run e.2) (w : W) {c : Context} (hc : c.run = run) :
    (host.rebuild w c shapes).log = (c.rebuild shapes).1 ∧
      (host.rebuild w c shapes).result = (c.rebuild shapes).2.mapError .failure := by
  obtain ⟨hlog, hresult⟩ := enterAll_of_follows h w ⟨Aggregate.firstMembers, ∅, []⟩
  subst hc
  unfold rebuild build Context.rebuild Aggregate.build
  generalize host.enterAll w ⟨Aggregate.firstMembers, ∅, []⟩ shapes.entries = ran at hlog hresult ⊢
  generalize Aggregate.Build.enterAll c.run ⟨Aggregate.firstMembers, ∅, []⟩ shapes.entries = entered
    at hlog hresult ⊢
  obtain ⟨log, left, result⟩ := ran
  obtain ⟨enteredLog, entered⟩ := entered
  dsimp only at hlog hresult
  subst hlog hresult
  cases entered <;> exact ⟨rfl, rfl⟩

end Host

/-! ## Flags -/

open LivePreview.Code (IsQuote documentation_spec)
open LivePreview.Text (behind? behind?_append)

namespace Reach

/-- What is run of a text that neither looks at the base nor ends the host. -/
def stub? : Reach → Option Stub
  | .alone stub | .sets _ _ stub => some stub
  | .watches .. | .ends .. => none

end Reach

namespace Flags

theorem ending_of_stub? {text : String} {reach : Reach} {stub : Stub}
    (htext : Reach.ofChars? text.toList = some reach) (hstub : reach.stub? = some stub)
    (flags : Flags) (wanted : String) :
    (host flags text wanted).2 = .ofRun (some (stub.run wanted)) := by
  rw [host, htext]
  cases reach with
  | alone | sets =>
    cases hstub
    rfl
  | watches | ends => cases hstub

/-- A text that may set flags, and neither looks at them nor ends the host, keeps to itself. -/
theorem keepsToItself {shape : Shape}
    (h : ((Reach.ofChars? shape.text.toList).bind Reach.stub?).isSome = true) :
    host.Contains shape ∧ host.KeepsApart shape := by
  obtain ⟨stub, hsome⟩ := Option.isSome_iff_exists.mp h
  obtain ⟨reach, htext, hstub⟩ := Option.bind_eq_some_iff.mp hsome
  have hending := ending_of_stub? htext hstub
  refine ⟨fun w => ?_, fun w v => (hending w _).trans (hending v _).symm⟩
  rw [hending]
  cases hrun : stub.run shape.component with
  | ok definition => rfl
  | error e => exact Stub.ordinary_of_run hrun

end Flags

/-! ## Texts of templates -/

theorem writtenBody_eq (t : Template) (path : String) :
    ∃ q rest, IsQuote q ∧ writtenBody t path = "\n    ".toList ++ q :: rest := by
  obtain ⟨q, body, hq, hdocumentation, -⟩ := documentation_spec ("Declaration of " ++ path)
  have hquotes : List.replicate 3 q ++ body ++ List.replicate 3 q =
      q :: (q :: q :: (body ++ List.replicate 3 q)) := by simp [List.replicate]
  rw [writtenBody, hdocumentation, hquotes, blockLines_surface]
  exact ⟨q, _, hq, rfl⟩

/-- The head of a template's stub is read, and its body begins with a quote. -/
theorem head_ofTemplate (t : Template) (path : String) :
    Reach.head (Shape.ofTemplate t path).text.toList = none ∨
      ∃ s q rest, IsQuote q ∧
        Reach.head (Shape.ofTemplate t path).text.toList = some (s, q :: rest) := by
  obtain ⟨q, rest, hq, hbody⟩ := writtenBody_eq t path
  have hopen : Stub.isNameChar '(' = false := by decide
  have hname := name_of_wordlike (wordlike_componentName path) hopen
    (baseName.toList ++ (")".toList ++ (":".toList ++ writtenBody t path)))
  have htext : (Shape.ofTemplate t path).text.toList = "class ".toList ++
      ((componentName path).toList ++
        '(' :: (baseName.toList ++ (")".toList ++ (":".toList ++ writtenBody t path)))) :=
    toList_text_ofTemplate t path
  have hbase : behind? ("(".toList ++ baseName.toList ++ "):".toList)
      ('(' :: (baseName.toList ++ (")".toList ++ (":".toList ++ writtenBody t path)))) =
        some (writtenBody t path) := behind?_append _ _
  rw [htext, Reach.head, behind?_append]
  simp only [Option.bind_eq_bind, Option.bind_some, hname]
  split
  · refine .inr ⟨Text.normalForm (componentName path), q, rest, hq, ?_⟩
    rw [Option.bind_some]
    dsimp only
    rw [hbase, Option.bind_some, hbody, Stub.bodyStart?, behind?_append]
    rfl
  · exact .inl rfl

/-- Nothing that reaches beyond a stub begins in the body of a template's stub. -/
theorem ofChars?_ofTemplate (t : Template) (path : String) :
    Reach.ofChars? (Shape.ofTemplate t path).text.toList =
      (Stub.ofChars? (Shape.ofTemplate t path).text.toList).map .alone := by
  have hset : Reach.setText? (Shape.ofTemplate t path).text.toList = none := by
    have hbase (rest : List Char) :
        behind? (baseName.toList ++ ['.']) ("class ".toList ++ rest) = none :=
      behind?_cons_of_ne (show 'C' ≠ 'c' by decide) _ _
    rw [toList_text_ofTemplate, Reach.setText?, Reach.flag, hbase]
    rfl
  have hmark {q m : Char} (hq : IsQuote q) (hs : m ≠ '\'') (hd : m ≠ '"') (mark rest : List Char) :
      behind? (m :: mark) (q :: rest) = none := by
    rcases hq with rfl | rfl
    · exact behind?_cons_of_ne hs mark rest
    · exact behind?_cons_of_ne hd mark rest
  have hothers : Reach.watchText? (Shape.ofTemplate t path).text.toList = none ∧
      Reach.endText? (Shape.ofTemplate t path).text.toList = none := by
    rcases head_ofTemplate t path with hnone | ⟨s, q, rest, hq, hhead⟩
    · simp [Reach.watchText?, Reach.endText?, hnone]
    · have hif : behind? "if ".toList (q :: rest) = none := hmark hq (by decide) (by decide) _ _
      have hraise : behind? "raise ".toList (q :: rest) = none :=
        hmark hq (by decide) (by decide) _ _
      simp only [Reach.watchText?, Reach.endText?, Stub.raised, hhead, hif, hraise,
        Option.bind_eq_bind, Option.bind_some, Option.bind_none, and_self]
  rw [Reach.ofChars?, hset, hothers.1, hothers.2]
  generalize (Stub.ofChars? (Shape.ofTemplate t path).text.toList).map Reach.alone = alone
  rfl

/-- The stubs of templates end on the host of flags as everywhere. -/
theorem Flags.follows_ofTemplate (t : Template) (path : String) :
    host.Follows Stub.runText (.ofTemplate t path) := by
  intro flags
  rw [host, ofChars?_ofTemplate, Stub.runText_eq]
  cases Stub.ofChars? (Shape.ofTemplate t path).text.toList <;> rfl

end LivePreview.Component
