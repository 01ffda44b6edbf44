import LivePreview.Proofs.Attributes
import LivePreview.Proofs.Walk
import Mathlib.Data.List.Basic
import Mathlib.Data.List.Induction

/-!
# Nesting of tags

A lexeme is sound when it can be read by itself. Where all are, and no parameter is declared twice,
only the nesting of the tags decides whether a source is read: it is if every closing tag has the
name of the innermost element that is open there and none is left open. The walk over the body then
gives the markup of the source again, tag by tag. Else the objection stands at the first closing tag
without a partner or, if there is none, at the innermost element that is left open.
-/

namespace LivePreview

namespace Template

open Text (strip)

/-! ## Lexemes by themselves -/

/-- A parameter line has a name that a parameter can have, and each of its clauses is an
expression. -/
def ParamLine.isSound (line : ParamLine) : Bool :=
  !isUnusableParam (String.ofList line.name) && line.hint.all (isExpression ·.text) &&
    line.default.all (isExpression ·.text)

/-- Whether nothing is wrong with a lexeme by itself. -/
def Lexeme.isSound : Lexeme → Bool
  | .text cs => !Text.occurs ['\x7b', '\x7b'] cs
  | .directive _ .param args _ => (paramLine? args).any ParamLine.isSound
  | .directive _ .module args _ => (moduleLine? args).isSome
  | .comment _ | .closeTag .. => true
  | .output body => isExpression body
  | .openTag tag attributes _ _ =>
    decide (attributes.map fun a => String.ofList a.name).Nodup &&
      attributes.all AttributeText.isSound &&
      (!isComponentTag (String.ofList tag) || Reading.isComponentName tag)

/-- The parameter that a lexeme declares. -/
def Lexeme.declares? : Lexeme → Option String
  | .directive _ .param args _ => (paramLine? args).map fun line => String.ofList line.name
  | _ => none

theorem cut?_eq_none_iff {mark cs : List Char} (hmark : mark ≠ []) :
    Text.cut? mark cs = none ↔ Text.occurs mark cs = false := by
  induction cs with
  | nil => simp [Text.cut?, Text.occurs, hmark]
  | cons c cs ih =>
    rw [Text.cut?, Text.occurs]
    cases mark.isPrefixOf (c :: cs) <;> simp [ih]

theorem exists_clauseExpression_iff (place : Position) {clause : Option Clause} :
    (∃ value, clauseExpression place clause = .ok value) ↔
      clause.all (isExpression ·.text) = true := by
  cases clause with
  | none => simp [clauseExpression]
  | some c =>
    rw [Option.all_some, ← exists_expressionAt_iff (c.start place)]
    simp only [clauseExpression, bind_eq_ok_iff]
    constructor
    · rintro ⟨_, e, he, -⟩
      exact ⟨e, he⟩
    · rintro ⟨e, he⟩
      exact ⟨_, e, he, rfl⟩

theorem exists_readParam_iff (mark : Position) {args : List Char} :
    (∃ p, readParam mark args = .ok p) ↔ (paramLine? args).any ParamLine.isSound = true := by
  simp only [readParam_eq_ok_iff]
  cases paramLine? args with
  | none => simp
  | some line =>
    rw [Option.any_some, ParamLine.isSound, Bool.and_eq_true, Bool.and_eq_true, Bool.not_eq_true',
      ← exists_clauseExpression_iff (mark.after ('@' :: DirectiveKind.param.word)),
      ← exists_clauseExpression_iff (mark.after ('@' :: DirectiveKind.param.word))]
    constructor
    · rintro ⟨p, other, hint, default, hline, husable, hhint, hdefault, -⟩
      cases hline
      exact ⟨⟨husable, hint, hhint⟩, default, hdefault⟩
    · rintro ⟨⟨husable, hint, hhint⟩, default, hdefault⟩
      exact ⟨_, line, hint, default, rfl, husable, hhint, hdefault, rfl⟩

section Lexemes

variable {place : Position} {l : Lexeme} {e : Effect}

/-- The lexemes that have effects are the sound ones. -/
theorem exists_effect_iff (hl : l.Proper) :
    (∃ e, l.effect place = .ok e) ↔ l.isSound = true := by
  cases l with
  | text cs =>
    simp [effect_text_eq_ok_iff, Lexeme.isSound, cut?_eq_none_iff]
  | directive indent kind args ended =>
    cases kind with
    | param =>
      rw [Lexeme.isSound, ← exists_readParam_iff (place.after indent)]
      simp only [effect_param_eq_ok_iff]
      constructor
      · rintro ⟨_, p, hp, -⟩
        exact ⟨p, hp⟩
      · rintro ⟨p, hp⟩
        exact ⟨_, p, hp, rfl⟩
    | module =>
      rw [Lexeme.isSound, Lexeme.effect, readUsing]
      cases moduleLine? args <;> simp [fail, Functor.map, Except.map]
  | comment body => simp [Lexeme.effect, Lexeme.isSound]
  | closeTag tag blanks => simp [Lexeme.effect, Lexeme.isSound]
  | output body =>
    rw [Lexeme.isSound, ← exists_expressionAt_iff (place.after ['\x7b', '\x7b'])]
    simp only [effect_output_eq_ok_iff]
    constructor
    · rintro ⟨_, value, hvalue, -⟩
      exact ⟨value, hvalue⟩
    · rintro ⟨value, hvalue⟩
      exact ⟨_, value, hvalue, rfl⟩
  | openTag tag attributes blanks slash =>
    have hread : (∃ read, readAttributes (place.after ('<' :: tag)) []
        (findAttributes (attributeChars attributes)) = .ok read) ↔
          (attributes.map fun a => String.ofList a.name).Nodup ∧
            ∀ a ∈ attributes, a.isSound = true := by
      rw [findAttributes_attributeChars hl, exists_readAttributes_iff]
      simp
    simp only [effect_openTag_eq_ok_iff, Lexeme.isSound, Bool.and_eq_true, Bool.or_eq_true,
      Bool.not_eq_true', decide_eq_true_iff, List.all_eq_true, ← hread,
      ← Bool.not_eq_true, ← Decidable.imp_iff_not_or]
    constructor
    · rintro ⟨_, read, hread, hname, -⟩
      exact ⟨⟨read, hread⟩, hname⟩
    · rintro ⟨⟨read, hread⟩, hname⟩
      exact ⟨_, read, hread, hname, rfl⟩

theorem declares_of_effect (h : l.effect place = .ok e) :
    e.params.map (·.name) = l.declares?.toList := by
  cases yields_of_effect h with
  | param hread =>
    obtain ⟨line, hint, default, hline, -, -, -, rfl⟩ := readParam_eq_ok_iff.mp hread
    rw [Lexeme.declares?, hline]
    rfl
  | openTag _ _ =>
    rw [(declarations_tagEffect ..).1]
    rfl
  | _ => rfl

end Lexemes

theorem exists_effects_of_sound {ls : List Lexeme} (hproper : ∀ l ∈ ls, l.Proper)
    (hsound : ∀ l ∈ ls, l.isSound = true) :
    ∀ place : Position, ∃ es, effects place ls = .ok es := by
  induction ls with
  | nil => exact fun _ => ⟨[], rfl⟩
  | cons l ls ih =>
    intro place
    obtain ⟨hl, hls⟩ := List.forall_mem_cons.mp hproper
    obtain ⟨hfirst, hrest⟩ := List.forall_mem_cons.mp hsound
    obtain ⟨e, he⟩ := (exists_effect_iff hl).mpr hfirst
    obtain ⟨es, hes⟩ := ih hls hrest (place.after l.chars)
    exact ⟨e :: es, bind_eq_ok_iff.mpr ⟨e, he, bind_eq_ok_iff.mpr ⟨es, hes, rfl⟩⟩⟩

/-! ## Brackets -/

/-- A tag that opens an element which has to be closed, or that closes one. -/
inductive Bracket where
  | opening (place : Position) (name : String)
  | closing (place : Position) (name : String)
  deriving DecidableEq, Repr

/-- A tag with a slash opens nothing, nor does one without content that is no component. -/
def Lexeme.bracket? (place : Position) : Lexeme → Option Bracket
  | .openTag tag _ _ slash =>
    if slash || (!isComponentTag (String.ofList tag) && isVoidTag (String.ofList tag)) then none
    else some (.opening place (String.ofList tag))
  | .closeTag tag _ => some (.closing place (String.ofList tag))
  | _ => none

/-- The brackets among lexemes from `place` on. -/
def brackets (place : Position) : List Lexeme → List Bracket
  | [] => []
  | l :: ls => (l.bracket? place).toList ++ brackets (place.after l.chars) ls

/-- Every bracket that opens is closed by one of its name, and the pairs do not cross. -/
inductive WellNested : List Bracket → Prop
  | nil : WellNested []
  | pair {place other : Position} {name : String} {inside behind : List Bracket} :
      WellNested inside → WellNested behind →
        WellNested (.opening place name :: (inside ++ .closing other name :: behind))

/-- All brackets that close have partners, and some that open are left open, given from the
innermost outwards. -/
inductive LeavesOpen : List Bracket → List (Position × String) → Prop
  | none {bs : List Bracket} : WellNested bs → LeavesOpen bs []
  | one {front inside : List Bracket} {outer : List (Position × String)} {place : Position}
      {name : String} :
      LeavesOpen front outer → WellNested inside →
        LeavesOpen (front ++ .opening place name :: inside) ((place, name) :: outer)

/-- What is wrong with brackets, and where: the first one that closes and has no partner, or the
innermost one that is left open. -/
inductive Blames : List Bracket → Position → Problem → Prop
  | unexpected {front behind : List Bracket} {place : Position} {name : String} :
      WellNested front →
        Blames (front ++ .closing place name :: behind) place (.unexpectedClosing name)
  | mismatched {front behind : List Bracket} {outer : List (Position × String)}
      {place other : Position} {name expected : String} :
      LeavesOpen front ((other, expected) :: outer) → expected ≠ name →
        Blames (front ++ .closing place name :: behind) place (.mismatchedClosing name expected)
  | unclosed {bs : List Bracket} {outer : List (Position × String)} {place : Position}
      {name : String} :
      LeavesOpen bs ((place, name) :: outer) → Blames bs place (.unclosedElement name)

/-! ## Checking brackets with a stack -/

/-- What a bracket makes of the elements that are open, the innermost first. -/
def nest (opened : List (Position × String)) : Bracket → Checked (List (Position × String))
  | .opening place name => .ok ((place, name) :: opened)
  | .closing place name =>
    match opened with
    | [] => fail place (.unexpectedClosing name)
    | (_, expected) :: outer =>
      if expected = name then .ok outer else fail place (.mismatchedClosing name expected)

def settle : List (Position × String) → Checked Unit
  | [] => .ok ()
  | (place, name) :: _ => fail place (.unclosedElement name)

/-- Check brackets from the left to the right. -/
def nestAll (bs : List Bracket) : Checked Unit := bs.foldlM nest [] >>= settle

theorem foldlM_nest_append (front behind : List Bracket) (opened : List (Position × String)) :
    (front ++ behind).foldlM nest opened = front.foldlM nest opened >>= behind.foldlM nest :=
  List.foldlM_append

theorem WellNested.foldlM_nest {bs : List Bracket} (h : WellNested bs) :
    ∀ opened, bs.foldlM nest opened = .ok opened := by
  induction h with
  | nil => exact fun _ => rfl
  | @pair place other name inside behind _ _ hinside hbehind =>
    intro opened
    rw [List.foldlM_cons, nest]
    change (inside ++ _).foldlM nest ((place, name) :: opened) = _
    rw [foldlM_nest_append, hinside]
    change (nest ((place, name) :: opened) (.closing other name) >>= _) = _
    rw [nest, if_pos rfl]
    exact hbehind opened

theorem LeavesOpen.foldlM_nest {bs : List Bracket} {opened : List (Position × String)}
    (h : LeavesOpen bs opened) : bs.foldlM nest [] = .ok opened := by
  induction h with
  | none h => exact h.foldlM_nest []
  | one _ hinside ih =>
    rw [foldlM_nest_append, ih]
    exact hinside.foldlM_nest _

theorem WellNested.append {bs cs : List Bracket} (hbs : WellNested bs) (hcs : WellNested cs) :
    WellNested (bs ++ cs) := by
  induction hbs with
  | nil => exact hcs
  | @pair place other name inside behind hinside _ _ hbehind =>
    have hpair : WellNested (.opening place name :: (inside ++ .closing other name ::
        (behind ++ cs))) := .pair hinside hbehind
    simpa only [List.cons_append, List.append_assoc] using hpair

theorem LeavesOpen.append {bs cs : List Bracket} {opened : List (Position × String)}
    (h : LeavesOpen bs opened) (hcs : WellNested cs) : LeavesOpen (bs ++ cs) opened := by
  cases h with
  | none h => exact .none (h.append hcs)
  | one hfront hinside =>
    rw [List.append_assoc, List.cons_append]
    exact .one hfront (hinside.append hcs)

/-- Closing the innermost bracket that is open leaves the others open. -/
theorem LeavesOpen.close {bs : List Bracket} {outer : List (Position × String)} {place : Position}
    {name : String} (h : LeavesOpen bs ((place, name) :: outer)) (other : Position) :
    LeavesOpen (bs ++ [.closing other name]) outer := by
  cases h with
  | one hfront hinside =>
    rw [List.append_assoc]
    exact hfront.append (.pair hinside .nil)

/-- The stack holds what is left open. -/
theorem leavesOpen_iff {bs : List Bracket} {opened : List (Position × String)} :
    LeavesOpen bs opened ↔ bs.foldlM nest [] = .ok opened := by
  refine ⟨LeavesOpen.foldlM_nest, ?_⟩
  -- From the right, as the last bracket opens or closes what the ones before it left open.
  induction bs using List.reverseRecOn generalizing opened with
  | nil =>
    intro h
    cases h
    exact .none .nil
  | append_singleton bs b ih =>
    intro h
    rw [foldlM_nest_append] at h
    obtain ⟨before, hbefore, h⟩ := bind_eq_ok_iff.mp h
    obtain ⟨after, hb, h⟩ := bind_eq_ok_iff.mp h
    cases h
    have hopen := ih hbefore
    cases b with
    | opening place name =>
      cases hb
      exact .one hopen .nil
    | closing place name =>
      rw [nest.eq_def] at hb
      dsimp only at hb
      split at hb
      · cases hb
      · split at hb
        · next other expected outer hname =>
          cases hb
          rw [← hname]
          exact hopen.close place
        · cases hb

/-- Where the stack is not enough, a first bracket is to blame. -/
theorem foldlM_nest_eq_error {o : Objection} {bs : List Bracket} :
    ∀ {opened : List (Position × String)}, bs.foldlM nest opened = .error o →
      ∃ front b behind between, bs = front ++ b :: behind ∧
        front.foldlM nest opened = .ok between ∧ nest between b = .error o := by
  induction bs with
  | nil => nofun
  | cons b bs ih =>
    intro opened h
    rw [List.foldlM_cons] at h
    cases hb : nest opened b with
    | error other =>
      rw [hb] at h
      cases h
      exact ⟨[], b, bs, opened, rfl, rfl, hb⟩
    | ok next =>
      rw [hb] at h
      obtain ⟨front, c, behind, between, rfl, hfront, hc⟩ := ih h
      refine ⟨b :: front, c, behind, between, rfl, ?_, hc⟩
      rw [List.foldlM_cons, hb]
      exact hfront

theorem nestAll_eq_ok_iff {bs : List Bracket} : nestAll bs = .ok () ↔ WellNested bs := by
  constructor
  · intro h
    obtain ⟨opened, hopened, h⟩ := bind_eq_ok_iff.mp h
    cases opened with
    | nil =>
      cases leavesOpen_iff.mpr hopened with
      | none h => exact h
    | cons first outer => cases h
  · intro h
    rw [nestAll, h.foldlM_nest]
    rfl

/-- What is found wrong with brackets is what is wrong with them. -/
theorem nestAll_eq_error_iff {bs : List Bracket} {o : Objection} :
    nestAll bs = .error o ↔ ∃ place what, o = .problem place what ∧ Blames bs place what := by
  constructor
  · intro h
    cases hopened : bs.foldlM nest [] with
    | ok opened =>
      rw [nestAll, hopened] at h
      cases opened with
      | nil => cases h
      | cons first outer =>
        cases h
        exact ⟨_, _, rfl, .unclosed (leavesOpen_iff.mpr hopened)⟩
    | error other =>
      rw [nestAll, hopened] at h
      cases h
      obtain ⟨front, b, behind, between, rfl, hfront, hb⟩ := foldlM_nest_eq_error hopened
      have hopen := leavesOpen_iff.mpr hfront
      cases b with
      | opening place name => cases hb
      | closing place name =>
        rw [nest.eq_def] at hb
        dsimp only at hb
        split at hb
        · cases hb
          cases hopen with
          | none h => exact ⟨_, _, rfl, .unexpected h⟩
        · split at hb
          · cases hb
          · next hname =>
            cases hb
            exact ⟨_, _, rfl, .mismatched hopen hname⟩
  · rintro ⟨place, what, rfl, h⟩
    cases h with
    | unexpected h =>
      rw [nestAll, foldlM_nest_append, h.foldlM_nest]
      rfl
    | mismatched h hne =>
      rw [nestAll, foldlM_nest_append, h.foldlM_nest]
      change (nest _ _ >>= _) >>= _ = _
      rw [nest, if_neg hne]
      rfl
    | unclosed h =>
      rw [nestAll, h.foldlM_nest]
      rfl

/-! ## Reading is checking brackets -/

def Effect.brackets : Effect → List Bracket
  | .enter place name _ => [.opening place name]
  | .leave place name => [.closing place name]
  | _ => []

theorem brackets_of_effect {place : Position} {l : Lexeme} {e : Effect}
    (h : l.effect place = .ok e) : e.brackets = (l.bracket? place).toList := by
  cases yields_of_effect h with
  | @openTag tag _ _ slash read _ _ =>
    rw [tagEffect, tagClosing, Lexeme.bracket?]
    cases slash with
    | true => rfl
    | false => cases !isComponentTag (String.ofList tag) && isVoidTag (String.ofList tag) <;> rfl
  | _ => rfl

theorem brackets_of_effects {ls : List Lexeme} : ∀ {place : Position} {es : List Effect},
    effects place ls = .ok es → es.flatMap Effect.brackets = brackets place ls := by
  induction ls with
  | nil =>
    intro place es h
    cases h
    rfl
  | cons l ls ih =>
    intro place es h
    obtain ⟨e, others, he, hothers, rfl⟩ := effects_cons_eq_ok h
    rw [List.flatMap_cons, brackets_of_effect he, ih hothers, brackets]

namespace Reading

/-- The elements that are open, the innermost first. -/
def opened (r : Reading) : List (Position × String) :=
  r.frames.map fun frame => (frame.place, frame.name)

theorem opened_add (r : Reading) (node : Node) : (r.add node).opened = r.opened := by
  unfold add opened
  split <;> simp [*]

/-- Effects change the open elements like brackets, where no parameter is declared again. -/
theorem opened_perform {r : Reading} {e : Effect}
    (hnew : ∀ p ∈ e.params, p.name ∉ r.params.map (·.name)) :
    (r.perform e).map opened = e.brackets.foldlM nest r.opened := by
  cases e with
  | declare p =>
    have hfresh : r.params.any (·.name = p.name) = false := by
      refine List.any_eq_false.mpr fun q hq heq => ?_
      exact hnew p (List.mem_singleton_self p)
        (List.mem_map.mpr ⟨q, hq, of_decide_eq_true heq⟩)
    rw [perform, addParam, hfresh]
    rfl
  | use u => rfl
  | text place text => exact congrArg Except.ok (opened_add r _)
  | output place value => exact congrArg Except.ok (opened_add r _)
  | single place name attributes closing => exact congrArg Except.ok (opened_add r _)
  | enter place name attributes => rfl
  | leave place name =>
    rw [perform]
    cases hframes : r.frames with
    | nil =>
      have hopened : r.opened = [] := by rw [opened, hframes]; rfl
      rw [hopened]
      rfl
    | cons frame frames =>
      have hopened : r.opened = (frame.place, frame.name) :: opened { r with frames } := by
        rw [opened, hframes]
        rfl
      rw [hopened, Effect.brackets, List.foldlM_cons, nest]
      dsimp only
      by_cases hname : frame.name = name
      · rw [if_pos hname, if_pos hname]
        exact congrArg Except.ok (opened_add _ _)
      · rw [if_neg hname, if_neg hname]
        rfl

theorem opened_foldlM {es : List Effect} : ∀ {r : Reading},
    ((r.params ++ es.flatMap Effect.params).map (·.name)).Nodup →
      (es.foldlM perform r).map opened = (es.flatMap Effect.brackets).foldlM nest r.opened := by
  induction es with
  | nil => exact fun _ => rfl
  | cons e es ih =>
    intro r hdistinct
    rw [List.flatMap_cons, ← List.append_assoc, List.map_append, List.map_append,
      List.append_assoc] at hdistinct
    have hnew : ∀ p ∈ e.params, p.name ∉ r.params.map (·.name) := by
      intro p hp hmem
      have hmore : p.name ∈ e.params.map (·.name) := List.mem_map_of_mem hp
      exact (List.nodup_append.mp hdistinct).2.2 p.name hmem p.name
        (List.mem_append_left _ hmore) rfl
    rw [List.foldlM_cons, List.flatMap_cons, foldlM_nest_append, ← opened_perform hnew]
    cases hnext : r.perform e with
    | error o => rfl
    | ok next =>
      refine ih ?_
      rw [params_perform hnext, List.map_append, List.map_append, List.append_assoc]
      exact hdistinct

theorem finish_map (r : Reading) : r.finish.map (fun _ => ()) = settle r.opened := by
  unfold finish opened
  cases r.frames <;> rfl

end Reading

/-- Where nothing is wrong with lexemes by themselves, reading is checking brackets. -/
theorem ofChars_map {cs : List Char} (hsound : ∀ l ∈ lexemes cs, l.isSound = true)
    (hdistinct : ((lexemes cs).filterMap Lexeme.declares?).Nodup) :
    (ofChars cs).map (fun _ => ()) = nestAll (brackets .start (lexemes cs)) := by
  obtain ⟨es, hes⟩ := exists_effects_of_sound (proper_lexemes cs) hsound .start
  have hparams : ((Reading.empty.params ++ es.flatMap Effect.params).map (·.name)).Nodup := by
    change ((es.flatMap Effect.params).map (·.name)).Nodup
    rw [List.map_flatMap, flatMap_effects (fun l _ here e he => declares_of_effect he) hes,
      ← List.filterMap_eq_flatMap_toList]
    exact hdistinct
  have hopened : (es.foldlM Reading.perform .empty).map Reading.opened =
      (brackets .start (lexemes cs)).foldlM nest [] := by
    rw [← brackets_of_effects hes]
    exact Reading.opened_foldlM hparams
  rw [ofChars, Reading.readAll_of_effects .empty hes, nestAll, ← hopened]
  cases es.foldlM Reading.perform .empty with
  | error o => rfl
  | ok r => exact r.finish_map

/-! ## Markup -/

/-- A piece of markup: an output, or a tag as it was written. -/
inductive Mark where
  | output (source : String)
  | tag (name : String) (component : Bool) (attributes : List (String × WrittenValue))
      (closing : Closing)
  | close (name : String) (component : Bool)
  deriving DecidableEq, Repr

/-- The markup that a walk meets. An element without content has no closing tag. -/
def Visit.marks : Visit → List Mark
  | .data _ _ => []
  | .output _ value => [.output value.source]
  | .enter _ name attributes closing =>
    [.tag name (isComponentTag name) (attributes.map fun a => (a.name, a.written)) closing]
  | .leave name .paired => [.close name (isComponentTag name)]
  | .leave _ _ => []

/-- The markup of a lexeme. -/
def Lexeme.marks : Lexeme → List Mark
  | .output body => [.output (String.ofList (strip body))]
  | .openTag tag attributes _ slash =>
    [.tag (String.ofList tag) (isComponentTag (String.ofList tag))
      (attributes.map fun a => (String.ofList a.name, a.written))
      (tagClosing (String.ofList tag) slash)]
  | .closeTag tag _ => [.close (String.ofList tag) (isComponentTag (String.ofList tag))]
  | .text _ | .comment _ | .directive .. => []

theorem marks_of_effect {place : Position} {l : Lexeme} {e : Effect} (hl : l.Proper)
    (h : l.effect place = .ok e) : e.visits.flatMap Visit.marks = l.marks := by
  cases yields_of_effect h with
  | output hvalue =>
    exact congrArg (fun source => [Mark.output source]) (source_of_expressionAt hvalue)
  | @openTag tag _ _ slash read hread _ =>
    rw [findAttributes_attributeChars hl] at hread
    rw [visits_tagEffect, List.flatMap_cons, Visit.marks, Lexeme.marks,
      written_of_readAttributes hread]
    cases tagClosing (String.ofList tag) slash <;> rfl
  | _ => rfl

/-- Where every lexeme is sound and every parameter is declared once, a source is read just when its
tags are well nested. The walk over the body then meets the markup of the source in its order, and
else the source is objected to where its nesting is wrong. -/
theorem read_iff_wellNested (source : String) (filename : Option String)
    (hsound : ∀ l ∈ lexemes source.toList, l.isSound = true)
    (hdistinct : ((lexemes source.toList).filterMap Lexeme.declares?).Nodup) :
    ((∃ t, ofText source filename = .ok t) ↔
        WellNested (brackets .start (lexemes source.toList))) ∧
      (∀ t, ofText source filename = .ok t →
        (bodyVisits t.body).flatMap Visit.marks = (lexemes source.toList).flatMap Lexeme.marks) ∧
      (¬ WellNested (brackets .start (lexemes source.toList)) →
        ∃ place what, Blames (brackets .start (lexemes source.toList)) place what) ∧
      ∀ place what, Blames (brackets .start (lexemes source.toList)) place what →
        ofText source filename = .error (.template
          ⟨what.message, some place.line, filename, some source, some place.column⟩) := by
  have hmap := ofChars_map hsound hdistinct
  refine ⟨?_, ?_, ?_, ?_⟩
  · rw [← nestAll_eq_ok_iff, ← hmap]
    simp only [ofText_eq_ok_iff]
    cases ofChars source.toList <;> simp [Except.map]
  · intro t h
    obtain ⟨es, hes, hvisits⟩ := visits_of_read (ofText_eq_ok_iff.mp h)
    rw [hvisits, Visit.flatMap_foldl_join fun _ _ _ _ => rfl, List.flatMap_nil, List.nil_append,
      List.flatMap_assoc]
    exact flatMap_effects
      (fun l hl _ _ he => marks_of_effect (proper_lexemes _ l hl) he) hes
  · intro h
    rw [← nestAll_eq_ok_iff] at h
    cases hnest : nestAll (brackets .start (lexemes source.toList)) with
    | ok u => exact absurd hnest h
    | error o =>
      obtain ⟨place, what, -, hblames⟩ := nestAll_eq_error_iff.mp hnest
      exact ⟨place, what, hblames⟩
  · intro place what h
    have hnest := nestAll_eq_error_iff.mpr ⟨place, what, rfl, h⟩
    rw [← hmap] at hnest
    cases hread : ofChars source.toList with
    | ok t =>
      rw [hread] at hnest
      cases hnest
    | error o =>
      rw [hread] at hnest
      cases hnest
      rw [ofText, hread]
      rfl

/-- A page with tags that cross. -/
def crossedPage : String := "<b><i>x</b></i>"

theorem read_iff_wellNested_pages : (∃ t, ofText mixedPage none = .ok t) ∧
    ofText crossedPage none = .error (.template
      ⟨"Mismatched closing tag </b>, expected </i>", some 1, none, some crossedPage, some 7⟩) := by
  have hmixed := read_iff_wellNested mixedPage none
    (List.all_eq_true.mp (by decide +kernel)) (by decide +kernel)
  have hcrossed := read_iff_wellNested crossedPage none
    (List.all_eq_true.mp (by decide +kernel)) (by decide +kernel)
  have hpair : brackets .start (lexemes mixedPage.toList) =
      [.opening ⟨4, 10⟩ "p", .closing ⟨4, 51⟩ "p"] := by decide +kernel
  have hcross : brackets .start (lexemes crossedPage.toList) =
      [.opening ⟨1, 0⟩ "b", .opening ⟨1, 3⟩ "i"] ++
        .closing ⟨1, 7⟩ "b" :: [.closing ⟨1, 11⟩ "i"] := by decide +kernel
  constructor
  · exact hmixed.1.mpr (hpair ▸ .pair .nil .nil)
  · have hopen : LeavesOpen [.opening ⟨1, 0⟩ "b", .opening ⟨1, 3⟩ "i"]
        [(⟨1, 3⟩, "i"), (⟨1, 0⟩, "b")] := .one (.one (.none .nil) .nil) .nil
    exact hcrossed.2.2.2 ⟨1, 7⟩ (.mismatchedClosing "b" "i")
      (hcross ▸ .mismatched hopen (by decide))

end Template

end LivePreview
