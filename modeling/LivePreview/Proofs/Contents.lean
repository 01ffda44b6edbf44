import LivePreview.Proofs.Fragments

/-!
# Functions for content

The content of a component is written as a function of its own, right before the call that is given
it. These functions are numbered in the order of the tags they come from, a tag before those in its
content, and each number is taken once in a document. Each of them gathers its output in a buffer of
its own.
-/

namespace LivePreview

namespace Code

/-! ## Functions in a block -/

/-- A function that is defined in a block, and the statement right behind it. -/
structure FunctionSite where
  name : String
  params : List Parameter
  body : List Statement
  next : Option Statement

mutual

/-- The functions that a statement with `next` behind it defines, in the order of the text. -/
def Statement.definitions (next : Option Statement) : Statement → List FunctionSite
  | .function name params body => ⟨name, params, body, next⟩ :: blockDefinitions body
  | .classDef _ _ _ body => blockDefinitions body
  | .importModule _ | .importFrom _ _ | .assign _ _ | .expression _ | .return _ | .pass => []

/-- The functions that are defined in a block and in the blocks inside of it. -/
def blockDefinitions : List Statement → List FunctionSite
  | [] => []
  | s :: ss => s.definitions ss.head? ++ blockDefinitions ss

end

theorem blockDefinitions_of_forall {ss : List Statement}
    (h : ∀ s ∈ ss, ∀ next, s.definitions next = []) (rest : List Statement) :
    blockDefinitions (ss ++ rest) = blockDefinitions rest := by
  induction ss with
  | nil => rfl
  | cons s ss ih =>
    obtain ⟨hs, hss⟩ := List.forall_mem_cons.mp h
    rw [List.cons_append, blockDefinitions, hs, ih hss, List.nil_append]

/-! ## Names in expressions -/

def Expr.ownName? : Expr → Option String
  | .name id => some id
  | _ => none

/-- The names among these parts of expressions, each as often as it stands there. -/
def namesAmong (ps : List Expr) : List String := ps.filterMap Expr.ownName?

end Code

namespace Template

/-! ## Tags with content -/

/-- A component tag with the nodes between it and its closing tag. -/
structure FilledUse extends Use where
  content : List Node

mutual

/-- The component tags of a node that have content, in the order of the text. -/
def Node.filledUses : Node → List FilledUse
  | .data _ _ | .output _ _ => []
  | .element place name attributes body _ =>
    (if isComponentTag name && !body.isEmpty then [⟨⟨place, name, attributes⟩, body⟩] else []) ++
      bodyFilledUses body

def bodyFilledUses : List Node → List FilledUse
  | [] => []
  | n :: ns => n.filledUses ++ bodyFilledUses ns

end

end Template

namespace Component

open LivePreview.Code (Expr FunctionSite Statement blockDefinitions blockDefinitions_of_forall
  blockParts namesAmong)
open LivePreview.Template (AllSlashEmpty Attribute FilledUse Node bodyFilledUses)

/-! ## What is given to components -/

/-- The name of the content in the call of a component that is appended. -/
def givenContent? : Expr → Option String
  | .call (.name "_append") [.call (.name "_render_component") [_, _, .name id] []] [] => some id
  | _ => none

mutual

/-- The names of the contents that are given to components, in the order of the text. -/
def givenContents : Statement → List String
  | .function _ _ body | .classDef _ _ _ body => blockGivenContents body
  | .expression value => (givenContent? value).toList
  | .importModule _ | .importFrom _ _ | .assign _ _ | .return _ | .pass => []

def blockGivenContents : List Statement → List String
  | [] => []
  | s :: ss => givenContents s ++ blockGivenContents ss

end

theorem blockGivenContents_append (ss ts : List Statement) :
    blockGivenContents (ss ++ ts) = blockGivenContents ss ++ blockGivenContents ts := by
  induction ss with
  | nil => rfl
  | cons s ss ih =>
    rw [List.cons_append, blockGivenContents, ih, blockGivenContents, List.append_assoc]

theorem givenContents_contentFunction (number : Nat) (body : List Statement) :
    givenContents (contentFunction number body) = blockGivenContents body := by
  have hstart : blockGivenContents bufferStart = [] := rfl
  have hend : blockGivenContents [bufferEnd] = [] := rfl
  rw [contentFunction, givenContents, blockGivenContents_append, blockGivenContents_append, hstart,
    hend, List.append_nil, List.nil_append]

/-! ## Written bodies -/

/-- Statements that are written for tags with content, when there are `n` functions before them:
what is appended, and for each tag a function with the next number and the call that is given it. The
tags inside of the content take their numbers before those behind it. -/
inductive Emitted (c : Context) (own : String) : Nat → List FilledUse → List Statement → Prop
  | nil (n : Nat) : Emitted c own n [] []
  | append {n : Nat} {us : List FilledUse} {ss : List Statement} {e : Expr}
      (he : givenContents (Draft.appending e) = []) (h : Emitted c own n us ss) :
      Emitted c own n us (Draft.appending e :: ss)
  | content {n : Nat} {u : FilledUse} {inside us : List FilledUse} {ss : List Statement}
      {b : Binding} {target : Expr} {f : Findings} {q : Progress}
      (hresolve : c.resolve u.name = some b) (htarget : targetOf u.name b = .ok target)
      (hcontents : f.contents = n + 1) (hq : writeNodes c own ⟨.empty, f⟩ u.content = .ok q)
      (hinside : Emitted c own (n + 1) inside q.draft.finish)
      (h : Emitted c own (n + 1 + inside.length) us ss) :
      Emitted c own n (u :: (inside ++ us)) (contentFunction (n + 1) q.draft.finish ::
        Draft.appending (renderCall target u.attributes (.name (contentName (n + 1)))) :: ss)

namespace Emitted

variable {c : Context} {own : String} {n : Nat} {us vs : List FilledUse} {ss ts : List Statement}

theorem trans (h : Emitted c own n us ss) (h' : Emitted c own (n + us.length) vs ts) :
    Emitted c own n (us ++ vs) (ss ++ ts) := by
  induction h with
  | nil n => exact h'
  | append he _ ih => exact .append he (ih h')
  | @content n u inside us ss b target f q hresolve htarget hcontents hq hinside _ _ ih =>
    rw [List.cons_append, List.append_assoc]
    refine .content hresolve htarget hcontents hq hinside (ih ?_)
    rw [List.length_cons, List.length_append] at h'
    rwa [show n + 1 + inside.length + us.length = n + (inside.length + us.length + 1) by omega]

theorem appendText (s : String) (n : Nat) : Emitted c own n [] (Component.appendText s) := by
  rcases appendText_cases s with h | ⟨-, h⟩
  · rw [h]
    exact .nil n
  · rw [h]
    exact .append rfl (.nil n)

end Emitted

/-- From `p` to `q` statements are written for these tags, and each of them is counted. -/
def Emits (c : Context) (own : String) (p q : Progress) (us : List FilledUse) : Prop :=
  (∃ ss, q.draft.statements.reverse = p.draft.statements.reverse ++ ss ∧
    Emitted c own p.findings.contents us ss) ∧
  q.findings.contents = p.findings.contents + us.length

namespace Emits

variable {c : Context} {own : String} {p q r : Progress} {us vs : List FilledUse}

theorem of_same (hstatements : q.draft.statements = p.draft.statements)
    (hcontents : q.findings.contents = p.findings.contents) : Emits c own p q [] :=
  ⟨⟨[], by rw [hstatements, List.append_nil], .nil _⟩, hcontents⟩

theorem trans (h : Emits c own p q us) (h' : Emits c own q r vs) : Emits c own p r (us ++ vs) := by
  obtain ⟨⟨ss, hss, hus⟩, hcount⟩ := h
  obtain ⟨⟨ts, hts, hvs⟩, hcount'⟩ := h'
  rw [hcount] at hvs hcount'
  refine ⟨⟨ss ++ ts, by rw [hts, hss, List.append_assoc], hus.trans hvs⟩, ?_⟩
  rw [hcount', List.length_append, Nat.add_assoc]

theorem text (h : Emits c own p q us) (s : String) : Emits c own p (q.text s) us := h

theorem value (h : Emits c own p q us) {e : Expr} (he : givenContents (Draft.appending e) = []) :
    Emits c own p (q.value e) us := by
  have hone : Emits c own q (q.value e) [] := by
    refine ⟨⟨appendText q.draft.pending ++ [Draft.appending e], ?_, ?_⟩, rfl⟩
    · rw [Progress.value, Draft.value, Draft.statement_eq, List.reverse_cons,
        Draft.statements_flush, List.append_assoc]
    · exact (Emitted.appendText _ _).trans (.append he (.nil _))
  have hboth := h.trans hone
  rwa [List.append_nil] at hboth

/-- What is written for a whole body. -/
theorem finish {f : Findings} (h : Emits c own ⟨.empty, f⟩ q us) :
    Emitted c own f.contents us q.draft.finish := by
  obtain ⟨⟨ss, hss, hus⟩, -⟩ := h
  rw [Draft.finish, Draft.statements_flush, hss]
  have hall := hus.trans (Emitted.appendText q.draft.pending _)
  rwa [List.append_nil] at hall

theorem openMarkup (p : Progress) (name : String) (attributes : List Attribute) :
    Emits c own p (p.openMarkup name attributes) [] := by
  have hmarkup (q : Progress) (hq : Emits c own p q []) (a : Attribute) (_ : a ∈ attributes) :
      Emits c own p (q.attributeMarkup a) [] := by
    unfold Progress.attributeMarkup
    split
    · exact hq.text _
    · exact hq.text _
    · exact ((hq.text _).value rfl).text _
  exact List.foldlRecOn (motive := fun q : Progress => Emits c own p q []) attributes _
    ((of_same rfl rfl).text _) hmarkup

/-- A function with the next number, and the call that is given it. -/
theorem content {u : FilledUse} {b : Binding} {target : Expr} {f : Findings}
    (hresolve : c.resolve u.name = some b) (htarget : targetOf u.name b = .ok target)
    (hcontents : f.contents = p.findings.contents)
    (hwritten : writeNodes c own ⟨.empty, { f with contents := f.contents + 1 }⟩ u.content = .ok r)
    (h : Emits c own ⟨.empty, { f with contents := f.contents + 1 }⟩ r us) :
    Emits c own p (Progress.value
      ⟨p.draft.statement (contentFunction (f.contents + 1) r.draft.finish), r.findings⟩
      (renderCall target u.attributes (.name (contentName (f.contents + 1))))) (u :: us) := by
  have hinside : Emitted c own (f.contents + 1) us r.draft.finish := h.finish
  refine ⟨⟨appendText p.draft.pending ++ [contentFunction (f.contents + 1) r.draft.finish,
    Draft.appending (renderCall target u.attributes (.name (contentName (f.contents + 1))))],
    ?_, ?_⟩, ?_⟩
  · have hslot := Draft.add_slot p.draft (some (contentFunction (f.contents + 1) r.draft.finish))
      (renderCall target u.attributes (.name (contentName (f.contents + 1))))
    rw [Draft.add] at hslot
    rw [Progress.value, hslot]
    simp [Draft.statements_flush]
  · have hone := Emitted.content hresolve htarget rfl hwritten hinside (.nil _)
    rw [List.append_nil, hcontents] at hone
    rw [hcontents]
    exact (Emitted.appendText _ _).trans hone
  · have hcount : r.findings.contents = f.contents + 1 + us.length := h.2
    rw [Progress.value, hcount, List.length_cons, ← hcontents]
    omega

end Emits

/-! ## Bodies -/

/-- The tags among these that stand for something. -/
def served (c : Context) (us : List FilledUse) : List FilledUse :=
  us.filter fun u => (c.resolve u.name).isSome

section Writing

variable {c : Context} {own : String}

theorem served_append (us vs : List FilledUse) : served c (us ++ vs) = served c us ++ served c vs :=
  List.filter_append us vs

/-- A tag without a binding is given no content. -/
theorem served_of_unbound {place : Template.Position} {name : String} {attributes : List Attribute}
    {body : List Node} {closing : Template.Closing} (hbinding : binding? c name = none) :
    served c (Node.element place name attributes body closing).filledUses =
      served c (bodyFilledUses body) := by
  rw [Node.filledUses, served_append]
  unfold binding? at hbinding
  cases htag : Template.isComponentTag name with
  | false => simp [served]
  | true =>
    rw [htag, if_pos rfl] at hbinding
    cases body <;> simp [served, hbinding]

mutual

/-- From node to node the tags with content are written in their order. -/
theorem emits_writeNode (n : Node) (hn : n.SlashEmpty) (p q : Progress)
    (h : writeNode c own p n = .ok q) : Emits c own p q (served c n.filledUses) := by
  cases n with
  | data place text =>
    rw [writeNode] at h
    cases h
    exact (Emits.of_same rfl rfl).text text
  | output place e =>
    rw [writeNode] at h
    cases h
    exact (Emits.of_same rfl rfl).value rfl
  | element place name attributes body closing =>
    obtain ⟨hslash, hbody⟩ := hn
    have hwrite (p q : Progress) (h : writeNodes c own p body = .ok q) :
        Emits c own p q (served c (bodyFilledUses body)) := emits_writeNodes body hbody p q h
    rw [writeNode] at h
    cases hbinding : binding? c name with
    | none =>
      simp only [hbinding] at h
      rw [served_of_unbound hbinding]
      generalize hnoted : (if Template.isComponentTag name then
          { p with findings := p.findings.note [.unresolvedComponent place name] }
        else p) = noted at h
      have hsame : Emits c own p noted [] := by
        rw [← hnoted]
        split <;> exact .of_same rfl rfl
      have hopened : Emits c own p (noted.openMarkup name attributes) [] :=
        hsame.trans (.openMarkup noted name attributes)
      generalize noted.openMarkup name attributes = opened at h hopened
      split at h
      · next hclosing =>
        cases h
        rw [hslash hclosing]
        exact hopened.text _
      · split at h
        · next hvoid =>
          rw [Bool.and_eq_true, List.isEmpty_iff] at hvoid
          cases h
          rw [hvoid.1]
          exact hopened.text _
        · obtain ⟨inner, hinner, h⟩ := bind_eq_ok_iff.mp h
          cases h
          exact ((hopened.text ">").trans (hwrite _ inner hinner)).text _
    | some b =>
      obtain ⟨htag, hresolve⟩ := binding?_eq_some hbinding
      simp only [hbinding] at h
      have hused : (p.findings.use own place name attributes b).contents = p.findings.contents := by
        rw [Findings.use_eq]
      generalize p.findings.use own place name attributes b = used at h hused
      obtain ⟨target, htarget, h⟩ := bind_eq_ok_iff.mp h
      have hmet : Emits c own p ⟨p.draft, used⟩ [] := .of_same rfl hused
      split at h
      · next hempty =>
        rw [List.isEmpty_iff] at hempty
        cases h
        rw [hempty, Node.filledUses, List.isEmpty_nil, Bool.not_true, Bool.and_false]
        exact hmet.value rfl
      · next hfilled =>
        obtain ⟨inner, hinner, h⟩ := bind_eq_ok_iff.mp h
        cases h
        have hinside := hwrite _ inner hinner
        have hserved : served c (Node.element place name attributes body closing).filledUses =
            ⟨⟨place, name, attributes⟩, body⟩ :: served c (bodyFilledUses body) := by
          simp [Node.filledUses, served, htag, hfilled, hresolve]
        rw [hserved]
        exact .content (u := ⟨⟨place, name, attributes⟩, body⟩) hresolve htarget hused hinner
          hinside

theorem emits_writeNodes (ns : List Node) (hns : AllSlashEmpty ns) (p q : Progress)
    (h : writeNodes c own p ns = .ok q) : Emits c own p q (served c (bodyFilledUses ns)) := by
  cases ns with
  | nil =>
    rw [writeNodes] at h
    cases h
    exact .of_same rfl rfl
  | cons n ns =>
    obtain ⟨hfirst, hrest⟩ := hns
    rw [writeNodes] at h
    obtain ⟨between, hn, hns⟩ := bind_eq_ok_iff.mp h
    rw [bodyFilledUses, served_append]
    exact (emits_writeNode n hfirst p between hn).trans (emits_writeNodes ns hrest between q hns)

end

end Writing

/-! ## What the functions are -/

/-- The body of a function that makes its own buffer: before that there are assignments, which have
nothing to do with a buffer; then values are appended to it and functions for content are defined,
and at last what is in it is returned. -/
def Buffered (body : List Statement) : Prop :=
  ∃ before inner, body = before ++ bufferStart ++ inner ++ [bufferEnd] ∧
    (∀ s ∈ before, ∃ id value, s = .assign (.name id) value) ∧
    "_buf" ∉ namesAmong (blockParts before) ∧ "_append" ∉ namesAmong (blockParts before) ∧
    ∀ s ∈ inner, (∃ e, s = Draft.appending e) ∨ ∃ number ss, s = contentFunction number ss

/-- The function with this number for the content of a tag; what comes next is the call that is
given it. -/
structure Serves (c : Context) (own : String) (u : FilledUse) (number : Nat) (d : FunctionSite) :
    Prop where
  name : d.name = contentName number
  params : d.params = []
  /-- In the body is what is written for the content. -/
  written : ∃ f q, f.contents = number ∧ writeNodes c own ⟨.empty, f⟩ u.content = .ok q ∧
    d.body = bufferStart ++ q.draft.finish ++ [bufferEnd]
  buffered : Buffered d.body
  next : ∃ b target, c.resolve u.name = some b ∧ targetOf u.name b = .ok target ∧
    d.next = some (Draft.appending (renderCall target u.attributes (.name d.name)))

namespace Emitted

variable {c : Context} {own : String} {n : Nat} {us : List FilledUse} {ss : List Statement}

theorem kinds (h : Emitted c own n us ss) : ∀ s ∈ ss, (∃ e, s = Draft.appending e) ∨
    ∃ number body, s = contentFunction number body := by
  induction h with
  | nil n => exact fun s hs => absurd hs List.not_mem_nil
  | append _ _ ih => exact List.forall_mem_cons.mpr ⟨.inl ⟨_, rfl⟩, ih⟩
  | content _ _ _ _ _ _ _ ih =>
    exact List.forall_mem_cons.mpr ⟨.inr ⟨_, _, rfl⟩,
      List.forall_mem_cons.mpr ⟨.inl ⟨_, rfl⟩, ih⟩⟩

theorem buffered (h : Emitted c own n us ss) : Buffered (bufferStart ++ ss ++ [bufferEnd]) :=
  ⟨[], ss, rfl, fun _ hs => absurd hs List.not_mem_nil, List.not_mem_nil, List.not_mem_nil, h.kinds⟩

/-- No function comes last, so that none is next to the statements behind. -/
theorem blockDefinitions_append (h : Emitted c own n us ss) (rest : List Statement) :
    blockDefinitions (ss ++ rest) = blockDefinitions ss ++ blockDefinitions rest := by
  induction h with
  | nil n => rfl
  | append _ _ ih =>
    rw [List.cons_append, blockDefinitions, ih, blockDefinitions, List.append_assoc]
    rfl
  | content _ _ _ _ _ _ _ ih =>
    simp only [List.cons_append, blockDefinitions, ih, List.append_assoc]
    rfl

theorem definitions_contentFunction (h : Emitted c own n us ss) (number : Nat)
    (next : Option Statement) : (contentFunction number ss).definitions next =
      ⟨contentName number, [], bufferStart ++ ss ++ [bufferEnd], next⟩ :: blockDefinitions ss := by
  have hstart : ∀ s ∈ bufferStart, ∀ next, s.definitions next = [] := by
    simp [bufferStart, Statement.definitions]
  have hend : blockDefinitions [bufferEnd] = [] := rfl
  rw [contentFunction, Statement.definitions, List.append_assoc bufferStart,
    blockDefinitions_of_forall hstart, h.blockDefinitions_append, hend, List.append_nil]

/-- Each function is for one tag, and they are numbered in the order of the tags. -/
theorem serves (h : Emitted c own n us ss) :
    List.Forall₂ (fun x d => Serves c own x.1 x.2 d) (us.zipIdx (n + 1)) (blockDefinitions ss) := by
  induction h with
  | nil n => exact .nil
  | append _ _ ih => exact ih
  | @content n u inside us ss b target f q hresolve htarget hcontents hq hinside h hfirst hrest =>
    rw [blockDefinitions, hinside.definitions_contentFunction, List.zipIdx_cons,
      List.zipIdx_append, List.cons_append]
    refine .cons ?_ (List.rel_append hfirst ?_)
    · exact {
        name := rfl
        params := rfl
        written := ⟨f, q, hcontents, hq, rfl⟩
        buffered := hinside.buffered
        next := ⟨b, target, hresolve, htarget, rfl⟩ }
    · rw [show n + 1 + 1 + inside.length = n + 1 + inside.length + 1 by omega]
      exact hrest

/-- Each of the functions is given to one component, and nothing else is. -/
theorem given (h : Emitted c own n us ss) :
    (blockGivenContents ss).Perm ((List.range' (n + 1) us.length).map contentName) := by
  induction h with
  | nil n => exact .nil
  | @append n us ss e he _ ih =>
    rw [blockGivenContents, he]
    exact ih
  | @content n u inside us ss b target f q hresolve htarget hcontents hq hinside h hfirst hrest =>
    -- The contents inside of the function are given before the function itself is.
    have hcall : givenContents (Draft.appending
        (renderCall target u.attributes (.name (contentName (n + 1))))) =
          [contentName (n + 1)] := rfl
    have hall := (hfirst.append hrest).cons (contentName (n + 1))
    rw [blockGivenContents, givenContents_contentFunction, blockGivenContents, hcall,
      List.singleton_append, List.length_cons, List.length_append, List.range'_succ,
      ← List.range'_append_1, List.map_cons, List.map_append]
    rw [show n + 1 + 1 + inside.length = n + 1 + inside.length + 1 by omega]
    exact List.perm_middle.trans hall

end Emitted

end Component

end LivePreview
