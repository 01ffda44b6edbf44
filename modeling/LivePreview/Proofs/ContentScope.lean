import LivePreview.Proofs.Contents
import LivePreview.Proofs.Outcome

/-!
# The scope of functions for content

A module defines the initializer, the render method, and the functions for content. Their names are
all different, and of what the compiler adds only one call mentions the name of a function for
content: that which the function is given to. An expression of the template is written as it is, and
may mention any name.
-/

namespace LivePreview

namespace Code

/-! ## Names in expressions -/

section Names

theorem namesAmong_append (ps qs : List Expr) :
    namesAmong (ps ++ qs) = namesAmong ps ++ namesAmong qs := List.filterMap_append

theorem namesAmong_cons {e : Expr} (h : e.ownName? = none) (ps : List Expr) :
    namesAmong (e :: ps) = namesAmong ps := List.filterMap_cons_none h

theorem namesAmong_flatMap {α : Type} (f : α → List Expr) (as : List α) :
    namesAmong (as.flatMap f) = as.flatMap fun a => namesAmong (f a) := List.filterMap_flatMap ..

theorem namesAmong_name (id : String) : namesAmong (Expr.name id).parts = [id] := by
  rw [Expr.parts]
  rfl

theorem namesAmong_constant (k : Constant) : namesAmong (Expr.constant k).parts = [] := by
  rw [Expr.parts]
  rfl

theorem namesAmong_attribute (e : Expr) (name : String) :
    namesAmong (Expr.attribute e name).parts = namesAmong e.parts := by
  rw [Expr.parts, namesAmong_cons rfl]

theorem namesAmong_attributes (names : List String) : ∀ e : Expr,
    namesAmong (attributes e names).parts = namesAmong e.parts := by
  induction names with
  | nil => exact fun e => rfl
  | cons s names ih => exact fun e => (ih _).trans (namesAmong_attribute e _)

theorem namesAmong_tuple (es : List Expr) :
    namesAmong (Expr.tuple es).parts = es.flatMap fun e => namesAmong e.parts := by
  rw [Expr.parts, namesAmong_cons rfl, listParts_eq_flatMap, namesAmong_flatMap]

end Names

end Code

namespace Component

open LivePreview.Code (Expr FunctionSite Parameter Statement blockDefinitions
  blockDefinitions_of_forall blockParts blockParts_eq_flatMap keywordParts listParts_eq_flatMap
  mappingParts namesAmong namesAmong_append namesAmong_attribute namesAmong_attributes
  namesAmong_cons namesAmong_constant namesAmong_flatMap namesAmong_name namesAmong_tuple optionParts)
open LivePreview.Template (Attribute Expression FilledUse TagName Use bodyExpressions
  bodyFilledUses)

theorem namesAmong_callOf (function : String) (args : List Expr) :
    namesAmong (Draft.callOf function args).parts =
      function :: args.flatMap fun e => namesAmong e.parts := by
  rw [Draft.callOf, Expr.parts, namesAmong_cons rfl, namesAmong_append, namesAmong_append,
    namesAmong_name, listParts_eq_flatMap, namesAmong_flatMap, keywordParts]
  exact List.append_nil _

theorem namesAmong_appending (e : Expr) :
    namesAmong (Draft.appending e).parts = "_append" :: namesAmong e.parts := by
  rw [Draft.appending, Statement.parts, namesAmong_callOf, List.flatMap_singleton]

/-- The names in what is given to a component for its attributes. -/
theorem namesAmong_arguments (as : List Attribute) :
    namesAmong (mappingParts (as.map fun a => .pair (.ofText a.name) (attributeArgument a))) =
      as.flatMap fun a => namesAmong (attributeArgument a).parts := by
  induction as with
  | nil =>
    rw [List.map_nil, mappingParts]
    rfl
  | cons a as ih =>
    rw [List.map_cons, mappingParts, namesAmong_append, namesAmong_append, ih, Expr.ofText,
      namesAmong_constant, List.nil_append, List.flatMap_cons]

theorem namesAmong_renderCall (target : Expr) (as : List Attribute) (content : Expr) :
    namesAmong (renderCall target as content).parts =
      "_render_component" :: (namesAmong target.parts ++
        (as.flatMap fun a => namesAmong (attributeArgument a).parts) ++
          namesAmong content.parts) := by
  rw [renderCall, namesAmong_callOf]
  simp only [List.flatMap_cons, List.flatMap_nil, List.append_nil, List.append_assoc]
  rw [Expr.parts, namesAmong_cons rfl, namesAmong_arguments]

/-! ## Names of functions for content -/

theorem contentName_injective {m n : ℕ} (h : contentName m = contentName n) : m = n := by
  have hspelled : ("_children_" ++ toString m).toList = ("_children_" ++ toString n).toList :=
    congrArg String.toList h
  rw [String.toList_append, String.toList_append] at hspelled
  have hdigits := List.append_cancel_left hspelled
  simp only [Nat.toString_eq_repr, Nat.toList_repr] at hdigits
  have hvalue := congrArg (Nat.ofDigitChars 10 · 0) hdigits
  simpa using hvalue

/-- A name of another form is not that of a function for content. -/
theorem contentName_ne (number : ℕ) {s : String}
    (h : "_children_".toList.isPrefixOf s.toList = false) : contentName number ≠ s := by
  rintro rfl
  have hfront : "_children_".toList.isPrefixOf (contentName number).toList = true := by
    rw [contentName, String.toList_append]
    exact List.isPrefixOf_iff_prefix.mpr (List.prefix_append _ _)
  rw [hfront] at h
  cases h

theorem contentName_ne_of_head? (number : ℕ) {s : String} (h : s.toList.head? ≠ some '_') :
    contentName number ≠ s := by
  rintro rfl
  exact h (head?_contentName number)

/-! ## Render methods -/

/-- What a render method does before it makes its buffer: it makes the parameters names again, and
the content. -/
def preparations (t : Template) : List Statement :=
  (t.params.map fun p => Statement.assign (.name p.name) (.attribute selfName p.name)) ++
    if t.params.any (·.name = "children") then [] else [contentBinding]

theorem renderer_eq (t : Template) (body : List Statement) : renderer t body =
    .function "render"
      [⟨"self", false, none, none⟩, ⟨"_children", false, none, some (.constant .none)⟩]
      (preparations t ++ bufferStart ++ body ++ [bufferEnd]) := rfl

theorem mem_preparations {t : Template} {s : Statement} (hs : s ∈ preparations t) :
    (∃ q ∈ t.params, s = .assign (.name q.name) (.attribute selfName q.name)) ∨
      s = contentBinding := by
  rcases List.mem_append.mp hs with hs | hs
  · obtain ⟨q, hq, rfl⟩ := List.mem_map.mp hs
    exact .inl ⟨q, hq, rfl⟩
  · split at hs
    · exact absurd hs List.not_mem_nil
    · exact .inr (List.mem_singleton.mp hs)

/-! ## Mentions of a name -/

section Mentions

variable {number : ℕ} {s : Statement} {ss : List Statement}

/-- A statement mentions the name just as often as it gives it as content. -/
def Sparing (number : ℕ) (s : Statement) : Prop :=
  (namesAmong s.parts).count (contentName number) = (givenContents s).count (contentName number)

theorem sparing_block (h : ∀ s ∈ ss, Sparing number s) :
    (namesAmong (blockParts ss)).count (contentName number) =
      (blockGivenContents ss).count (contentName number) := by
  induction ss with
  | nil =>
    rw [blockParts]
    rfl
  | cons s ss ih =>
    obtain ⟨hs, hss⟩ := List.forall_mem_cons.mp h
    rw [blockParts, namesAmong_append, List.count_append, hs, ih hss, blockGivenContents,
      List.count_append]

theorem sparing_of_notMem (hnames : contentName number ∉ namesAmong s.parts)
    (hgiven : givenContents s = []) : Sparing number s := by
  rw [Sparing, hgiven, List.count_nil]
  exact List.count_eq_zero.mpr hnames

/-- What is appended without content does not mention the name. -/
theorem sparing_appending {e : Expr} (hnames : contentName number ∉ namesAmong e.parts)
    (hgiven : givenContents (Draft.appending e) = []) : Sparing number (Draft.appending e) := by
  refine sparing_of_notMem ?_ hgiven
  rw [namesAmong_appending, List.mem_cons, not_or]
  exact ⟨contentName_ne number (by decide), hnames⟩

theorem sparing_assign {target value : Expr}
    (htarget : contentName number ∉ namesAmong target.parts)
    (hvalue : contentName number ∉ namesAmong value.parts) :
    Sparing number (.assign target value) := by
  refine sparing_of_notMem ?_ rfl
  rw [Statement.parts, namesAmong_append, List.mem_append, not_or]
  exact ⟨htarget, hvalue⟩

theorem notMem_name {id : String} (h : contentName number ≠ id) :
    contentName number ∉ namesAmong (Expr.name id).parts := by
  rw [namesAmong_name]
  exact fun hmem => h (List.mem_singleton.mp hmem)

theorem notMem_constant (k : Code.Constant) :
    contentName number ∉ namesAmong (Expr.constant k).parts := by
  rw [namesAmong_constant]
  exact List.not_mem_nil

theorem sparing_function {name : String} {params : List Parameter} {body : List Statement}
    (hparams : ∀ p ∈ params, contentName number ∉ namesAmong p.parts)
    (hbody : ∀ s ∈ body, Sparing number s) : Sparing number (.function name params body) := by
  have hzero : (namesAmong (params.flatMap Parameter.parts)).count (contentName number) = 0 := by
    rw [List.count_eq_zero, namesAmong_flatMap]
    intro hmem
    obtain ⟨p, hp, hmem⟩ := List.mem_flatMap.mp hmem
    exact hparams p hp hmem
  rw [Sparing, Statement.parts, namesAmong_append, List.count_append, hzero, Nat.zero_add,
    sparing_block hbody, givenContents]

/-- Statements without variable parts, whose names can all be seen. -/
theorem sparing_of_all (h : (ss.all fun s => (givenContents s).isEmpty &&
    (namesAmong s.parts).all fun x => !"_children_".toList.isPrefixOf x.toList) = true) :
    ∀ s ∈ ss, Sparing number s := by
  intro s hs
  have hboth := List.all_eq_true.mp h s hs
  rw [Bool.and_eq_true, List.isEmpty_iff] at hboth
  obtain ⟨hgiven, hnames⟩ := hboth
  refine sparing_of_notMem (fun hmem => ?_) hgiven
  have hother := List.all_eq_true.mp hnames _ hmem
  exact contentName_ne number (by simpa using hother) rfl

theorem sparing_bufferStart : ∀ s ∈ bufferStart, Sparing number s :=
  sparing_of_all (by decide +kernel)

theorem sparing_bufferEnd : ∀ s ∈ [bufferEnd], Sparing number s :=
  sparing_of_all (by decide +kernel)

theorem sparing_contentBinding : Sparing number contentBinding := by
  have hall : ∀ s ∈ [contentBinding], Sparing number s := sparing_of_all (by decide +kernel)
  exact hall _ (List.mem_singleton_self _)

theorem sparing_header (t : Template) (f : Findings) : ∀ s ∈ header t f, Sparing number s := by
  intro s hs
  rcases import_of_mem_header hs with ⟨m, rfl⟩ | ⟨m, names, rfl⟩ <;>
    exact sparing_of_notMem List.not_mem_nil rfl

theorem sparing_surface (t : Template) (path : String) :
    ∀ s ∈ surface t path, Sparing number s := by
  have hline {name : String} (hname : contentName number ≠ name) {value : Expr}
      (hvalue : contentName number ∉ namesAmong value.parts) :
      Sparing number (assignName name value) := sparing_assign (notMem_name hname) hvalue
  have htuple {es : List Expr} (h : ∀ e ∈ es, contentName number ∉ namesAmong e.parts) :
      contentName number ∉ namesAmong (Expr.tuple es).parts := by
    rw [namesAmong_tuple]
    intro hmem
    obtain ⟨e, he, hmem⟩ := List.mem_flatMap.mp hmem
    exact h e he hmem
  have hoptional (hint : Option String) :
      contentName number ∉ namesAmong (optionalText hint).parts := by
    cases hint <;> exact notMem_constant _
  simp only [surface, List.forall_mem_cons]
  refine ⟨hline (contentName_ne number (by decide)) (notMem_constant _),
    hline (contentName_ne number (by decide)) (notMem_constant _),
    hline (contentName_ne number (by decide)) (htuple (List.forall_mem_map.mpr fun p _ => ?_)),
    hline (contentName_ne number (by decide)) (htuple (List.forall_mem_map.mpr fun p _ => ?_)),
    fun s hs => absurd hs List.not_mem_nil⟩
  · exact htuple (List.forall_mem_cons.mpr ⟨notMem_constant _,
      List.forall_mem_singleton.mpr (hoptional _)⟩)
  · exact notMem_constant _

end Mentions

/-! ## Mentions in a module -/

/-- No expression of the template mentions the function for content with this number. -/
def Unmentioned (t : Template) (number : ℕ) : Prop :=
  ∀ e ∈ t.expressions, contentName number ∉ namesAmong e.tree.parts

section Given

variable {c : Context} {content : String} {t : Template} {number : ℕ}

theorem head?_param_ne_underscore (ht : Template.ofChars content.toList = .ok t)
    {q : Template.Param} (hq : q ∈ t.params) : q.name.toList.head? ≠ some '_' := by
  have husable := (Template.wellNamed_of_read ht).1 q hq
  simp only [Template.isUnusableParam, Bool.or_eq_false_iff, decide_eq_false_iff_not] at husable
  exact husable.1.2

theorem notMem_param (ht : Template.ofChars content.toList = .ok t) {q : Template.Param}
    (hq : q ∈ t.params) : contentName number ∉ namesAmong (Expr.name q.name).parts :=
  notMem_name (contentName_ne_of_head? number (head?_param_ne_underscore ht hq))

theorem notMem_self (name : String) :
    contentName number ∉ namesAmong (Expr.attribute selfName name).parts := by
  rw [namesAmong_attribute]
  exact notMem_name (contentName_ne number (by decide))

theorem sparing_initializer (ht : Template.ofChars content.toList = .ok t)
    (hfree : Unmentioned t number) : Sparing number (initializer t) := by
  have hoption {e : Option Expression} (he : ∀ x, e = some x → x ∈ t.expressions) :
      contentName number ∉ namesAmong (optionParts (e.map (·.tree))) := by
    cases e with
    | none => exact List.not_mem_nil
    | some e => exact hfree e (he e rfl)
  have hstore (q : Template.Param) (hq : q ∈ t.params) : Sparing number
      (.assign (.attribute selfName q.name) (.name q.name)) :=
    sparing_assign (notMem_self q.name) (notMem_param ht hq)
  refine sparing_function (List.forall_mem_cons.mpr ⟨List.not_mem_nil,
    List.forall_mem_map.mpr fun q hq => ?_⟩) ?_
  · rw [Parameter.parts, namesAmong_append, List.mem_append, not_or]
    exact ⟨hoption fun e he => mem_expressions_of_param hq (.inl he),
      hoption fun e he => mem_expressions_of_param hq (.inr he)⟩
  · split
    · exact sparing_of_all (by decide +kernel)
    · exact List.forall_mem_map.mpr hstore

theorem sparing_renderer (ht : Template.ofChars content.toList = .ok t)
    {body : List Statement} (hbody : ∀ s ∈ body, Sparing number s) :
    Sparing number (renderer t body) := by
  have hprepare : ∀ s ∈ preparations t, Sparing number s := by
    intro s hs
    rcases mem_preparations hs with ⟨q, hq, rfl⟩ | rfl
    · exact sparing_assign (notMem_param ht hq) (notMem_self q.name)
    · exact sparing_contentBinding
  rw [renderer_eq]
  refine sparing_function ?_ ?_
  · exact List.forall_mem_cons.mpr ⟨List.not_mem_nil, List.forall_mem_singleton.mpr
      (show _ ∉ namesAmong _ from notMem_constant .none)⟩
  · simp only [List.forall_mem_append]
    exact ⟨⟨⟨hprepare, sparing_bufferStart⟩, hbody⟩, sparing_bufferEnd⟩

/-- A component is called by a name that begins with a letter. -/
theorem notMem_target {name : String} {b : Binding} {target : Expr} (hname : TagName name)
    (htarget : targetOf name b = .ok target) :
    contentName number ∉ namesAmong target.parts := by
  cases hexternal : b.isExternal with
  | true =>
    obtain ⟨s, names, hparts, -⟩ := exists_dottedParts name
    rw [targetOf, if_pos hexternal] at htarget
    have hspelled := Code.read_dotted_eq_ok hname.segments htarget
    rw [hparts] at hspelled
    obtain ⟨-, root, hatom, rfl⟩ := Code.dotted?_eq_some hspelled
    rw [namesAmong_attributes]
    rcases Code.wordAtom?_eq_some hatom with ⟨k, -, rfl⟩ | rfl
    · exact notMem_constant k
    · have hroot := head?_rootOf_ne_underscore hname
      rw [Code.rootOf, Code.segmentsOf, hparts] at hroot
      exact notMem_name (contentName_ne_of_head? number hroot)
  | false =>
    rw [targetOf, hexternal] at htarget
    cases htarget
    obtain ⟨letter, hhead, hletter⟩ := hname.letter
    refine notMem_name (contentName_ne_of_head? number ?_)
    rw [hhead]
    rintro ⟨⟩
    exact absurd hletter (by decide)

theorem notMem_attributeArgument (hfree : Unmentioned t number) {u : Use} (hu : u ∈ t.uses)
    {a : Attribute} (ha : a ∈ u.attributes) :
    contentName number ∉ namesAmong (attributeArgument a).parts := by
  unfold attributeArgument
  split
  · exact notMem_constant _
  · exact notMem_constant _
  · next e he =>
    have hgiven : e ∈ u.attributes.flatMap Attribute.expressions := by
      refine List.mem_flatMap.mpr ⟨a, ha, ?_⟩
      rw [Attribute.expressions, he]
      exact List.mem_singleton_self e
    exact hfree e (mem_expressions_of_body (Template.mem_bodyExpressions_of_use t.body hu hgiven))

/-- What is written for a body mentions a function for content only where it is given. -/
theorem written_sparing (ht : Template.ofChars content.toList = .ok t)
    (hfree : Unmentioned t number) :
    Written c (Sparing number) t.uses (bodyExpressions t.body) where
  text s := sparing_appending (notMem_constant _) rfl
  escaped e he := by
    refine sparing_appending ?_ rfl
    rw [Progress.escaped, namesAmong_callOf, List.flatMap_singleton, List.mem_cons, not_or]
    exact ⟨contentName_ne number (by decide), hfree e (mem_expressions_of_body he)⟩
  call u hu b target hresolve htarget given hgiven := by
    have htargetNames : contentName number ∉ namesAmong target.parts :=
      notMem_target ((Template.wellNamed_of_read ht).2 u hu) htarget
    have hattributes : contentName number ∉
        u.attributes.flatMap fun a => namesAmong (attributeArgument a).parts := by
      intro hmem
      obtain ⟨a, ha, hmem⟩ := List.mem_flatMap.mp hmem
      exact notMem_attributeArgument hfree hu ha hmem
    have happend : "_append" ≠ contentName number := (contentName_ne number (by decide)).symm
    have hcall : "_render_component" ≠ contentName number :=
      (contentName_ne number (by decide)).symm
    rw [Sparing, namesAmong_appending, namesAmong_renderCall, List.count_cons_of_ne happend,
      List.count_cons_of_ne hcall, List.count_append, List.count_append,
      List.count_eq_zero.mpr htargetNames, List.count_eq_zero.mpr hattributes]
    rcases hgiven with rfl | ⟨other, rfl⟩
    · rw [namesAmong_constant]
      rfl
    · rw [namesAmong_name]
      exact Nat.zero_add _
  content other ss hss := by
    refine sparing_function (fun p hp => absurd hp List.not_mem_nil) ?_
    simp only [List.forall_mem_append]
    exact ⟨⟨sparing_bufferStart, hss⟩, sparing_bufferEnd⟩

theorem sparing_module (ht : Template.ofChars content.toList = .ok t)
    (hfree : Unmentioned t number) {own path : String} {p : Progress}
    (hp : writeNodes c own ⟨.empty, .empty⟩ t.body = .ok p) :
    ∀ s ∈ moduleOf t path p, Sparing number s := by
  have hbody : ∀ s ∈ p.draft.finish, Sparing number s :=
    written_body (written_sparing ht hfree) hp
  have hmembers : ∀ s ∈ surface t path ++ [initializer t, renderer t p.draft.finish],
      Sparing number s := by
    rw [List.forall_mem_append, List.forall_mem_cons, List.forall_mem_singleton]
    exact ⟨sparing_surface t path, sparing_initializer ht hfree, sparing_renderer ht hbody⟩
  rw [moduleOf, List.forall_mem_append, List.forall_mem_singleton]
  refine ⟨sparing_header t p.findings, ?_⟩
  rw [componentClass, Sparing, Statement.parts, givenContents]
  exact sparing_block hmembers

end Given

/-! ## The functions of a module -/

section Module

variable {c : Context} {own : String} {n : ℕ} {us : List FilledUse} {t : Template} {p : Progress}

theorem definitions_header (t : Template) (f : Findings) :
    ∀ s ∈ header t f, ∀ next, s.definitions next = [] := by
  intro s hs next
  rcases import_of_mem_header hs with ⟨m, rfl⟩ | ⟨m, names, rfl⟩ <;> rfl

theorem definitions_initializer (t : Template) (next : Option Statement) :
    ∃ d, (initializer t).definitions next = [d] ∧ d.name = "__init__" := by
  have hstores : ∀ s ∈ t.params.map fun p =>
      Statement.assign (.attribute selfName p.name) (.name p.name),
      ∀ next, s.definitions next = [] := List.forall_mem_map.mpr fun _ _ _ => rfl
  have hbody {ss : List Statement} (h : ∀ s ∈ ss, ∀ next, s.definitions next = []) :
      blockDefinitions (if ss.isEmpty then [.pass] else ss) = [] := by
    have hnone := blockDefinitions_of_forall h []
    rw [List.append_nil] at hnone
    split
    · rfl
    · exact hnone
  rw [initializer, Statement.definitions, hbody hstores]
  exact ⟨_, rfl, rfl⟩

/-- A hidden name is not mentioned before the buffer is made, unless the content is made of it. -/
theorem notMem_preparations {content : String} (ht : Template.ofChars content.toList = .ok t)
    {x : String} (hhidden : x.toList.head? = some '_') (hx : x ∉ namesAmong contentBinding.parts) :
    x ∉ namesAmong (blockParts (preparations t)) := by
  rw [blockParts_eq_flatMap, namesAmong_flatMap]
  intro hmem
  obtain ⟨s, hs, hmem⟩ := List.mem_flatMap.mp hmem
  rcases mem_preparations hs with ⟨q, hq, rfl⟩ | rfl
  · rw [Statement.parts, namesAmong_append, namesAmong_name, namesAmong_attribute, selfName,
      namesAmong_name, List.singleton_append, List.mem_cons, List.mem_singleton] at hmem
    rcases hmem with rfl | rfl
    · exact head?_param_ne_underscore ht hq hhidden
    · exact absurd hhidden (by decide)
  · exact hx hmem

theorem buffered_renderer {content : String} (ht : Template.ofChars content.toList = .ok t)
    {body : List Statement} (h : Emitted c own n us body) :
    Buffered (preparations t ++ bufferStart ++ body ++ [bufferEnd]) := by
  have hbuffer : "_buf" ∉ namesAmong contentBinding.parts := by decide +kernel
  have happend : "_append" ∉ namesAmong contentBinding.parts := by decide +kernel
  refine ⟨preparations t, body, rfl, fun s hs => ?_, notMem_preparations ht (by decide) hbuffer,
    notMem_preparations ht (by decide) happend, h.kinds⟩
  rcases mem_preparations hs with ⟨q, -, rfl⟩ | rfl
  · exact ⟨_, _, rfl⟩
  · exact ⟨_, _, rfl⟩

theorem definitions_renderer (h : Emitted c own n us p.draft.finish) (next : Option Statement) :
    (renderer t p.draft.finish).definitions next = ⟨"render",
      [⟨"self", false, none, none⟩, ⟨"_children", false, none, some (.constant .none)⟩],
      preparations t ++ bufferStart ++ p.draft.finish ++ [bufferEnd], next⟩ ::
        blockDefinitions p.draft.finish := by
  have hbefore : ∀ s ∈ preparations t ++ bufferStart, ∀ next, s.definitions next = [] := by
    refine List.forall_mem_append.mpr ⟨fun s hs next => ?_, ?_⟩
    · rcases mem_preparations hs with ⟨q, -, rfl⟩ | rfl <;> rfl
    · simp [bufferStart, Statement.definitions]
  have hend : blockDefinitions [bufferEnd] = [] := rfl
  rw [renderer_eq, Statement.definitions, List.append_assoc (preparations t ++ bufferStart),
    blockDefinitions_of_forall hbefore, h.blockDefinitions_append, hend, List.append_nil]

/-- A module defines the initializer, the render method, and what is defined in its body. -/
theorem blockDefinitions_moduleOf (path : String) (h : Emitted c own n us p.draft.finish) :
    ∃ first, blockDefinitions (moduleOf t path p) = first :: ⟨"render",
      [⟨"self", false, none, none⟩, ⟨"_children", false, none, some (.constant .none)⟩],
      preparations t ++ bufferStart ++ p.draft.finish ++ [bufferEnd], none⟩ ::
        blockDefinitions p.draft.finish ∧ first.name = "__init__" := by
  obtain ⟨first, hfirst, hname⟩ := definitions_initializer t (some (renderer t p.draft.finish))
  have hsurface : ∀ s ∈ surface t path, ∀ next, s.definitions next = [] := by
    simp [surface, assignName, Statement.definitions]
  have hclass : blockDefinitions [componentClass t path p.draft.finish] =
      (initializer t).definitions (some (renderer t p.draft.finish)) ++
        ((renderer t p.draft.finish).definitions none ++ []) := by
    rw [componentClass, blockDefinitions, Statement.definitions,
      blockDefinitions_of_forall hsurface]
    exact List.append_nil _
  refine ⟨first, ?_, hname⟩
  rw [moduleOf, blockDefinitions_of_forall (definitions_header t p.findings), hclass, hfirst,
    definitions_renderer h, List.append_nil, List.singleton_append]

/-! ## What a module gives as content -/

theorem blockGivenContents_of_forall {ss : List Statement} (h : ∀ s ∈ ss, givenContents s = []) :
    blockGivenContents ss = [] := by
  induction ss with
  | nil => rfl
  | cons s ss ih =>
    obtain ⟨hs, hss⟩ := List.forall_mem_cons.mp h
    rw [blockGivenContents, hs, ih hss, List.nil_append]

theorem blockGivenContents_moduleOf (t : Template) (path : String) (p : Progress) :
    blockGivenContents (moduleOf t path p) = blockGivenContents p.draft.finish := by
  have hheader : blockGivenContents (header t p.findings) = [] := by
    refine blockGivenContents_of_forall fun s hs => ?_
    rcases import_of_mem_header hs with ⟨m, rfl⟩ | ⟨m, names, rfl⟩ <;> rfl
  have hinitializer : givenContents (initializer t) = [] := by
    rw [initializer, givenContents]
    split
    · rfl
    · exact blockGivenContents_of_forall (List.forall_mem_map.mpr fun _ _ => rfl)
  have hprepare : blockGivenContents (preparations t) = [] := by
    refine blockGivenContents_of_forall fun s hs => ?_
    rcases mem_preparations hs with ⟨q, -, rfl⟩ | rfl <;> rfl
  have hrenderer : givenContents (renderer t p.draft.finish) =
      blockGivenContents p.draft.finish := by
    have hstart : blockGivenContents bufferStart = [] := rfl
    have hend : blockGivenContents [bufferEnd] = [] := rfl
    simp only [renderer_eq, givenContents, blockGivenContents_append, hprepare, hstart, hend,
      List.nil_append, List.append_nil]
  have hsurface : blockGivenContents (surface t path) = [] := rfl
  simp only [moduleOf, blockGivenContents_append, hheader, blockGivenContents, componentClass,
    givenContents, hsurface, hinitializer, hrenderer, List.nil_append, List.append_nil]

/-! ## Functions for content -/

/-- The tags of a template that stand for something and have content, in the order of the text. -/
def contentUses (c : Context) (t : Template) : List FilledUse := served c (bodyFilledUses t.body)

/-- The functions for content in a module that a template is compiled to. -/
structure ContentScope (c : Context) (own : String) (t : Template) (ss : List Statement) :
    Prop where
  names : (blockDefinitions ss).map (·.name) =
    "__init__" :: "render" :: (List.range' 1 (contentUses c t).length).map contentName
  distinct : ((blockDefinitions ss).map (·.name)).Nodup
  /-- Behind the two methods there is one function for each tag, in the order of the tags. -/
  served : List.Forall₂ (fun x d => Serves c own x.1 x.2 d) ((contentUses c t).zipIdx 1)
    ((blockDefinitions ss).drop 2)
  render : ∀ d ∈ blockDefinitions ss, d.name = "render" → Buffered d.body
  /-- Each of the functions is given to one component, and nothing else is. -/
  given : (blockGivenContents ss).Perm ((List.range' 1 (contentUses c t).length).map contentName)
  /-- There is no other mention of a function, unless the template makes one. -/
  mentioned : ∀ number ∈ List.range' 1 (contentUses c t).length, Unmentioned t number →
    (namesAmong (blockParts ss)).count (contentName number) = 1

theorem names_of_serves {xs : List (FilledUse × ℕ)} {ds : List FunctionSite}
    (h : List.Forall₂ (fun x d => Serves c own x.1 x.2 d) xs ds) :
    ds.map (·.name) = xs.map fun x => contentName x.2 := by
  induction h with
  | nil => rfl
  | cons hserves _ ih => rw [List.map_cons, hserves.name, ih, List.map_cons]

theorem nodup_names (k : ℕ) :
    ("__init__" :: "render" :: (List.range' 1 k).map contentName).Nodup := by
  have hother {s : String} (hs : "_children_".toList.isPrefixOf s.toList = false) :
      s ∉ (List.range' 1 k).map contentName := by
    intro hmem
    obtain ⟨number, -, hname⟩ := List.mem_map.mp hmem
    exact contentName_ne number hs hname
  have hcontents : ((List.range' 1 k).map contentName).Nodup :=
    List.Nodup.map (fun _ _ h => contentName_injective h) List.nodup_range'
  rw [List.nodup_cons, List.nodup_cons, List.mem_cons, not_or]
  exact ⟨⟨by decide, hother (by decide)⟩, hother (by decide), hcontents⟩

theorem contentScope_moduleOf {content path : String}
    (ht : Template.ofChars content.toList = .ok t)
    (hp : writeNodes c (componentName path) ⟨.empty, .empty⟩ t.body = .ok p) :
    ContentScope c (componentName path) t (moduleOf t path p) := by
  have hemitted : Emitted c (componentName path) 0 (contentUses c t) p.draft.finish :=
    (emits_writeNodes t.body (Template.slashEmpty_of_read ht) _ p hp).finish
  obtain ⟨first, hdefinitions, hname⟩ := blockDefinitions_moduleOf (t := t) path hemitted
  have hnames : (blockDefinitions (moduleOf t path p)).map (·.name) = "__init__" :: "render" ::
      (List.range' 1 (contentUses c t).length).map contentName := by
    rw [hdefinitions, List.map_cons, List.map_cons, hname, names_of_serves hemitted.serves,
      ← List.zipIdx_map_snd, List.map_map]
    rfl
  have hdistinct := nodup_names (contentUses c t).length
  have hgiven : (blockGivenContents (moduleOf t path p)).Perm
      ((List.range' 1 (contentUses c t).length).map contentName) := by
    rw [blockGivenContents_moduleOf]
    exact hemitted.given
  constructor
  case names => exact hnames
  case distinct => rwa [hnames]
  case served =>
    rw [hdefinitions]
    exact hemitted.serves
  case render =>
    -- The names are distinct, so that only the method itself has this name.
    intro d hd hrender
    rw [← hnames, hdefinitions, List.map_cons, List.map_cons, List.nodup_cons, List.nodup_cons]
      at hdistinct
    rw [hdefinitions] at hd
    rcases List.mem_cons.mp hd with rfl | hd
    · rw [hname] at hrender
      exact absurd hrender (by decide)
    · rcases List.mem_cons.mp hd with rfl | hd
      · exact buffered_renderer ht hemitted
      · exact absurd (List.mem_map.mpr ⟨d, hd, hrender⟩) hdistinct.2.1
  case given => exact hgiven
  case mentioned =>
    intro number hnumber hfree
    have hcontents := (List.nodup_cons.mp (List.nodup_cons.mp hdistinct).2).2
    rw [sparing_block (sparing_module ht hfree hp), hgiven.count_eq]
    exact List.count_eq_one_of_mem hcontents (List.mem_map.mpr ⟨number, hnumber, rfl⟩)

/-- The functions of a document are its two methods, and one for each tag that stands for something
and has content. The latter are numbered in the order of the tags. Right behind each of them, in the
same block, is the call that it is given to, and it is given to no other one; but for expressions of
the template, nothing else mentions it. Like the render method it makes a buffer of its own before
it appends anything, and returns at its end what is in it. -/
theorem contentScope_of_document {path content : String} {document : Document}
    (h : Document.generate c path content = .ok document) :
    ∃ t p, Template.ofChars content.toList = .ok t ∧
      writeNodes c (componentName path) ⟨.empty, .empty⟩ t.body = .ok p ∧
      document.code = Statement.text (moduleOf t path p) ∧
      ContentScope c (componentName path) t (moduleOf t path p) := by
  obtain ⟨t, ht, hcompile⟩ := generate_eq_ok h
  obtain ⟨p, hp, htext, -⟩ := compile_eq_ok hcompile
  obtain ⟨-, -, -, -, hcode⟩ := moduleText_eq_ok htext
  exact ⟨t, p, ht, hp, hcode, contentScope_moduleOf ht hp⟩

end Module

/-! ## A badge in a badge -/

def nestedText : String := "<widgets.Badge>a<widgets.Badge>b</widgets.Badge></widgets.Badge>"

def nestedPage : Template := ⟨[], [], [
  .element ⟨1, 0⟩ "widgets.Badge" [] [.data ⟨1, 15⟩ "a",
    .element ⟨1, 16⟩ "widgets.Badge" [] [.data ⟨1, 31⟩ "b"] .paired] .paired]⟩

theorem read_nestedPage : Template.ofChars nestedText.toList = .ok nestedPage := rfl

/-- The call of a badge with the content of this number. -/
def filledBadgeCall (number : ℕ) : Statement :=
  Draft.appending
    (renderCall (.attribute (.name "widgets") "Badge") [] (.name (contentName number)))

/-- What is written for the page, with the function for the inner badge in that for the outer one. -/
def nestedBody : List Statement := [
  contentFunction 1 [
    Draft.appending (.ofText "a"),
    contentFunction 2 [Draft.appending (.ofText "b")],
    filledBadgeCall 2],
  filledBadgeCall 1]

theorem writeNodes_nestedPage (own : String) :
    ∃ p, writeNodes widgetsContext own ⟨.empty, .empty⟩ nestedPage.body = .ok p ∧
      p.draft.finish = nestedBody ∧ p.findings.externals = ["widgets"] ∧
      p.findings.imports = ∅ := by
  have htag : Template.isComponentTag "widgets.Badge" = true := by decide
  have hbinding : binding? widgetsContext "widgets.Badge" = some badgeBinding := by
    rw [binding?, if_pos htag, resolve_badge]
  have hexternal : badgeBinding.isExternal = true := rfl
  simp only [nestedPage, writeNodes, writeNode, hbinding, targetOf, hexternal, if_true, read_badge,
    Findings.use_eq]
  exact ⟨_, rfl, rfl, rfl, rfl⟩

def nestedModule : List Statement :=
  fixedImports ++ [.importModule "widgets"] ++ [componentClass nestedPage "Page.tpl" nestedBody]

theorem exists_nestedDocument :
    ∃ document, Document.generate widgetsContext "Page.tpl" nestedText = .ok document := by
  obtain ⟨p, hp, hdraft, hexternals, himports⟩ := writeNodes_nestedPage (componentName "Page.tpl")
  have hheader : header nestedPage p.findings = fixedImports ++ [.importModule "widgets"] := by
    have hentries : p.findings.imports.entries = [] := by rw [himports]; rfl
    simp [header, usedModules, nestedPage, hexternals, hentries, Module.sortNames, sortImports]
  have htext : moduleText "Page.tpl" nestedModule = .ok (Statement.text nestedModule) :=
    moduleText_of_unrefusable (by decide +kernel) (by decide +kernel) (by decide +kernel)
  rw [nestedModule, ← hheader, ← hdraft] at htext
  rw [Document.generate, read_nestedPage]
  simp only [compile, hp, htext]
  exact ⟨_, rfl⟩

theorem length_contentUses_nestedPage : (contentUses widgetsContext nestedPage).length = 2 := by
  have htag : Template.isComponentTag "widgets.Badge" = true := by decide
  simp [contentUses, served, nestedPage, bodyFilledUses, Template.Node.filledUses, htag,
    resolve_badge]

/-- The document of the page has the two functions, of which the inner one is given first. -/
theorem contentScope_of_document_nested : ∃ document p,
    Document.generate widgetsContext "Page.tpl" nestedText = .ok document ∧
      document.code = Statement.text (moduleOf nestedPage "Page.tpl" p) ∧
      ContentScope widgetsContext "Page" nestedPage (moduleOf nestedPage "Page.tpl" p) ∧
      (blockDefinitions (moduleOf nestedPage "Page.tpl" p)).map (·.name) =
        ["__init__", "render", "_children_1", "_children_2"] ∧
      blockGivenContents (moduleOf nestedPage "Page.tpl" p) = ["_children_2", "_children_1"] := by
  obtain ⟨document, hdocument⟩ := exists_nestedDocument
  obtain ⟨t, p, ht, hp, hcode, hscope⟩ := contentScope_of_document hdocument
  rw [read_nestedPage, Except.ok.injEq] at ht
  subst ht
  have hname : componentName "Page.tpl" = "Page" := by decide +kernel
  have hnames := hscope.names
  rw [length_contentUses_nestedPage] at hnames
  refine ⟨document, p, hdocument, hcode, hname ▸ hscope, hnames.trans (by decide +kernel), ?_⟩
  obtain ⟨q, hq, hdraft, -⟩ := writeNodes_nestedPage (componentName "Page.tpl")
  obtain rfl : q = p := Except.ok.inj (hq.symm.trans hp)
  rw [blockGivenContents_moduleOf, hdraft]
  decide +kernel

end Component

end LivePreview
