import LivePreview.Proofs.Hygiene
import LivePreview.Proofs.Objections
import LivePreview.Proofs.Refusals

/-!
# How the generation of a document ends

A template that can be read is compiled unless a refusal of the target language stops it that no one
words. What the compiler adds of its own is never refused, so each refusal has its reason in the
template: in an expression, which is read but cannot be written, or in a tag that is bound to
something, whose name is no expression or that of a constant. What a host cannot do with expressions
that are nested too deeply is left out.
-/

namespace LivePreview

namespace Code

open LivePreview.Text (isKeyword normalForm)

/-- A reserved word stands in the name where no expression has it. A constant may come first. -/
def Barred (name : String) : Prop :=
  ∃ s names, Module.dottedParts name = s :: names ∧
    ((∃ n ∈ names, isKeyword n = true) ∨ isKeyword s = true ∧ s ∉ constantNames)

theorem wordAtom?_eq_none_iff {s : String} :
    wordAtom? s = none ↔ isKeyword s = true ∧ s ∉ constantNames := by
  unfold wordAtom?
  cases hkeyword : isKeyword s with
  | false => simp
  | true =>
    by_cases hnone : s = "None"
    · simp [hnone, constantNames]
    · by_cases htrue : s = "True"
      · simp [htrue, constantNames]
      · by_cases hfalse : s = "False"
        · simp [hfalse, constantNames]
        · simp [hnone, htrue, hfalse, constantNames]

theorem wordAtom?_eq_some {s : String} {e : Expr} (h : wordAtom? s = some e) :
    (∃ k, (Expr.constant k).refusable = false ∧ e = .constant k) ∨ e = .name (normalForm s) := by
  unfold wordAtom? at h
  split at h
  · refine .inl ?_
    split at h
    · cases h
      exact ⟨.none, rfl, rfl⟩
    · split at h
      · cases h
        exact ⟨.true, rfl, rfl⟩
      · split at h
        · cases h
          exact ⟨.false, rfl, rfl⟩
        · cases h
  · cases h
    exact .inr rfl

theorem dotted?_dottedParts_eq_none_iff {name : String} :
    dotted? (Module.dottedParts name) = none ↔ Barred name := by
  obtain ⟨s, names, hparts⟩ := List.exists_cons_of_ne_nil (Module.dottedParts_ne_nil name)
  have hbarred : Barred name ↔
      (∃ n ∈ names, isKeyword n = true) ∨ isKeyword s = true ∧ s ∉ constantNames := by
    constructor
    · rintro ⟨s', names', hparts', h⟩
      obtain ⟨rfl, rfl⟩ := List.cons.inj (hparts.symm.trans hparts')
      exact h
    · exact fun h => ⟨s, names, hparts, h⟩
  rw [hparts, hbarred, dotted?]
  split
  · next hnames => exact iff_of_true rfl (.inl (List.any_eq_true.mp hnames))
  · next hnames =>
    rw [Option.map_eq_none_iff, wordAtom?_eq_none_iff]
    exact (or_iff_right fun h => hnames (List.any_eq_true.mpr h)).symm

theorem accounted_attributes {Q : HostFault → Prop} {e : Expr} (h : Accounted Q e.parts)
    (names : List String) : Accounted Q (attributes e names).parts := by
  induction names generalizing e with
  | nil => exact h
  | cons s names ih => exact ih (accounted_attribute h (normalForm s))

end Code

namespace Template

mutual

/-- The expressions that a tag is given are expressions of the node it stands in. -/
theorem Node.mem_expressions_of_use (n : Node) {u : Use} (hu : u ∈ n.uses) {e : Expression}
    (he : e ∈ u.attributes.flatMap Attribute.expressions) : e ∈ n.expressions := by
  cases n with
  | data place text => exact absurd hu List.not_mem_nil
  | output place value => exact absurd hu List.not_mem_nil
  | element place name attributes body closing =>
    rw [Node.uses] at hu
    rw [Node.expressions, List.mem_append]
    rcases List.mem_append.mp hu with hu | hu
    · split at hu
      · cases List.mem_singleton.mp hu
        exact .inl he
      · exact absurd hu List.not_mem_nil
    · exact .inr (mem_bodyExpressions_of_use body hu he)

theorem mem_bodyExpressions_of_use (ns : List Node) {u : Use} (hu : u ∈ bodyUses ns)
    {e : Expression} (he : e ∈ u.attributes.flatMap Attribute.expressions) :
    e ∈ bodyExpressions ns := by
  cases ns with
  | nil => exact absurd hu List.not_mem_nil
  | cons n ns =>
    rw [bodyUses] at hu
    rw [bodyExpressions, List.mem_append]
    exact (List.mem_append.mp hu).imp (n.mem_expressions_of_use · he)
      (mem_bodyExpressions_of_use ns · he)

end

end Template

namespace Component

open LivePreview.Code (Accounted Barred Expr Parameter Refused Refuses Statement
  accounted_append accounted_attribute accounted_cons accounted_constant accounted_flatMap
  accounted_name accounted_name_of accounted_nil accounted_tuple accounted_of_unrefusable blockParts
  blockParts_eq_flatMap checkModule constantNames keywordParts listParts_eq_flatMap mappingParts
  optionParts)
open LivePreview.Template (TagName Use bodyExpressions)

/-- How a refusal that no one words has come out of the generation of a document. -/
inductive Escapes (c : Context) (path content : String) : HostFault → Prop
  | nullInPath (h : '\x00' ∈ path.toList) : Escapes c path content .nullInPath
  | nullInExpression (h : '\x00' ∈ content.toList) : Escapes c path content .nullInCode
  /-- A tag is bound to a component of a module, and its name is no expression. -/
  | barred {t : Template} {u : Use} {b : Binding}
      (ht : Template.ofChars content.toList = .ok t) (hu : u ∈ t.uses)
      (hresolve : c.resolve u.name = some b) (hexternal : b.isExternal = true)
      (h : Barred u.name) : Escapes c path content .unreadableCode
  /-- A tag is bound to something, and is called by a name that is spelled as a constant. -/
  | constantTag {t : Template} {u : Use} {b : Binding} {target : Expr} {name : String}
      (ht : Template.ofChars content.toList = .ok t) (hu : u ∈ t.uses)
      (hresolve : c.resolve u.name = some b) (htarget : targetOf u.name b = .ok target)
      (hroot : target.rootName? = some name) (h : name ∈ constantNames) :
      Escapes c path content (.constantAsName name)
  /-- An expression is read, and has a part that cannot be written. -/
  | expression {t : Template} {e : Template.Expression} {part : Expr} {fault : HostFault}
      (ht : Template.ofChars content.toList = .ok t) (he : e ∈ t.expressions)
      (hpart : part ∈ e.tree.parts) (h : Refuses part fault) : Escapes c path content fault

/-! ## What the compiler adds -/

section Fixed

variable {Q : HostFault → Prop}

/-- All that is refused in a statement has a reason. -/
abbrev Explained (Q : HostFault → Prop) (s : Statement) : Prop := Accounted Q s.parts

theorem accounted_block {ss : List Statement} :
    Accounted Q (blockParts ss) ↔ ∀ s ∈ ss, Explained Q s := by
  rw [blockParts_eq_flatMap, accounted_flatMap]

theorem explained_of_all {ss : List Statement}
    (h : ((blockParts ss).all fun e => !e.refusable) = true) : ∀ s ∈ ss, Explained Q s := by
  refine accounted_block.mp (accounted_of_unrefusable fun e he => ?_)
  simpa using List.all_eq_true.mp h e he

theorem explained_bufferStart : ∀ s ∈ bufferStart, Explained Q s :=
  explained_of_all (by decide +kernel)

theorem explained_bufferEnd : ∀ s ∈ [bufferEnd], Explained Q s :=
  explained_of_all (by decide +kernel)

theorem explained_contentBinding : ∀ s ∈ [contentBinding], Explained Q s :=
  explained_of_all (by decide +kernel)

theorem explained_header (t : Template) (f : Findings) : ∀ s ∈ header t f, Explained Q s := by
  intro s hs
  have himport : s.parts = [] := by
    rcases import_of_mem_header hs with ⟨m, rfl⟩ | ⟨m, names, rfl⟩ <;> rw [Statement.parts]
  rw [Explained, himport]
  exact accounted_nil

theorem accounted_optionalText (s : Option String) : Accounted Q (optionalText s).parts := by
  cases s with
  | none => exact accounted_constant rfl
  | some s => exact accounted_constant rfl

theorem accounted_callOf {function : String} (hfunction : function ∉ constantNames)
    {args : List Expr} (h : ∀ e ∈ args, Accounted Q e.parts) :
    Accounted Q (Draft.callOf function args).parts := by
  rw [Draft.callOf, Expr.parts, accounted_cons rfl, accounted_append, accounted_append,
    listParts_eq_flatMap, accounted_flatMap, keywordParts]
  exact ⟨⟨accounted_name hfunction, h⟩, accounted_nil⟩

theorem accounted_arguments {as : List Template.Attribute}
    (h : ∀ a ∈ as, Accounted Q (attributeArgument a).parts) :
    Accounted Q (mappingParts (as.map fun a => .pair (.ofText a.name) (attributeArgument a))) := by
  induction as with
  | nil =>
    rw [List.map_nil, mappingParts]
    exact accounted_nil
  | cons a as ih =>
    obtain ⟨ha, has⟩ := List.forall_mem_cons.mp h
    rw [List.map_cons, mappingParts, accounted_append, accounted_append]
    exact ⟨⟨accounted_constant rfl, ha⟩, ih has⟩

theorem explained_appending {e : Expr} (h : Accounted Q e.parts) :
    Explained Q (Draft.appending e) := by
  rw [Explained, Draft.appending, Statement.parts]
  exact accounted_callOf (by decide) (List.forall_mem_singleton.mpr h)

theorem explained_assign {target value : Expr} (htarget : Accounted Q target.parts)
    (hvalue : Accounted Q value.parts) : Explained Q (.assign target value) := by
  rw [Explained, Statement.parts, accounted_append]
  exact ⟨htarget, hvalue⟩

theorem explained_surface (t : Template) (path : String) : ∀ s ∈ surface t path, Explained Q s := by
  have hparam (p : Template.Param) :
      Accounted Q (Expr.tuple [.ofText p.name, optionalText (p.hint.map (·.source))]).parts :=
    accounted_tuple (List.forall_mem_cons.mpr ⟨accounted_constant rfl,
      List.forall_mem_singleton.mpr (accounted_optionalText _)⟩)
  have hline {name : String} (hname : name ∉ constantNames) {value : Expr}
      (hvalue : Accounted Q value.parts) : Explained Q (assignName name value) :=
    explained_assign (accounted_name hname) hvalue
  simp only [surface, List.forall_mem_cons]
  refine ⟨hline (by decide) (accounted_constant rfl), hline (by decide) (accounted_constant rfl),
    hline (by decide) (accounted_tuple ?_), hline (by decide) (accounted_tuple ?_),
    fun s hs => absurd hs List.not_mem_nil⟩
  · exact List.forall_mem_map.mpr fun p _ => hparam p
  · exact List.forall_mem_map.mpr fun p _ => accounted_constant rfl

end Fixed

/-! ## What the template gives -/

section Given

variable {c : Context} {path content : String} {t : Template}

theorem accounted_expression (ht : Template.ofChars content.toList = .ok t)
    {e : Template.Expression} (he : e ∈ t.expressions) :
    Accounted (Escapes c path content) e.tree.parts :=
  fun _ hpart _ hrefuses => .expression ht he hpart hrefuses

theorem mem_expressions_of_body {e : Template.Expression} (he : e ∈ bodyExpressions t.body) :
    e ∈ t.expressions := List.mem_append_right _ he

theorem mem_expressions_of_param {q : Template.Param} (hq : q ∈ t.params)
    {e : Template.Expression} (he : q.hint = some e ∨ q.default = some e) : e ∈ t.expressions := by
  refine List.mem_append_left _ (List.mem_flatMap.mpr ⟨q, hq, ?_⟩)
  rw [Template.Param.expressions, List.mem_append, Option.mem_toList, Option.mem_toList]
  exact he

theorem not_constant_of_usable {name : String} (h : Template.isUnusableParam name = false) :
    name ∉ constantNames := by
  intro hconstant
  have hkeywords : ∀ name ∈ constantNames, Text.isKeyword name = true := by decide +kernel
  rw [Template.isUnusableParam, hkeywords name hconstant] at h
  cases h

theorem accounted_param (ht : Template.ofChars content.toList = .ok t) {q : Template.Param}
    (hq : q ∈ t.params) : Accounted (Escapes c path content)
      (Parameter.parts ⟨q.name, true, q.hint.map (·.tree), q.default.map (·.tree)⟩) := by
  have hoption {e : Option Template.Expression} (he : ∀ x, e = some x → x ∈ t.expressions) :
      Accounted (Escapes c path content) (optionParts (e.map (·.tree))) := by
    cases e with
    | none =>
      rw [Option.map_none, optionParts]
      exact accounted_nil
    | some e =>
      rw [Option.map_some, optionParts]
      exact accounted_expression ht (he e rfl)
  rw [Parameter.parts, accounted_append]
  exact ⟨hoption fun e he => mem_expressions_of_param hq (.inl he),
    hoption fun e he => mem_expressions_of_param hq (.inr he)⟩

theorem explained_initializer (ht : Template.ofChars content.toList = .ok t) :
    Explained (Escapes c path content) (initializer t) := by
  have hstore (q : Template.Param) (hq : q ∈ t.params) : Explained (Escapes c path content)
      (.assign (.attribute selfName q.name) (.name q.name)) := by
    have hname := not_constant_of_usable ((Template.wellNamed_of_read ht).1 q hq)
    exact explained_assign (accounted_attribute (accounted_name (by decide)) q.name)
      (accounted_name hname)
  rw [Explained, initializer, Statement.parts, accounted_append, List.flatMap_cons,
    accounted_append, accounted_flatMap, List.forall_mem_map]
  refine ⟨⟨?_, fun q hq => accounted_param ht hq⟩, accounted_block.mpr ?_⟩
  · simp [Parameter.parts, optionParts]
  · split
    · exact explained_of_all (by decide +kernel)
    · exact List.forall_mem_map.mpr hstore

theorem explained_renderer (ht : Template.ofChars content.toList = .ok t)
    {body : List Statement} (hbody : ∀ s ∈ body, Explained (Escapes c path content) s) :
    Explained (Escapes c path content) (renderer t body) := by
  have hload (q : Template.Param) (hq : q ∈ t.params) : Explained (Escapes c path content)
      (.assign (.name q.name) (.attribute selfName q.name)) := by
    have hname := not_constant_of_usable ((Template.wellNamed_of_read ht).1 q hq)
    exact explained_assign (accounted_name hname)
      (accounted_attribute (accounted_name (by decide)) q.name)
  rw [Explained, renderer, Statement.parts, accounted_append, accounted_block]
  refine ⟨?_, ?_⟩
  · simpa [Parameter.parts, optionParts] using accounted_constant rfl
  · simp only [List.forall_mem_append]
    refine ⟨⟨⟨⟨List.forall_mem_map.mpr hload, ?_⟩, explained_bufferStart⟩, hbody⟩,
      explained_bufferEnd⟩
    split
    · exact fun s hs => absurd hs List.not_mem_nil
    · exact explained_contentBinding

theorem accounted_target (ht : Template.ofChars content.toList = .ok t) {u : Use}
    (hu : u ∈ t.uses) {b : Binding} {target : Expr} (hresolve : c.resolve u.name = some b)
    (htarget : targetOf u.name b = .ok target) :
    Accounted (Escapes c path content) target.parts := by
  have hname : TagName u.name := (Template.wellNamed_of_read ht).2 u hu
  have hroot (name : String) (hroot : target.rootName? = some name) :
      Accounted (Escapes c path content) (Expr.name name).parts :=
    accounted_name_of fun hconstant => .constantTag ht hu hresolve htarget hroot hconstant
  cases hexternal : b.isExternal with
  | true =>
    obtain ⟨s, names, hparts, -⟩ := exists_dottedParts u.name
    rw [targetOf, if_pos hexternal] at htarget
    have hspelled := Code.read_dotted_eq_ok hname.segments htarget
    rw [hparts] at hspelled
    obtain ⟨-, root, hatom, rfl⟩ := Code.dotted?_eq_some hspelled
    rw [Code.rootName?_attributes] at hroot
    refine Code.accounted_attributes ?_ names
    rcases Code.wordAtom?_eq_some hatom with ⟨k, hk, rfl⟩ | rfl
    · exact accounted_constant hk
    · exact hroot _ rfl
  | false =>
    rw [targetOf, hexternal] at htarget
    cases htarget
    exact hroot _ rfl

/-- A tag has no target only where its name is no expression. -/
theorem barred_of_targetOf {name : String} {b : Binding} {fault : HostFault} (hname : TagName name)
    (h : targetOf name b = .error fault) :
    b.isExternal = true ∧ Barred name ∧ fault = .unreadableCode := by
  unfold targetOf at h
  split at h
  · next hexternal =>
    rw [Code.read_dotted hname.segments] at h
    split at h
    · cases h
    · next hspelled =>
      cases h
      exact ⟨hexternal, Code.dotted?_dottedParts_eq_none_iff.mp hspelled, rfl⟩
  · cases h

theorem accounted_attributeArgument (ht : Template.ofChars content.toList = .ok t) {u : Use}
    (hu : u ∈ t.uses) {a : Template.Attribute} (ha : a ∈ u.attributes) :
    Accounted (Escapes c path content) (attributeArgument a).parts := by
  unfold attributeArgument
  split
  · exact accounted_constant rfl
  · exact accounted_constant rfl
  · next e he =>
    have hgiven : e ∈ u.attributes.flatMap Template.Attribute.expressions := by
      refine List.mem_flatMap.mpr ⟨a, ha, ?_⟩
      rw [Template.Attribute.expressions, he]
      exact List.mem_singleton_self e
    exact accounted_expression ht
      (mem_expressions_of_body (Template.mem_bodyExpressions_of_use t.body hu hgiven))

theorem contentName_not_constant (number : Nat) : contentName number ∉ constantNames := by
  intro hconstant
  have hheads : ∀ name ∈ constantNames, name.toList.head? ≠ some '_' := by decide
  exact hheads _ hconstant (head?_contentName number)

/-- What is written for the body of a template that was read is refused for a reason. -/
theorem written_explained (ht : Template.ofChars content.toList = .ok t) :
    Written c (Explained (Escapes c path content)) t.uses (bodyExpressions t.body) where
  text s := explained_appending (accounted_constant rfl)
  escaped e he := by
    refine explained_appending (accounted_callOf (by decide) (List.forall_mem_singleton.mpr ?_))
    exact accounted_expression ht (mem_expressions_of_body he)
  call u hu b target hresolve htarget given hgiven := by
    refine explained_appending (accounted_callOf (by decide) ?_)
    simp only [List.forall_mem_cons]
    refine ⟨accounted_target ht hu hresolve htarget, ?_, ?_, fun e he => absurd he List.not_mem_nil⟩
    · rw [Expr.parts, accounted_cons rfl]
      exact accounted_arguments fun a ha => accounted_attributeArgument ht hu ha
    · rcases hgiven with rfl | ⟨number, rfl⟩
      · exact accounted_constant rfl
      · exact accounted_name (contentName_not_constant number)
  content number ss hss := by
    rw [Explained, Statement.parts, accounted_append, accounted_block, List.flatMap_nil]
    refine ⟨accounted_nil, ?_⟩
    simp only [List.forall_mem_append]
    exact ⟨⟨explained_bufferStart, hss⟩, explained_bufferEnd⟩

/-- Every refusal of a part of a module has its reason in the template. -/
theorem explained_module (ht : Template.ofChars content.toList = .ok t) {own : String}
    {p : Progress} (hp : writeNodes c own ⟨.empty, .empty⟩ t.body = .ok p) :
    ∀ s ∈ moduleOf t path p, Explained (Escapes c path content) s := by
  have hbody : ∀ s ∈ p.draft.finish, Explained (Escapes c path content) s :=
    written_body (written_explained ht) hp
  rw [moduleOf, List.forall_mem_append, List.forall_mem_singleton]
  refine ⟨explained_header t p.findings, ?_⟩
  rw [Explained, componentClass, Statement.parts, accounted_block, List.forall_mem_append,
    List.forall_mem_cons, List.forall_mem_singleton]
  exact ⟨explained_surface t path, explained_initializer ht, explained_renderer ht hbody⟩

end Given

/-! ## Outcomes -/

/-- What the generation of a document can come to, with what it comes from. -/
inductive Document.Outcome (c : Context) (path content : String) : Except Failure Document → Prop
  /-- The module of the template passes the checks, and its text is that of the document. -/
  | document {t : Template} {p : Progress} {document : Document}
      (ht : Template.ofChars content.toList = .ok t)
      (hp : writeNodes c (componentName path) ⟨.empty, .empty⟩ t.body = .ok p)
      (hchecked : checkModule (moduleOf t path p) = .ok ()) (hpath : document.path = path)
      (hcode : document.code = Statement.text (moduleOf t path p)) :
      Document.Outcome c path content (.ok document)
  /-- The text is no template. -/
  | noTemplate {place : Template.Position} {what : Template.Problem}
      (h : Template.ofChars content.toList = .error (.problem place what)) :
      Document.Outcome c path content (.error (.generation path what.message))
  /-- The module of the template does not pass the checks. -/
  | noModule {t : Template} {p : Progress} {fault : Code.ScopeFault}
      (ht : Template.ofChars content.toList = .ok t)
      (hp : writeNodes c (componentName path) ⟨.empty, .empty⟩ t.body = .ok p)
      (hchecked : checkModule (moduleOf t path p) = .error fault) :
      Document.Outcome c path content (.error (.generation path fault.message))
  | refusal {fault : HostFault} (h : Escapes c path content fault) :
      Document.Outcome c path content (.error (.host fault))

theorem moduleText_eq_error {path : String} {ss : List Statement} {failure : Failure}
    (h : moduleText path ss = .error failure) :
    (∃ fault, checkModule ss = .error fault ∧ failure = .generation path fault.message) ∨
      ∃ fault, failure = .host fault ∧
        (fault = .nullInPath ∧ '\x00' ∈ path.toList ∨ Refused (blockParts ss) fault) := by
  unfold moduleText at h
  split at h
  · next hnull =>
    cases h
    exact .inr ⟨_, rfl, .inl ⟨rfl, List.contains_iff_mem.mp hnull⟩⟩
  · split at h
    · next name hconstant =>
      cases h
      exact .inr ⟨_, rfl, .inr (refused_of_blockConstantName ss hconstant)⟩
    · split at h
      · next fault hchecked =>
        cases h
        exact .inl ⟨fault, hchecked, rfl⟩
      · split at h
        · next fault hunwritable =>
          cases h
          exact .inr ⟨_, rfl, .inr (refused_of_blockUnwritable ss hunwritable)⟩
        · cases h

section Outcomes

variable {c : Context} {path content : String} {t : Template}

theorem outcome_error (ht : Template.ofChars content.toList = .ok t) {failure : Failure}
    (h : compile c t path = .error failure) : Document.Outcome c path content (.error failure) := by
  unfold compile at h
  split at h
  · next fault hfault =>
    cases h
    obtain ⟨u, hu, b, hresolve, htarget⟩ := target_writeNodes_error t.body _ hfault
    obtain ⟨hexternal, hbarred, rfl⟩ :=
      barred_of_targetOf ((Template.wellNamed_of_read ht).2 u hu) htarget
    exact .refusal (.barred ht hu hresolve hexternal hbarred)
  · next p hp =>
    rcases bind_eq_error_iff.mp h with h | ⟨code, -, h⟩
    · rcases moduleText_eq_error h with ⟨fault, hchecked, rfl⟩ | ⟨fault, rfl, hfault⟩
      · exact .noModule ht hp hchecked
      · rcases hfault with ⟨rfl, hnull⟩ | hrefused
        · exact .refusal (.nullInPath hnull)
        · exact .refusal ((accounted_block.mpr (explained_module ht hp)).reason hrefused)
    · cases h

theorem outcome_compile (ht : Template.ofChars content.toList = .ok t) :
    Document.Outcome c path content (compile c t path) := by
  cases hcompile : compile c t path with
  | ok document =>
    obtain ⟨p, hp, htext, hfields⟩ := compile_eq_ok hcompile
    obtain ⟨-, -, hchecked, -, hcode⟩ := moduleText_eq_ok htext
    exact .document ht hp hchecked (by rw [hfields]) hcode
  | error failure => exact outcome_error ht hcompile

theorem outcome_generate : Document.Outcome c path content (Document.generate c path content) := by
  unfold Document.generate
  split
  · next t ht => exact outcome_compile ht
  · next o ho =>
    cases o with
    | problem place what => exact .noTemplate ho
    | nullInExpression => exact .refusal (.nullInExpression (Template.null_mem_of_ofChars ho))

/-- A tag whose name is no expression stops the generation. -/
theorem generate_of_barred (ht : Template.ofChars content.toList = .ok t) {u : Use}
    (hu : u ∈ t.uses) {b : Binding} (hresolve : c.resolve u.name = some b)
    (hexternal : b.isExternal = true)
    (hbarred : Barred u.name) :
    Document.generate c path content = .error (.host .unreadableCode) := by
  have hname (u : Use) (hu : u ∈ t.uses) : TagName u.name := (Template.wellNamed_of_read ht).2 u hu
  have hread := Code.read_dotted (hname u hu).segments
  rw [Code.dotted?_dottedParts_eq_none_iff.mpr hbarred] at hread
  rw [Document.generate, ht]
  simp only [compile]
  cases hp : writeNodes c (componentName path) ⟨.empty, .empty⟩ t.body with
  | ok p =>
    obtain ⟨target, htarget⟩ :=
      targets_writeNodes t.body (Template.slashEmpty_of_read ht) _ p hp u hu b hresolve
    rw [targetOf, if_pos hexternal, hread] at htarget
    cases htarget
  | error fault =>
    -- Another tag may be the first without a target, but the refusal is the same.
    obtain ⟨v, hv, other, -, htarget⟩ := target_writeNodes_error t.body _ hp
    obtain ⟨-, -, rfl⟩ := barred_of_targetOf (hname v hv) htarget
    rfl

end Outcomes

/-- The generation of a document gives the document, or fails for the path where the text is no
template or the module does not pass the checks, or lets out a refusal that has its reason in a null
character, in a tag or in an expression. It refuses a text as no expression exactly where a tag of the
template is bound to a component of a module and has a reserved word in its name. There is no other
outcome, as long as expressions are nested no deeper than the host reads and writes them. -/
theorem generate_outcomes (c : Context) (path content : String) :
    Document.Outcome c path content (Document.generate c path content) ∧
    (Document.generate c path content = .error (.host .unreadableCode) ↔
      ∃ t, Template.ofChars content.toList = .ok t ∧ ∃ u ∈ t.uses, ∃ b,
        c.resolve u.name = some b ∧ b.isExternal = true ∧ Barred u.name) := by
  have houtcome : Document.Outcome c path content (Document.generate c path content) :=
    outcome_generate
  refine ⟨houtcome, fun h => ?_, ?_⟩
  · rw [h] at houtcome
    cases houtcome with
    | refusal hescapes =>
      cases hescapes with
      | barred ht hu hresolve hexternal hbarred =>
        exact ⟨_, ht, _, hu, _, hresolve, hexternal, hbarred⟩
      | expression ht he hpart hrefuses => cases hrefuses
  · rintro ⟨t, ht, u, hu, b, hresolve, hexternal, hbarred⟩
    exact generate_of_barred ht hu hresolve hexternal hbarred

/-! ## A tag with a reserved word -/

def osContext : Context := .new [⟨"os", none, [], false⟩] "declarations"

theorem resolve_osNone : ∃ b, osContext.resolve "os.None" = some b ∧ b.isExternal = true := by
  have hmodule : Context.modulePart? "os.None" = some "os" := by decide +kernel
  rw [Context.resolve, hmodule]
  simp [osContext, Context.hasModule, Context.new, Module.sortByName, Binding.isExternal]

theorem barred_osNone : Barred "os.None" :=
  ⟨"os", ["None"], by decide +kernel, .inl ⟨"None", by decide +kernel⟩⟩

theorem exists_osNone : ∃ t, Template.ofChars "<os.None />".toList = .ok t ∧
    ∃ u ∈ t.uses, u.name = "os.None" := by
  have hread : (Template.ofChars "<os.None />".toList).toOption.any
      (fun t => t.uses.any fun u => u.name = "os.None") = true := by
    decide +kernel
  cases ht : Template.ofChars "<os.None />".toList with
  | error objection =>
    rw [ht] at hread
    cases hread
  | ok t =>
    rw [ht] at hread
    obtain ⟨u, hu, hname⟩ := List.any_eq_true.mp hread
    exact ⟨t, rfl, u, hu, of_decide_eq_true hname⟩

/-- The generation of a document may fail with a refusal that names no path. -/
theorem generate_not_generation_only :
    ¬ ∀ (c : Context) (path content : String), '\x00' ∉ path.toList → '\x00' ∉ content.toList →
      (∃ document, Document.generate c path content = .ok document) ∨
        ∃ reason, Document.generate c path content = .error (.generation path reason) := by
  intro hclaim
  obtain ⟨t, ht, u, hu, hname⟩ := exists_osNone
  obtain ⟨b, hresolve, hexternal⟩ := resolve_osNone
  have hgenerate : Document.generate osContext "Page.tpl" "<os.None />" =
      .error (.host .unreadableCode) :=
    generate_of_barred ht hu (hname ▸ hresolve) hexternal (hname ▸ barred_osNone)
  rcases hclaim osContext "Page.tpl" "<os.None />" (by decide) (by decide) with
    ⟨document, h⟩ | ⟨reason, h⟩
  · rw [hgenerate] at h
    cases h
  · rw [hgenerate] at h
    cases h

end Component

end LivePreview
