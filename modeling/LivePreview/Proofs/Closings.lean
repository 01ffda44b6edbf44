import LivePreview.Proofs.Attributes
import LivePreview.Proofs.Diagnostics
import LivePreview.Proofs.Document
import LivePreview.Proofs.Walk

/-!
# Tags in generated text

The static text of a document is what its statements append as constants, with a gap for every other
value. It is the source without its directives, with a gap for every output, expression and resolved
component, and with every other tag as it was written. A closing tag of the source is left out for
one kind of element only: an unresolved component without content that has the name of an element
which never has any.
-/

namespace LivePreview

open LivePreview.Code (Expr Statement)

/-! ## Static text of statements -/

namespace Code

/-- What a value is in the output: a constant text, or a gap. -/
def Expr.static : Expr → List (Option Nat)
  | .constant (.text points _) => points.map some
  | _ => [none]

mutual

/-- What a statement appends to the output, functions and classes with all that is in them. -/
def Statement.static : Statement → List (Option Nat)
  | .expression (.call (.name function) [value] []) =>
    if function = "_append" then value.static else []
  | .function _ _ body | .classDef _ _ _ body => blockStatic body
  | _ => []

def blockStatic : List Statement → List (Option Nat)
  | [] => []
  | s :: ss => s.static ++ blockStatic ss

end

theorem blockStatic_append (ss others : List Statement) :
    blockStatic (ss ++ others) = blockStatic ss ++ blockStatic others := by
  induction ss with
  | nil => rfl
  | cons s ss ih => rw [List.cons_append, blockStatic, blockStatic, ih, List.append_assoc]

theorem blockStatic_eq_nil {ss : List Statement} (h : ∀ s ∈ ss, s.static = []) :
    blockStatic ss = [] := by
  induction ss with
  | nil => rfl
  | cons s ss ih =>
    obtain ⟨hs, hss⟩ := List.forall_mem_cons.mp h
    rw [blockStatic, hs, ih hss]
    rfl

end Code

open LivePreview.Code (blockStatic blockStatic_append blockStatic_eq_nil)

namespace Template

/-! ## Elements as their tags tell -/

mutual

/-- Every element in the node is closed as its tag tells, and only one with a closing tag has
content. -/
def Node.Told : Node → Prop
  | .data _ _ | .output _ _ => True
  | .element _ name _ body closing =>
    tagClosing name (closing = .slash) = closing ∧ (closing ≠ .paired → body = []) ∧ BodyTold body

def BodyTold : List Node → Prop
  | [] => True
  | n :: ns => n.Told ∧ BodyTold ns

end

theorem bodyTold_iff {ns : List Node} : BodyTold ns ↔ ∀ n ∈ ns, n.Told := by
  induction ns with
  | nil => simp [BodyTold]
  | cons n ns ih => rw [BodyTold, ih, List.forall_mem_cons]

theorem builds_told : Builds Node.Told where
  data _ _ := trivial
  output _ _ := trivial
  single _ _ _ _ _ htag := ⟨htag, fun _ => rfl, trivial⟩
  paired _ _ _ _ htag hbody := ⟨htag, fun h => absurd rfl h, bodyTold_iff.mpr hbody⟩

theorem bodyTold_of_read {cs : List Char} {t : Template} (h : ofChars cs = .ok t) :
    BodyTold t.body := bodyTold_iff.mpr (forall_nodes_of_read builds_told h)

theorem tagClosing_of_isComponentTag {name : String} (h : isComponentTag name = true)
    (slash : Bool) : tagClosing name slash = if slash then .slash else .paired := by
  simp [tagClosing, h]

theorem isVoidTag_of_tagClosing {name : String} {slash : Bool}
    (h : tagClosing name slash = .void) : isVoidTag name = true := by
  unfold tagClosing at h
  split at h
  · cases h
  · split at h
    · next hvoid => exact (Bool.and_eq_true_iff.mp hvoid).2
    · cases h

theorem isComponentTag_of_tagClosing {name : String} {slash : Bool}
    (h : tagClosing name slash = .paired) (hvoid : isVoidTag name = true) :
    isComponentTag name = true := by
  unfold tagClosing at h
  split at h
  · cases h
  · split at h
    · cases h
    · next hplain => simpa [hvoid] using hplain

end Template

namespace Component

open LivePreview.Template
open LivePreview.Text (Points)

/-! ## Static text of markup -/

/-- Text without gaps. -/
def solid (s : String) : List (Option Nat) := (Points.ofString s).map some

theorem solid_append (s t : String) : solid (s ++ t) = solid s ++ solid t := by
  simp [solid, Points.ofString, Points.ofChars]

/-- An attribute as it was written, with a gap for an expression. -/
def attributeStatic (name : String) : WrittenValue → List (Option Nat)
  | .bare => solid (" " ++ name)
  | .literal s => solid (" " ++ name ++ "=\"" ++ s ++ "\"")
  | .expression _ => solid (" " ++ name ++ "=\"") ++ [none] ++ solid "\""

/-- An opening tag with its end. -/
def tagStatic (name : String) (attributes : List (String × WrittenValue)) (ending : String) :
    List (Option Nat) :=
  solid ("<" ++ name) ++ attributes.flatMap (fun a => attributeStatic a.1 a.2) ++ solid ending

def closingStatic (name : String) : List (Option Nat) := solid ("</" ++ name ++ ">")

mutual

/-- The static text of a node in a context. A resolved component is a gap behind its content, and
`closes` tells which elements get the closing tag that they were written with. -/
def nodeStatic (c : Context) (closes : String → List Node → Bool) : Node → List (Option Nat)
  | .data _ text => solid text
  | .output _ _ => [none]
  | .element _ name attributes body closing =>
    match binding? c name with
    | some _ => bodyStatic c closes body ++ [none]
    | none =>
      let tag := tagStatic name (attributes.map fun a => (a.name, a.written))
      match closing with
      | .slash => tag " />"
      | .void => tag ">"
      | .paired =>
        tag ">" ++ bodyStatic c closes body ++ if closes name body then closingStatic name else []

def bodyStatic (c : Context) (closes : String → List Node → Bool) : List Node → List (Option Nat)
  | [] => []
  | n :: ns => nodeStatic c closes n ++ bodyStatic c closes ns

end

/-- Every element gets its closing tag. -/
def closesAll (_ : String) (_ : List Node) : Bool := true

/-- An element gets its closing tag, unless it has no content and the name of one that never has. -/
def closesUnlessVoid (name : String) (body : List Node) : Bool := !(body.isEmpty && isVoidTag name)

/-! ## What is written -/

namespace Draft

/-- The static text of a draft. -/
def static (d : Draft) : List (Option Nat) := blockStatic d.statements.reverse ++ solid d.pending

theorem static_text (d : Draft) (s : String) : (d.text s).static = d.static ++ solid s := by
  rw [static, static, text, solid_append, List.append_assoc]

theorem static_appending (e : Expr) : (appending e).static = e.static := by
  rw [appending, callOf, Statement.static, if_pos rfl]

theorem static_flush (d : Draft) : d.flush.static = d.static := by
  unfold flush
  split
  · rfl
  · rw [static, static, List.reverse_cons, blockStatic_append, List.append_assoc, blockStatic,
      static_appending]
    exact congrArg (blockStatic d.statements.reverse ++ ·)
      ((List.append_nil _).trans (List.append_nil _))

theorem pending_flush (d : Draft) : d.flush.pending = "" := by
  unfold flush
  split
  · next h => exact String.isEmpty_iff.mp h
  · rfl

theorem blockStatic_finish (d : Draft) : blockStatic d.finish = d.static := by
  rw [finish, ← static_flush, static, pending_flush]
  exact (List.append_nil _).symm

theorem static_statement (d : Draft) (s : Statement) :
    (d.statement s).static = d.static ++ s.static := by
  rw [← blockStatic_finish d, finish, statement, static, List.reverse_cons, blockStatic_append,
    pending_flush]
  simp [blockStatic, solid, Points.ofString, Points.ofChars]

end Draft

theorem static_empty : Draft.static .empty = [] := rfl

theorem static_value (p : Progress) {e : Expr} (h : e.static = [none]) :
    (p.value e).draft.static = p.draft.static ++ [none] := by
  rw [Progress.value, Draft.value, Draft.static_statement, Draft.static_appending, h]

theorem static_text (p : Progress) (s : String) :
    (p.text s).draft.static = p.draft.static ++ solid s := Draft.static_text _ _

theorem static_attributeMarkup (p : Progress) (a : Template.Attribute) :
    (p.attributeMarkup a).draft.static = p.draft.static ++ attributeStatic a.name a.written := by
  unfold Progress.attributeMarkup Template.Attribute.written
  cases a.value with
  | bare => exact static_text _ _
  | literal s => exact static_text _ _
  | expression e =>
    dsimp only
    rw [static_text, static_value _ rfl, static_text, attributeStatic]
    simp only [List.append_assoc]

theorem static_openMarkup (name : String) (attributes : List Template.Attribute) (p : Progress) :
    (p.openMarkup name attributes).draft.static = p.draft.static ++
      (solid ("<" ++ name) ++
        (attributes.map fun a => (a.name, a.written)).flatMap fun a => attributeStatic a.1 a.2) := by
  have hfold : ∀ q : Progress, (attributes.foldl Progress.attributeMarkup q).draft.static =
      q.draft.static ++ (attributes.map fun a => (a.name, a.written)).flatMap
        fun a => attributeStatic a.1 a.2 := by
    induction attributes with
    | nil => exact fun q => (List.append_nil _).symm
    | cons a attributes ih =>
      intro q
      rw [List.foldl_cons, ih, static_attributeMarkup, List.map_cons, List.flatMap_cons,
        List.append_assoc]
  rw [Progress.openMarkup, hfold, static_text, List.append_assoc]

mutual

theorem static_writeNode {c : Context} {own : String} (n : Node) (hn : n.Told) (p q : Progress)
    (h : writeNode c own p n = .ok q) :
    q.draft.static = p.draft.static ++ nodeStatic c closesUnlessVoid n := by
  cases n with
  | data place text =>
    rw [writeNode] at h
    cases h
    exact static_text p text
  | output place e =>
    rw [writeNode] at h
    cases h
    exact static_value p rfl
  | element place name attributes body closing =>
    obtain ⟨htag, hempty, hbody⟩ := hn
    have hwrite (p q : Progress) (h : writeNodes c own p body = .ok q) :
        q.draft.static = p.draft.static ++ bodyStatic c closesUnlessVoid body :=
      static_writeNodes body hbody p q h
    rw [writeNode] at h
    cases hbinding : binding? c name with
    | none =>
      simp only [hbinding] at h
      generalize hnoted : (if Template.isComponentTag name then
          { p with findings := p.findings.note [.unresolvedComponent place name] }
        else p) = noted at h
      have hnoted : noted.draft = p.draft := by
        rw [← hnoted]
        split <;> rfl
      have hopened := static_openMarkup name attributes noted
      rw [hnoted] at hopened
      generalize Progress.openMarkup noted name attributes = opened at h hopened
      have htagged (ending : String) : (opened.text ending).draft.static = p.draft.static ++
          tagStatic name (attributes.map fun a => (a.name, a.written)) ending := by
        rw [static_text, hopened, tagStatic]
        simp only [List.append_assoc]
      simp only [nodeStatic, hbinding]
      cases closing with
      | slash =>
        cases h
        exact htagged " />"
      | void =>
        obtain rfl := hempty nofun
        simp only [reduceCtorEq, if_false, List.isEmpty_nil, isVoidTag_of_tagClosing htag,
          Bool.and_true, if_true] at h
        cases h
        exact htagged ">"
      | paired =>
        simp only [reduceCtorEq, if_false] at h
        -- The second look at the name: here an element may lose the closing tag it was read with.
        cases hhollow : body.isEmpty && isVoidTag name with
        | true =>
          rw [hhollow] at h
          cases h
          obtain rfl := List.isEmpty_iff.mp (Bool.and_eq_true_iff.mp hhollow).1
          rw [htagged, closesUnlessVoid, hhollow]
          simp [bodyStatic]
        | false =>
          rw [hhollow] at h
          obtain ⟨inner, hinner, h⟩ := bind_eq_ok_iff.mp h
          cases h
          rw [static_text, hwrite _ inner hinner, htagged, closesUnlessVoid, hhollow]
          simp only [List.append_assoc]
          rfl
    | some b =>
      simp only [hbinding] at h
      obtain ⟨target, htarget, h⟩ := bind_eq_ok_iff.mp h
      rw [nodeStatic, hbinding]
      dsimp only
      split at h
      · next hnone =>
        cases h
        obtain rfl := List.isEmpty_iff.mp hnone
        exact static_value _ rfl
      · obtain ⟨inner, hinner, h⟩ := bind_eq_ok_iff.mp h
        cases h
        have hinside := hwrite _ inner hinner
        rw [static_value _ rfl, Draft.static_statement, Statement.static, blockStatic_append,
          blockStatic_append, Draft.blockStatic_finish, hinside]
        simp [bufferStart, bufferEnd, blockStatic, Statement.static, static_empty]

theorem static_writeNodes {c : Context} {own : String} (ns : List Node) (hns : BodyTold ns)
    (p q : Progress) (h : writeNodes c own p ns = .ok q) :
    q.draft.static = p.draft.static ++ bodyStatic c closesUnlessVoid ns := by
  cases ns with
  | nil =>
    rw [writeNodes] at h
    cases h
    exact (List.append_nil _).symm
  | cons n ns =>
    rw [writeNodes] at h
    obtain ⟨between, hn, h⟩ := bind_eq_ok_iff.mp h
    rw [static_writeNodes ns hns.2 between q h, static_writeNode n hns.1 p between hn, bodyStatic,
      List.append_assoc]

end

/-- Of a whole module only the body of the template has static text. -/
theorem blockStatic_moduleOf (t : Template) (path : String) (p : Progress) :
    blockStatic (moduleOf t path p) = p.draft.static := by
  have hheader : blockStatic (header t p.findings) = [] := by
    refine blockStatic_eq_nil fun s hs => ?_
    rcases import_of_mem_header hs with ⟨m, rfl⟩ | ⟨m, names, rfl⟩ <;> rfl
  have hsurface : blockStatic (surface t path) = [] := by
    refine blockStatic_eq_nil fun s hs => ?_
    simp only [surface, List.mem_cons, List.not_mem_nil, or_false] at hs
    obtain rfl | rfl | rfl | rfl := hs <;> rfl
  have hassign {ps : List Template.Param} (f : Template.Param → Expr × Expr) :
      blockStatic (ps.map fun q => .assign (f q).1 (f q).2) = [] := by
    refine blockStatic_eq_nil fun s hs => ?_
    obtain ⟨q, -, rfl⟩ := List.mem_map.mp hs
    rfl
  have hinitializer : (initializer t).static = [] := by
    rw [initializer, Statement.static]
    split
    · rfl
    · exact hassign fun q => (.attribute selfName q.name, .name q.name)
  have hrenderer : (renderer t p.draft.finish).static = p.draft.static := by
    have hloads : blockStatic (t.params.map fun q => .assign (.name q.name)
        (.attribute selfName q.name)) = [] :=
      hassign fun q => (.name q.name, .attribute selfName q.name)
    have hcontent : blockStatic
        (if t.params.any (·.name = "children") then [] else [contentBinding]) = [] := by
      split <;> rfl
    have hstart : blockStatic bufferStart = [] := rfl
    have hend : blockStatic [bufferEnd] = [] := rfl
    rw [renderer, Statement.static]
    simp only [blockStatic_append, hloads, hcontent, hstart, hend, Draft.blockStatic_finish,
      List.nil_append, List.append_nil]
  rw [moduleOf, blockStatic_append, hheader, componentClass]
  simp only [blockStatic, Statement.static, blockStatic_append, hsurface, hinitializer, hrenderer,
    List.nil_append, List.append_nil]

/-! ## What was written -/

/-- The static text of a visit, where every element gets its closing tag. -/
def visitStatic (c : Context) : Visit → List (Option Nat)
  | .data _ text => solid text
  | .output _ _ => [none]
  | .enter _ name attributes closing =>
    if (binding? c name).isSome then []
    else tagStatic name (attributes.map fun a => (a.name, a.written))
      (if closing = .slash then " />" else ">")
  | .leave name closing =>
    if (binding? c name).isSome then [none]
    else if closing = .paired then closingStatic name else []

/-- The static text of a lexeme: text and comments as they are, no directives, a gap for an output
or a resolved component, and every other tag as it was written. -/
def lexemeStatic (c : Context) : Lexeme → List (Option Nat)
  | .text cs => solid (String.ofList cs)
  | .directive .. => []
  | .comment body => solid (String.ofList (Lexeme.comment body).chars)
  | .output _ => [none]
  | .openTag tag attributes _ slash =>
    if (binding? c (String.ofList tag)).isSome then if slash then [none] else []
    else tagStatic (String.ofList tag)
      (attributes.map fun a => (String.ofList a.name, a.written)) (if slash then " />" else ">")
  | .closeTag tag _ =>
    if (binding? c (String.ofList tag)).isSome then [none] else closingStatic (String.ofList tag)

mutual

theorem visitStatic_node {c : Context} (n : Node) (hn : n.Told) :
    n.visits.flatMap (visitStatic c) = nodeStatic c closesAll n := by
  cases n with
  | data place text => exact List.append_nil _
  | output place e => rfl
  | element place name attributes body closing =>
    obtain ⟨-, hempty, hbody⟩ := hn
    rw [Node.visits, List.flatMap_cons, List.flatMap_append, List.flatMap_singleton,
      visitStatic_body body hbody, nodeStatic, visitStatic, visitStatic]
    cases binding? c name with
    | some b => rfl
    | none =>
      cases closing with
      | paired => simp [closesAll]
      | slash =>
        rw [hempty nofun]
        simp [bodyStatic]
      | void =>
        rw [hempty nofun]
        simp [bodyStatic]

theorem visitStatic_body {c : Context} (ns : List Node) (hns : BodyTold ns) :
    (bodyVisits ns).flatMap (visitStatic c) = bodyStatic c closesAll ns := by
  cases ns with
  | nil => rfl
  | cons n ns =>
    rw [bodyVisits, List.flatMap_append, visitStatic_node n hns.1, visitStatic_body ns hns.2,
      bodyStatic]

end

theorem static_of_effect {c : Context} {place : Position} {l : Lexeme} {e : Effect}
    (hl : l.Proper) (h : l.effect place = .ok e) :
    e.visits.flatMap (visitStatic c) = lexemeStatic c l := by
  cases yields_of_effect h with
  | @openTag tag _ _ slash read hread _ =>
    rw [findAttributes_attributeChars hl] at hread
    rw [visits_tagEffect, List.flatMap_cons, visitStatic, lexemeStatic,
      written_of_readAttributes hread]
    cases hbinding : binding? c (String.ofList tag) with
    | some b =>
      rw [tagClosing_of_isComponentTag (binding?_eq_some hbinding).1]
      cases slash <;> simp [tagLeave, visitStatic, hbinding]
    | none =>
      simp only [Option.isSome_none, Bool.false_eq_true, if_false, tagClosing_eq_slash_iff]
      cases tagClosing (String.ofList tag) slash <;> simp [tagLeave, visitStatic, hbinding]
  | param _ => rfl
  | module _ => rfl
  | _ => exact List.append_nil _

/-- The source shows the static text of the body, with all closing tags. -/
theorem lexemeStatic_of_read {c : Context} {cs : List Char} {t : Template}
    (h : ofChars cs = .ok t) :
    (lexemes cs).flatMap (lexemeStatic c) = bodyStatic c closesAll t.body := by
  obtain ⟨es, hes, hvisits⟩ := visits_of_read h
  have hdata (place other : Position) (text more : String) :
      visitStatic c (.data place (text ++ more)) =
        visitStatic c (.data place text) ++ visitStatic c (.data other more) :=
    solid_append text more
  rw [← visitStatic_body t.body (bodyTold_of_read h), hvisits, Visit.flatMap_foldl_join hdata,
    List.flatMap_nil, List.nil_append, List.flatMap_assoc]
  exact .symm <| flatMap_effects
    (fun l hl _ _ he => static_of_effect (proper_lexemes _ l hl) he) hes

/-! ## Closing tags that are left out -/

mutual

/-- The unresolved components with closing tags, but without content, that have the name of an
element which never has any. -/
def hollows (c : Context) : Node → List String
  | .data _ _ | .output _ _ => []
  | .element _ name _ body closing =>
    (if isComponentTag name && (c.resolve name).isNone && closing = .paired && body.isEmpty &&
      isVoidTag name then [name] else []) ++ bodyHollows c body

def bodyHollows (c : Context) : List Node → List String
  | [] => []
  | n :: ns => hollows c n ++ bodyHollows c ns

end

/-- How long the closing tags of these names are together. -/
def closingsLength (names : List String) : Nat := (names.flatMap closingStatic).length

theorem closingsLength_append (names others : List String) :
    closingsLength (names ++ others) = closingsLength names + closingsLength others := by
  simp [closingsLength]

theorem eq_nil_of_closingsLength {names : List String} (h : closingsLength names = 0) :
    names = [] := by
  cases names with
  | nil => rfl
  | cons name names =>
    have hlength : (closingStatic name).length ≠ 0 := by
      simp [closingStatic, solid, Points.ofString, Points.ofChars]
    rw [closingsLength, List.flatMap_cons, List.length_append] at h
    omega

mutual

/-- Without the closing tags of hollow components the text is shorter, and where there are none it
is the same. -/
theorem hollows_node {c : Context} (n : Node) (hn : n.Told) :
    (nodeStatic c closesAll n).length =
        (nodeStatic c closesUnlessVoid n).length + closingsLength (hollows c n) ∧
      (hollows c n = [] → nodeStatic c closesUnlessVoid n = nodeStatic c closesAll n) := by
  cases n with
  | data place text => exact ⟨rfl, fun _ => rfl⟩
  | output place e => exact ⟨rfl, fun _ => rfl⟩
  | element place name attributes body closing =>
    obtain ⟨htag, hempty, hbody⟩ := hn
    obtain ⟨hlength, hsame⟩ := hollows_body (c := c) body hbody
    cases hbinding : binding? c name with
    | some b =>
      obtain ⟨-, hresolve⟩ := binding?_eq_some hbinding
      have hnames : hollows c (.element place name attributes body closing) =
          bodyHollows c body := by
        simp [hollows, hresolve]
      simp only [hnames, nodeStatic, hbinding, List.length_append]
      exact ⟨by omega, fun h => by rw [hsame h]⟩
    | none =>
      have hbare (hclosing : closing ≠ .paired) :
          hollows c (.element place name attributes body closing) = [] := by
        rw [hempty hclosing]
        simp [hollows, hclosing, bodyHollows]
      cases closing with
      | slash => simp [hbare nofun, nodeStatic, hbinding, closingsLength]
      | void => simp [hbare nofun, nodeStatic, hbinding, closingsLength]
      | paired =>
        cases hhollow : body.isEmpty && isVoidTag name with
        | true =>
          -- A tag with this name only opens an element when it is that of a component.
          obtain ⟨hnone, hvoid⟩ := Bool.and_eq_true_iff.mp hhollow
          have hcomponent := isComponentTag_of_tagClosing htag hvoid
          have hresolve : c.resolve name = none := by
            rwa [binding?, if_pos hcomponent] at hbinding
          obtain rfl := List.isEmpty_iff.mp hnone
          simp [hollows, hcomponent, hresolve, hvoid, bodyHollows, nodeStatic, hbinding,
            closesUnlessVoid, closesAll, bodyStatic, closingsLength]
        | false =>
          have hnames : hollows c (.element place name attributes body .paired) =
              bodyHollows c body := by
            simp only [hollows, Bool.and_assoc, hhollow, Bool.and_false, Bool.false_eq_true,
              if_false, List.nil_append]
          simp only [hnames, nodeStatic, hbinding, closesUnlessVoid, hhollow, closesAll,
            Bool.not_false, if_true, List.length_append]
          exact ⟨by omega, fun h => by rw [hsame h]⟩

theorem hollows_body {c : Context} (ns : List Node) (hns : BodyTold ns) :
    (bodyStatic c closesAll ns).length =
        (bodyStatic c closesUnlessVoid ns).length + closingsLength (bodyHollows c ns) ∧
      (bodyHollows c ns = [] → bodyStatic c closesUnlessVoid ns = bodyStatic c closesAll ns) := by
  cases ns with
  | nil => exact ⟨rfl, fun _ => rfl⟩
  | cons n ns =>
    obtain ⟨hfirst, hfirstSame⟩ := hollows_node (c := c) n hns.1
    obtain ⟨hrest, hrestSame⟩ := hollows_body (c := c) ns hns.2
    simp only [bodyStatic, bodyHollows, List.length_append, closingsLength_append,
      List.append_eq_nil_iff]
    exact ⟨by omega, fun h => by rw [hfirstSame h.1, hrestSame h.2]⟩

end

/-- All closing tags are written just where there are no hollow components. -/
theorem bodyStatic_eq_iff {c : Context} {ns : List Node} (hns : BodyTold ns) :
    bodyStatic c closesUnlessVoid ns = bodyStatic c closesAll ns ↔ bodyHollows c ns = [] := by
  obtain ⟨hlength, hsame⟩ := hollows_body (c := c) ns hns
  constructor
  · intro heq
    rw [heq] at hlength
    exact eq_nil_of_closingsLength (by omega)
  · exact hsame

theorem blockStatic_of_written {c : Context} (path : String) {own : String} {t : Template}
    {p : Progress} (ht : BodyTold t.body) (hp : writeNodes c own ⟨.empty, .empty⟩ t.body = .ok p) :
    blockStatic (moduleOf t path p) = bodyStatic c closesUnlessVoid t.body := by
  rw [blockStatic_moduleOf, static_writeNodes t.body ht _ p hp]
  rfl

/-- The static text of a document is that of its source, with all tags as they were written, but for
the closing tags of hollow components. So it is the same text just when there are none. -/
theorem closings_of_document {c : Context} {path content : String} {document : Document}
    (h : Document.generate c path content = .ok document) :
    ∃ t p, Template.ofChars content.toList = .ok t ∧
      writeNodes c (componentName path) ⟨.empty, .empty⟩ t.body = .ok p ∧
      document.code = Statement.text (moduleOf t path p) ∧
      BodyTold t.body ∧
      blockStatic (moduleOf t path p) = bodyStatic c closesUnlessVoid t.body ∧
      (lexemes content.toList).flatMap (lexemeStatic c) = bodyStatic c closesAll t.body ∧
      (blockStatic (moduleOf t path p) = (lexemes content.toList).flatMap (lexemeStatic c) ↔
        bodyHollows c t.body = []) := by
  obtain ⟨t, ht, hcompile⟩ := generate_eq_ok h
  obtain ⟨p, hp, htext, -⟩ := compile_eq_ok hcompile
  obtain ⟨-, -, -, -, hcode⟩ := moduleText_eq_ok htext
  have htold := bodyTold_of_read ht
  have hwritten := blockStatic_of_written path htold hp
  have hsource := lexemeStatic_of_read (c := c) ht
  refine ⟨t, p, ht, hp, hcode, htold, hwritten, hsource, ?_⟩
  rw [hwritten, hsource]
  exact bodyStatic_eq_iff htold

/-! ## A component with the name of an element without content -/

/-- A page with an element that never has content, and a component that stands for nothing. -/
def linkText : String := "<hr><Link></Link>"

def linkPage : Template :=
  ⟨[], [], [.element ⟨1, 0⟩ "hr" [] [] .void, .element ⟨1, 4⟩ "Link" [] [] .paired]⟩

theorem read_linkPage : Template.ofChars linkText.toList = .ok linkPage := rfl

theorem resolve_link : bareContext.resolve "Link" = none := by
  have hmodule : Context.modulePart? "Link" = none := by decide +kernel
  rw [Context.resolve, hmodule]
  rfl

theorem binding_linkPage :
    binding? bareContext "hr" = none ∧ binding? bareContext "Link" = none := by
  have htags : isComponentTag "hr" = false ∧ isComponentTag "Link" = true := by decide
  constructor
  · rw [binding?, htags.1, if_neg Bool.false_ne_true]
  · rw [binding?, htags.2, if_pos rfl, resolve_link]

theorem isVoidTag_linkPage : isVoidTag "hr" = true ∧ isVoidTag "Link" = true := by
  decide +kernel

/-- The module that the page is compiled to. -/
def linkModule : List Statement :=
  fixedImports ++ [componentClass linkPage "Page.tpl" [Draft.appending (.ofText "<hr><Link>")]]

theorem exists_linkDocument :
    ∃ document, Document.generate bareContext "Page.tpl" linkText = .ok document := by
  obtain ⟨helement, hcomponent⟩ := binding_linkPage
  obtain ⟨hhr, hlink⟩ := isVoidTag_linkPage
  obtain ⟨p, hp, hdraft, hexternals, himports⟩ : ∃ p,
      writeNodes bareContext (componentName "Page.tpl") ⟨.empty, .empty⟩ linkPage.body = .ok p ∧
        p.draft.finish = [Draft.appending (.ofText "<hr><Link>")] ∧ p.findings.externals = [] ∧
        p.findings.imports = ∅ := by
    have htags : isComponentTag "hr" = false ∧ isComponentTag "Link" = true := by decide
    simp only [linkPage, writeNodes, writeNode, helement, hcomponent, htags.1, htags.2, hhr,
      hlink, List.isEmpty_nil, Bool.and_self, if_true, Bool.false_eq_true, if_false,
      reduceCtorEq]
    exact ⟨_, rfl, rfl, rfl, rfl⟩
  have htext : moduleText "Page.tpl" linkModule = .ok (Statement.text linkModule) :=
    moduleText_of_unrefusable (by decide +kernel) (by decide +kernel) (by decide +kernel)
  rw [linkModule, ← hdraft] at htext
  obtain ⟨document, hdocument⟩ := exists_compile hp rfl hexternals himports htext
  refine ⟨document, ?_⟩
  rw [Document.generate, read_linkPage]
  exact hdocument

theorem bodyHollows_linkPage : bodyHollows bareContext linkPage.body = ["Link"] := by
  have htags : isComponentTag "hr" = false ∧ isComponentTag "Link" = true := by decide
  simp [linkPage, bodyHollows, hollows, htags, resolve_link, isVoidTag_linkPage.2]

/-- In the document of the page the component has lost its closing tag. -/
theorem closings_of_document_link : ∃ document p,
    Document.generate bareContext "Page.tpl" linkText = .ok document ∧
      document.code = Statement.text (moduleOf linkPage "Page.tpl" p) ∧
      blockStatic (moduleOf linkPage "Page.tpl" p) = solid "<hr><Link>" ∧
      (lexemes linkText.toList).flatMap (lexemeStatic bareContext) = solid linkText := by
  obtain ⟨document, hdocument⟩ := exists_linkDocument
  obtain ⟨t, p, ht, hp, hcode, -, hwritten, hsource, -⟩ := closings_of_document hdocument
  rw [read_linkPage, Except.ok.injEq] at ht
  subst ht
  obtain ⟨helement, hcomponent⟩ := binding_linkPage
  refine ⟨document, p, hdocument, hcode, ?_, ?_⟩
  · obtain ⟨-, hlink⟩ := isVoidTag_linkPage
    rw [hwritten]
    simp only [linkPage, bodyStatic, nodeStatic, helement, hcomponent, closesUnlessVoid, hlink]
    rfl
  · rw [hsource]
    simp only [linkPage, bodyStatic, nodeStatic, helement, hcomponent]
    rfl

/-- A closing tag of the source may be missing from the static text of the document. -/
theorem closings_of_document_not_kept :
    ¬ ∀ (c : Context) (path content : String) (document : Document),
      Document.generate c path content = .ok document →
      ∀ t p, Template.ofChars content.toList = .ok t →
        writeNodes c (componentName path) ⟨.empty, .empty⟩ t.body = .ok p →
        blockStatic (moduleOf t path p) = (lexemes content.toList).flatMap (lexemeStatic c) := by
  intro hclaim
  obtain ⟨document, hdocument⟩ := exists_linkDocument
  obtain ⟨t, ht, hcompile⟩ := generate_eq_ok hdocument
  obtain ⟨p, hp, -⟩ := compile_eq_ok hcompile
  have hkept := hclaim _ _ _ document hdocument t p ht hp
  rw [blockStatic_of_written _ (bodyTold_of_read ht) hp, lexemeStatic_of_read ht,
    bodyStatic_eq_iff (bodyTold_of_read ht)] at hkept
  rw [read_linkPage, Except.ok.injEq] at ht
  rw [← ht, bodyHollows_linkPage] at hkept
  cases hkept

end Component

end LivePreview
