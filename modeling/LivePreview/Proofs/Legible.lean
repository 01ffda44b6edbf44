import LivePreview.Proofs.Modules
import LivePreview.Proofs.ContentScope
import LivePreview.Proofs.Declarable
import LivePreview.Proofs.Header

/-!
# Documents that can be read

The checks of a module look at its tree, and its text is made of names that nothing has looked at.
Where those of a template are names, the text of its document is read as a module, the names of
imported modules apart: it cannot be read if one of these holds a reserved word, and it can be read
if none does.
-/

namespace LivePreview

namespace Code

/-! ## Expressions -/

section Expressions

variable {others : Nat} {e k v : Expr} {es : List Expr} {id f : String}

theorem Expr.nests_iff_fits (h : WellPlaced e.parts) :
    e.nests others = true ↔ Fits others (e.tokens Level.test) := by
  refine ⟨Expr.fits_of_nests h, fun hfits => ?_⟩
  rw [Expr.nests, hfits _ (Nat.le_of_eq List.length_replicate)]
  rfl

/-- The expression is legible if its parts have their places and its brackets fit. -/
theorem Expr.isLegible_iff_fits : e.isLegible others = true ↔
    WellPlaced e.parts ∧ e.isValue = true ∧ Fits others (e.tokens Level.test) := by
  rw [Expr.isLegible_iff]
  exact and_congr_right fun h => and_congr_right fun _ => Expr.nests_iff_fits h

theorem Expr.isLegible_mono {more : Nat} (h : e.isLegible more = true) (hle : others ≤ more) :
    e.isLegible others = true := by
  obtain ⟨hparts, hvalue, hfits⟩ := Expr.isLegible_iff_fits.mp h
  exact Expr.isLegible_iff_fits.mpr ⟨hparts, hvalue, hfits.mono hle⟩

theorem fits_single {t : Token} (h : ∀ s, t ≠ .symbol s) : Fits others [t] :=
  Fits.cons (fun s hs => absurd hs (h s)) fits_nil

theorem Fits.name {ts : List Token} (h : Fits others ts) : Fits others (.name id :: ts) :=
  Fits.cons (fun s hs => by cases hs) h

theorem isLegible_name (h : isName id = true) : (Expr.name id).isLegible others = true := by
  refine Expr.isLegible_iff_fits.mpr ⟨?_, rfl, ?_⟩
  · rw [Expr.parts]
    exact List.forall_mem_singleton.mpr h
  · rw [Expr.tokens]
    exact Fits.name fits_nil

theorem isLegible_ofText (s : String) : (Expr.ofText s).isLegible others = true := by
  refine Expr.isLegible_iff_fits.mpr ⟨?_, rfl, ?_⟩
  · rw [Expr.ofText, Expr.parts]
    refine List.forall_mem_singleton.mpr (List.all_eq_true.mpr fun p hp => ?_)
    exact decide_eq_true (le_of_mem_ofChars hp)
  · rw [Expr.ofText, Expr.tokens]
    exact fits_single fun s hs => by cases hs

theorem isLegible_none : (Expr.constant .none).isLegible others = true := by
  refine Expr.isLegible_iff_fits.mpr ⟨?_, rfl, ?_⟩
  · rw [Expr.parts]
    exact List.forall_mem_singleton.mpr rfl
  · rw [Expr.tokens]
    exact fits_single fun s hs => by cases hs

/-- An attribute of a name. -/
theorem isLegible_attribute (hf : isName f = true) (hid : isName id = true) :
    (Expr.attribute (.name f) id).isLegible others = true := by
  refine Expr.isLegible_iff_fits.mpr ⟨?_, rfl, ?_⟩
  · rw [Expr.parts, Expr.parts, wellPlaced_cons]
    exact ⟨hid, List.forall_mem_singleton.mpr hf⟩
  · rw [Expr.tokens, Expr.tokens]
    exact Fits.name (Fits.cons (fun s hs => by cases hs; decide) (Fits.name fits_nil))

theorem wellPlaced_listParts (h : ∀ e ∈ es, e.isLegible others = true) :
    WellPlaced (listParts es) := by
  rw [listParts_eq_flatMap]
  intro p hp
  obtain ⟨e, he, hp⟩ := List.mem_flatMap.mp hp
  exact (Expr.isLegible_iff.mp (h e he)).1 p hp

theorem fits_listTokens (h : ∀ e ∈ es, e.isLegible others = true) :
    ∀ ts ∈ listTokens Level.test es, Fits others ts := by
  induction es with
  | nil =>
    rw [listTokens]
    exact fun _ hts => absurd hts List.not_mem_nil
  | cons e es ih =>
    obtain ⟨he, hes⟩ := List.forall_mem_cons.mp h
    rw [listTokens]
    exact List.forall_mem_cons.mpr ⟨(Expr.isLegible_iff_fits.mp he).2.2, ih hes⟩

theorem isItem_of_isLegible (h : ∀ e ∈ es, e.isLegible others = true) : es.all (·.isItem) = true :=
  List.all_eq_true.mpr fun e he => by
    rw [Expr.isItem, (Expr.isLegible_iff.mp (h e he)).2.1, Bool.or_true]

/-- The call of a function by its name. -/
theorem isLegible_call (hf : isName f = true) (hothers : others < bracketLimit)
    (h : ∀ e ∈ es, e.isLegible (others + 1) = true) :
    (Expr.call (.name f) es []).isLegible others = true := by
  refine Expr.isLegible_iff_fits.mpr ⟨?_, rfl, ?_⟩
  · rw [Expr.parts, Expr.parts, keywordParts, List.append_nil, wellPlaced_cons, wellPlaced_append]
    refine ⟨?_, List.forall_mem_singleton.mpr hf, wellPlaced_listParts h⟩
    rw [Expr.wellPlaced, isItem_of_isLegible h]
    rfl
  · rw [Expr.tokens, Expr.tokens, keywordTokens, List.append_nil]
    exact Fits.name (Fits.parentheses hothers (fits_comma (fits_listTokens h)))

theorem fits_tuple {tss : List (List Token)} (h : ∀ ts ∈ tss, Fits others ts) :
    Fits others (tupleTokens tss) := by
  unfold tupleTokens
  split
  · next t =>
    exact (h t (List.mem_singleton_self t)).append
      (Fits.cons (fun s hs => by cases hs; decide) fits_nil)
  · exact fits_comma h

theorem isLegible_tuple (hothers : others < bracketLimit)
    (h : ∀ e ∈ es, e.isLegible (others + 1) = true) : (Expr.tuple es).isLegible others = true := by
  refine Expr.isLegible_iff_fits.mpr ⟨?_, ?_, ?_⟩
  · rw [Expr.parts, wellPlaced_cons]
    refine ⟨List.all_eq_true.mpr fun e he => ?_, wellPlaced_listParts h⟩
    rw [Expr.isIndexItem, List.all_eq_true.mp (isItem_of_isLegible h) e he, Bool.or_true]
  · rw [Expr.isValue, Bool.not_eq_true', List.any_eq_false]
    intro e he hslice
    have hvalue := (Expr.isLegible_iff.mp (h e he)).2.1
    obtain ⟨l, u, s, rfl⟩ : ∃ l u s, e = .slice l u s := by
      cases e <;> first | exact ⟨_, _, _, rfl⟩ | cases hslice
    cases hvalue
  · have htokens : (Expr.tuple es).tokens Level.test =
        .symbol "(" :: (tupleTokens (listTokens Level.test es) ++ [.symbol ")"]) := by
      rw [Expr.tokens, decide_eq_true (by decide : Level.tuple < Level.test), Bool.or_true]
      rfl
    rw [htokens]
    exact Fits.parentheses hothers (fits_tuple (fits_listTokens h))

/-- A mapping of texts. -/
theorem isLegible_mapping {α : Type} {as : List α} {key : α → String} {value : α → Expr}
    (hothers : others < bracketLimit) (h : ∀ a ∈ as, (value a).isLegible (others + 1) = true) :
    (Expr.mapping (as.map fun a => .pair (.ofText (key a)) (value a))).isLegible others = true := by
  have hinside : WellPlaced (mappingParts (as.map fun a => .pair (.ofText (key a)) (value a))) ∧
      ∀ ts ∈ mappingTokens (as.map fun a => .pair (.ofText (key a)) (value a)),
        Fits (others + 1) ts := by
    induction as with
    | nil =>
      rw [List.map_nil, mappingParts, mappingTokens]
      exact ⟨fun _ hp => absurd hp List.not_mem_nil, fun _ hts => absurd hts List.not_mem_nil⟩
    | cons a as ih =>
      obtain ⟨ha, has⟩ := List.forall_mem_cons.mp h
      obtain ⟨hparts, -, hfits⟩ := Expr.isLegible_iff_fits.mp ha
      have hkey : (Expr.ofText (key a)).isLegible (others + 1) = true := isLegible_ofText (key a)
      obtain ⟨htext, -, htextFits⟩ := Expr.isLegible_iff_fits.mp hkey
      obtain ⟨hothersParts, hothersFits⟩ := ih has
      rw [List.map_cons, mappingParts, mappingTokens, wellPlaced_append, wellPlaced_append]
      refine ⟨⟨⟨htext, hparts⟩, hothersParts⟩, List.forall_mem_cons.mpr ⟨?_, hothersFits⟩⟩
      exact htextFits.append (Fits.cons (fun s hs => by cases hs; decide) hfits)
  refine Expr.isLegible_iff_fits.mpr ⟨?_, rfl, ?_⟩
  · rw [Expr.parts, wellPlaced_cons]
    refine ⟨List.all_eq_true.mpr fun item hitem => ?_, hinside.1⟩
    obtain ⟨a, ha, rfl⟩ := List.mem_map.mp hitem
    exact Bool.and_eq_true_iff.mpr ⟨rfl, (Expr.isLegible_iff.mp (h a ha)).2.1⟩
  · rw [Expr.tokens]
    exact Fits.bracketed (b := '\x7b') (by decide) (by decide) (by decide) (by decide) hothers
      (fits_comma hinside.2)

end Expressions

/-! ## Statements -/

namespace Statement

variable {id : String} {v : Expr} {ss us : List Statement}

theorem areLegible_iff : areLegible ss = true ↔ ∀ s ∈ ss, s.isLegible = true := by
  induction ss with
  | nil => exact ⟨fun _ s hs => absurd hs List.not_mem_nil, fun _ => by rw [areLegible]⟩
  | cons s ss ih => rw [areLegible, Bool.and_eq_true, ih, List.forall_mem_cons]

theorem blockHeight_le_iff {k : Nat} : blockHeight ss ≤ k ↔ ∀ s ∈ ss, s.height ≤ k := by
  induction ss with
  | nil => exact ⟨fun _ s hs => absurd hs List.not_mem_nil, fun _ => by rw [blockHeight]; omega⟩
  | cons s ss ih => rw [blockHeight, Nat.max_le, ih, List.forall_mem_cons]

/-- A statement that can stand in a block. -/
def IsLegibleInside (s : Statement) : Prop := s.isImport = false ∧ s.isLegible = true

theorem block_of_inside (h : ∀ s ∈ ss, s.IsLegibleInside) :
    (!ss.any isImport) = true ∧ areLegible ss = true := by
  refine ⟨?_, areLegible_iff.mpr fun s hs => (h s hs).2⟩
  rw [Bool.not_eq_true', List.any_eq_false]
  exact fun s hs himport => Bool.false_ne_true ((h s hs).1.symm.trans himport)

theorem inside_assign (hid : isName id = true) (hv : v.isLegible 0 = true) :
    (assign (.name id) v).IsLegibleInside := by
  refine ⟨rfl, ?_⟩
  rw [isLegible, isLegible_name hid, hv]
  rfl

/-- A value of a name is kept under the same name. -/
theorem inside_store (hid : isName id = true) :
    (assign (.attribute (.name "self") id) (.name id)).IsLegibleInside := by
  have hmatch : (Expr.attribute (.name "self") id).opensMatch = false := by
    rw [Expr.opensMatch, Expr.tokens, Expr.tokens]
    rfl
  refine ⟨rfl, ?_⟩
  rw [isLegible, isLegible_attribute (by decide) hid, isLegible_name hid, hmatch]
  rfl

theorem inside_expression {f : String} {es : List Expr} (hf : isName f = true)
    (hmatch : f ≠ "match") (h : ∀ e ∈ es, e.isLegible 1 = true) :
    (expression (.call (.name f) es [])).IsLegibleInside := by
  have hopens : (Expr.call (.name f) es []).opensMatch = false := by
    rw [Expr.opensMatch, Expr.tokens, Expr.tokens, decide_eq_false_iff_not]
    exact fun hhead => hmatch (Token.name.inj (Option.some.inj hhead))
  refine ⟨rfl, ?_⟩
  rw [isLegible, isLegible_call hf (by decide) h, hopens]
  rfl

theorem inside_function {name : String} {params : List Parameter} (hname : isName name = true)
    (hparams : ∀ p ∈ params, p.isLegible = true)
    (horder : defaultsLast false (params.filter fun p => !p.byKeyword) = true) (hne : ss ≠ [])
    (h : ∀ s ∈ ss, s.IsLegibleInside) : (function name params ss).IsLegibleInside := by
  obtain ⟨himports, hlegible⟩ := block_of_inside h
  refine ⟨rfl, ?_⟩
  rw [isLegible, hname, List.all_eq_true.mpr hparams, horder, List.isEmpty_eq_false_iff.mpr hne,
    himports, hlegible]
  rfl

end Statement

end Code

namespace Component

open LivePreview.Code (Expr Statement isName isDotted bracketLimit isLegible_name isLegible_ofText
  isLegible_call isLegible_none isLegible_tuple isLegible_mapping isDecimal digits_toDigits
  marginLimit)
open LivePreview.Template (Node Use bodyUses bodyExpressions)
open LivePreview.Text (isIdentifier isIdentifierContinue isIdentifierStart
  identifierContinueBoundaries inside isKeyword keywords)

/-! ## Nesting -/

section Layers

mutual

/-- How many contents of components lie one in another. -/
def layers (c : Context) : Node → Nat
  | .data _ _ | .output _ _ => 0
  | .element _ name _ body _ =>
    if (binding? c name).isSome && !body.isEmpty then bodyLayers c body + 1 else bodyLayers c body

def bodyLayers (c : Context) : List Node → Nat
  | [] => 0
  | n :: ns => max (layers c n) (bodyLayers c ns)

end

/-- Blocks nest no deeper than this. -/
def Shallow (k : Nat) (s : Statement) : Prop := s.height ≤ k

theorem shallow_appending (k : Nat) (e : Expr) : Shallow k (Draft.appending e) := by
  rw [Shallow, Draft.appending, Statement.height]
  exact Nat.zero_le k

variable {c : Context} {own : String} {k : Nat}

theorem shallow_function {name : String} {params : List Code.Parameter} {ss : List Statement}
    (h : ∀ s ∈ ss, Shallow k s) : Shallow (k + 1) (.function name params ss) := by
  rw [Shallow, Statement.height]
  exact Nat.succ_le_succ (Statement.blockHeight_le_iff.mpr h)

theorem shallow_buffer {ss : List Statement} (h : ∀ s ∈ ss, Shallow k s) :
    ∀ s ∈ bufferStart ++ ss ++ [bufferEnd], Shallow k s := by
  have hstart : ∀ s ∈ bufferStart, s.height = 0 := by simp [bufferStart, Statement.height]
  have hend : bufferEnd.height = 0 := by rw [bufferEnd, Statement.height]
  rw [List.forall_mem_append, List.forall_mem_append, List.forall_mem_singleton]
  exact ⟨⟨fun s hs => Nat.le_trans (Nat.le_of_eq (hstart s hs)) (Nat.zero_le k), h⟩,
    Nat.le_trans (Nat.le_of_eq hend) (Nat.zero_le k)⟩

mutual

theorem height_writeNode (n : Node) (k : Nat) (hn : layers c n ≤ k) (p q : Progress)
    (hp : p.draft.All (Shallow k)) (h : writeNode c own p n = .ok q) : q.draft.All (Shallow k) := by
  cases n with
  | data place text =>
    rw [writeNode] at h
    cases h
    exact hp.addText text
  | output place e =>
    rw [writeNode] at h
    cases h
    exact hp.statement (shallow_appending k _)
  | element place name attributes body closing =>
    rw [writeNode] at h
    rw [layers] at hn
    cases hbinding : binding? c name with
    | none =>
      rw [hbinding] at hn
      simp only [hbinding] at h
      generalize hnoted : (if Template.isComponentTag name then
          { p with findings := p.findings.note [.unresolvedComponent place name] }
        else p) = noted at h
      have hnoted : noted.draft.All (Shallow k) := by
        rw [← hnoted]
        split <;> exact hp
      have hopened := all_openMarkup hnoted name attributes fun e _ => shallow_appending k _
      generalize Progress.openMarkup noted name attributes = opened at h hopened
      split at h
      · cases h
        exact hopened.addText _
      · split at h
        · cases h
          exact hopened.addText _
        · obtain ⟨inner, hinner, h⟩ := bind_eq_ok_iff.mp h
          cases h
          exact (height_writeNodes body k hn _ inner (hopened.addText _) hinner).addText _
    | some b =>
      simp only [hbinding] at h
      obtain ⟨target, -, h⟩ := bind_eq_ok_iff.mp h
      split at h
      · cases h
        exact hp.statement (shallow_appending k _)
      · next hbody =>
        rw [hbinding, Option.isSome_some, Bool.eq_false_iff.mpr hbody, Bool.not_false,
          Bool.and_self, if_pos rfl] at hn
        obtain ⟨k, rfl⟩ : ∃ j, k = j + 1 := ⟨k - 1, by omega⟩
        obtain ⟨inner, hinner, h⟩ := bind_eq_ok_iff.mp h
        cases h
        have hinside := height_writeNodes body k (Nat.le_of_succ_le_succ hn) _ inner
          (Draft.all_empty fun _ => shallow_appending k _) hinner
        have houtside : (p.draft.statement (.function
            (contentName ((p.findings.use own place name attributes b).contents + 1)) []
            (bufferStart ++ inner.draft.finish ++ [bufferEnd]))).All (Shallow (k + 1)) :=
          hp.statement (shallow_function (shallow_buffer hinside.finish))
        exact houtside.statement (shallow_appending (k + 1) _)

theorem height_writeNodes (ns : List Node) (k : Nat) (hns : bodyLayers c ns ≤ k) (p q : Progress)
    (hp : p.draft.All (Shallow k)) (h : writeNodes c own p ns = .ok q) :
    q.draft.All (Shallow k) := by
  cases ns with
  | nil =>
    rw [writeNodes] at h
    cases h
    exact hp
  | cons n ns =>
    rw [bodyLayers, Nat.max_le] at hns
    rw [writeNodes] at h
    obtain ⟨between, hn, h⟩ := bind_eq_ok_iff.mp h
    exact height_writeNodes ns k hns.2 between q (height_writeNode n k hns.1 p between hp hn) h

end

end Layers

/-! ## Templates whose names are names -/

/-- The document of the template imports from the module. -/
def ImportsModule (c : Context) (path : String) (t : Template) (m : String) : Prop :=
  (∃ u ∈ t.usings, u.module = m) ∨ ∃ u ∈ t.uses, ∃ b, c.resolve u.name = some b ∧ b.module = m ∧
    (b.isExternal = true ∨ u.name ≠ componentName path)

/-- What is written for the template is spelled with names, and no deeper than texts are read. -/
structure Legible (c : Context) (path : String) (t : Template) : Prop where
  component : isIdentifier (componentName path).toList = true
  params : ∀ q ∈ t.params, isIdentifier q.name.toList = true
  /-- An attribute is read where three brackets are open. -/
  expressions : ∀ e ∈ t.expressions, e.tree.isLegible 3 = true
  targets : ∀ u ∈ t.uses, ∀ b target, c.resolve u.name = some b → targetOf u.name b = .ok target →
    target.isLegible 3 = true
  modules : ∀ m, ImportsModule c path t m → isDotted m = true
  /-- The class and its method are two blocks of their own. -/
  nested : bodyLayers c t.body + 2 ≤ marginLimit

section Legible

variable {c : Context} {path content : String} {t : Template} {p : Progress}

/-- A decimal digit can stand in an identifier. -/
theorem isIdentifierContinue_of_isDecimal {d : Char} (h : isDecimal d = true) :
    isIdentifierContinue d = true := by
  have hall : ∀ n < 58, 48 ≤ n → inside identifierContinueBoundaries n = true := by decide +kernel
  obtain ⟨hlow, hhigh⟩ := Bool.and_eq_true_iff.mp h
  have hlow : 48 ≤ d.toNat := of_decide_eq_true hlow
  have hhigh : d.toNat ≤ 57 := of_decide_eq_true hhigh
  exact hall d.toNat (Nat.lt_succ_of_le hhigh) hlow

theorem isName_contentName (number : Nat) : isName (contentName number) = true := by
  have hname : (contentName number).toList = '_' :: ("children_".toList ++
      Nat.toDigits 10 number) := by
    rw [contentName, String.toList_append, Nat.toString_eq_repr, Nat.toList_repr]
    rfl
  have hkeyword : isKeyword (contentName number) = false := by
    have hheads : ∀ word ∈ keywords, word.toList.head? ≠ some '_' := by decide
    rw [isKeyword, Bool.eq_false_iff, ne_eq, List.contains_iff_mem]
    exact fun hmem => hheads _ hmem (head?_contentName number)
  have hstart : isIdentifierStart '_' = true := by decide +kernel
  have hfront : "children_".toList.all isIdentifierContinue = true := by decide +kernel
  have hdigits : (Nat.toDigits 10 number).all isIdentifierContinue = true :=
    List.all_eq_true.mpr fun d hd =>
      isIdentifierContinue_of_isDecimal ((digits_toDigits number).isDecimal d hd)
  rw [isName, hkeyword, hname, isIdentifier, hstart, List.all_append, hfront, hdigits]
  rfl

theorem inside_bufferStart : ∀ s ∈ bufferStart, s.IsLegibleInside := by
  rw [bufferStart]
  refine List.forall_mem_cons.mpr ⟨⟨rfl, by decide +kernel⟩,
    List.forall_mem_singleton.mpr ⟨rfl, by decide +kernel⟩⟩

theorem inside_bufferEnd : bufferEnd.IsLegibleInside := ⟨rfl, by decide +kernel⟩

theorem inside_contentBinding : contentBinding.IsLegibleInside := ⟨rfl, by decide +kernel⟩

theorem isLegible_optionalText {others : Nat} (text : Option String) :
    (optionalText text).isLegible others = true := by
  cases text with
  | some s => exact isLegible_ofText s
  | none => exact isLegible_none

/-- The surface of a template is made of texts. -/
theorem inside_surface (t : Template) (path : String) :
    ∀ s ∈ surface t path, s.IsLegibleInside := by
  have hline {name : String} (hname : isName name = true) {value : Expr}
      (hvalue : value.isLegible 0 = true) : (assignName name value).IsLegibleInside :=
    Statement.inside_assign hname hvalue
  simp only [surface, List.forall_mem_cons]
  refine ⟨hline (by decide) (isLegible_ofText _), hline (by decide) (isLegible_ofText _),
    hline (by decide) (isLegible_tuple (by decide) (List.forall_mem_map.mpr fun q _ => ?_)),
    hline (by decide) (isLegible_tuple (by decide) (List.forall_mem_map.mpr fun q _ => ?_)),
    fun s hs => absurd hs List.not_mem_nil⟩
  · exact isLegible_tuple (by decide) (List.forall_mem_cons.mpr ⟨isLegible_ofText _,
      List.forall_mem_singleton.mpr (isLegible_optionalText _)⟩)
  · exact isLegible_ofText _

theorem isName_param (h : Legible c path t) (ht : Template.ofChars content.toList = .ok t)
    {q : Template.Param} (hq : q ∈ t.params) : isName q.name = true := by
  have husable := (Template.wellNamed_of_read ht).1 q hq
  rw [Template.isUnusableParam, Bool.or_eq_false_iff, Bool.or_eq_false_iff] at husable
  rw [isName, h.params q hq, husable.1.1]
  rfl

theorem isLegible_ofExpression (h : Legible c path t) {e : Template.Expression}
    (he : e ∈ t.expressions) {others : Nat} (hothers : others ≤ 3) :
    e.tree.isLegible others = true := Expr.isLegible_mono (h.expressions e he) hothers

theorem inside_initializer (h : Legible c path t) (ht : Template.ofChars content.toList = .ok t) :
    (initializer t).IsLegibleInside := by
  have hparams : ∀ p ∈ (⟨"self", false, none, none⟩ : Code.Parameter) :: takenParams t,
      p.isLegible = true := by
    refine List.forall_mem_cons.mpr ⟨by decide, List.forall_mem_map.mpr fun q hq => ?_⟩
    have hoption {e : Option Template.Expression} (he : ∀ x, e = some x → x ∈ t.expressions) :
        (e.map (·.tree)).all (·.isLegible 1) = true := by
      cases e with
      | none => rfl
      | some e => exact isLegible_ofExpression h (he e rfl) (by decide)
    have hhint := hoption fun e he => mem_expressions_of_param hq (.inl he)
    have hdefault := hoption fun e he => mem_expressions_of_param hq (.inr he)
    rw [Code.Parameter.isLegible, isName_param h ht hq, hhint, hdefault]
    rfl
  have hplain : ((⟨"self", false, none, none⟩ : Code.Parameter) :: takenParams t).filter
      (fun p => !p.byKeyword) = [⟨"self", false, none, none⟩] := by
    have hnone : (takenParams t).filter (fun p => !p.byKeyword) = [] := by
      refine List.filter_eq_nil_iff.mpr fun p hp => ?_
      obtain ⟨q, -, rfl⟩ := List.mem_map.mp hp
      exact Bool.false_ne_true
    rw [List.filter_cons_of_pos rfl, hnone]
  have horder : Code.defaultsLast false
      ((⟨"self", false, none, none⟩ :: takenParams t).filter fun p => !p.byKeyword) = true := by
    rw [hplain]
    rfl
  have hstores : ∀ s ∈ t.params.map fun q =>
      Statement.assign (.attribute selfName q.name) (.name q.name), s.IsLegibleInside :=
    List.forall_mem_map.mpr fun q hq => Statement.inside_store (isName_param h ht hq)
  refine Statement.inside_function (by decide) hparams horder ?_ ?_
  · split
    · exact List.cons_ne_nil _ _
    · next hne => exact fun hnil => hne (List.isEmpty_iff.mpr hnil)
  · split
    · exact List.forall_mem_singleton.mpr ⟨rfl, by rw [Statement.isLegible]⟩
    · exact hstores

theorem inside_renderer (h : Legible c path t) (ht : Template.ofChars content.toList = .ok t)
    {body : List Statement} (hbody : ∀ s ∈ body, s.IsLegibleInside) :
    (renderer t body).IsLegibleInside := by
  have hprepare : ∀ s ∈ preparations t, s.IsLegibleInside := by
    intro s hs
    rcases mem_preparations hs with ⟨q, hq, rfl⟩ | rfl
    · have hname := isName_param h ht hq
      exact Statement.inside_assign hname (Code.isLegible_attribute (by decide) hname)
    · exact inside_contentBinding
  rw [renderer_eq]
  refine Statement.inside_function (by decide) ?_ rfl (by simp) ?_
  · refine List.forall_mem_cons.mpr ⟨by decide, List.forall_mem_singleton.mpr ?_⟩
    rw [Code.Parameter.isLegible, Option.all_some, isLegible_none]
    decide
  · simp only [List.forall_mem_append, List.forall_mem_singleton]
    exact ⟨⟨⟨hprepare, inside_bufferStart⟩, hbody⟩, inside_bufferEnd⟩

theorem inside_appending {e : Expr} (h : e.isLegible 1 = true) :
    (Draft.appending e).IsLegibleInside :=
  Statement.inside_expression (by decide) (by decide) (List.forall_mem_singleton.mpr h)

theorem isLegible_attributeArgument (h : Legible c path t) {u : Use} (hu : u ∈ t.uses)
    {a : Template.Attribute} (ha : a ∈ u.attributes) :
    (attributeArgument a).isLegible 3 = true := by
  unfold attributeArgument
  split
  · decide
  · exact isLegible_ofText _
  · next e he =>
    have hgiven : e ∈ u.attributes.flatMap Template.Attribute.expressions := by
      refine List.mem_flatMap.mpr ⟨a, ha, ?_⟩
      rw [Template.Attribute.expressions, he]
      exact List.mem_singleton_self e
    exact h.expressions e
      (mem_expressions_of_body (Template.mem_bodyExpressions_of_use t.body hu hgiven))

/-- What is written for a body is legible. -/
theorem written_legible (h : Legible c path t) :
    Written c Statement.IsLegibleInside t.uses (bodyExpressions t.body) where
  text s := inside_appending (isLegible_ofText s)
  escaped e he := inside_appending (isLegible_call (by decide) (by decide)
    (List.forall_mem_singleton.mpr
      (isLegible_ofExpression h (mem_expressions_of_body he) (by decide))))
  call u hu b target hresolve htarget given hgiven := by
    have hcontent : given.isLegible 2 = true := by
      rcases hgiven with rfl | ⟨number, rfl⟩
      · exact isLegible_none
      · exact isLegible_name (isName_contentName number)
    refine inside_appending (isLegible_call (by decide) (by decide) ?_)
    simp only [List.forall_mem_cons]
    exact ⟨Expr.isLegible_mono (h.targets u hu b target hresolve htarget) (by decide),
      isLegible_mapping (by decide) fun a ha => isLegible_attributeArgument h hu ha, hcontent,
      fun e he => absurd he List.not_mem_nil⟩
  content number ss hss := by
    refine Statement.inside_function (isName_contentName number)
      (fun p hp => absurd hp List.not_mem_nil) rfl (by simp) ?_
    simp only [List.forall_mem_append, List.forall_mem_singleton]
    exact ⟨⟨inside_bufferStart, hss⟩, inside_bufferEnd⟩

/-! ## Imports -/

variable {named others : List String} {components : List (String × String)}

/-- The modules of the header are those that the template asks for. -/
theorem mem_modules_iff (h : Needed c path t named others components) (m : String) :
    m ∈ named ++ others ++ components.map Prod.snd ↔ ImportsModule c path t m := by
  have hnamed : m ∈ named ↔ ∃ u ∈ t.usings, u.module = m := by
    rw [h.named_eq, List.mem_eraseDups, List.mem_map]
  rw [List.mem_append, List.mem_append, List.mem_map, ImportsModule]
  constructor
  · rintro ((hm | hm) | ⟨⟨n, m⟩, hm, rfl⟩)
    · exact .inl (hnamed.mp hm)
    · obtain ⟨-, u, hu, b, hresolve, hexternal, hmodule⟩ := (h.mem_others m).mp hm
      exact .inr ⟨u, hu, b, hresolve, hmodule, .inl hexternal⟩
    · obtain ⟨hother, u, hu, rfl, b, hresolve, -, hmodule⟩ := (h.mem_components n m).mp hm
      exact .inr ⟨u, hu, b, hresolve, hmodule, .inr hother⟩
  · rintro (hm | ⟨u, hu, b, hresolve, rfl, hother⟩)
    · exact .inl (.inl (hnamed.mpr hm))
    · cases hexternal : b.isExternal with
      | true =>
        by_cases hm : b.module ∈ named
        · exact .inl (.inl hm)
        · exact .inl (.inr ((h.mem_others _).mpr ⟨hm, u, hu, b, hresolve, hexternal, rfl⟩))
      | false =>
        have hne : u.name ≠ componentName path := by
          rcases hother with hother | hother
          · cases hexternal.symm.trans hother
          · exact hother
        exact .inr ⟨_, (h.mem_components _ _).mpr ⟨hne, u, hu, rfl, b, hresolve, hexternal, rfl⟩,
          rfl⟩

theorem legible_neededImports (hneeded : Needed c path t named others components)
    (h : Legible c path t) : ∀ s ∈ neededImports named others components, s.isLegible = true := by
  have hmodule {m : String} (hm : m ∈ named ++ others ++ components.map Prod.snd) :
      isDotted m = true := h.modules m ((mem_modules_iff hneeded m).mp hm)
  have himport (ms : List String) (hms : ∀ m ∈ ms, m ∈ named ++ others ++ components.map Prod.snd) :
      ∀ s ∈ ms.map Statement.importModule, s.isLegible = true :=
    List.forall_mem_map.mpr fun m hm => by
      rw [Statement.isLegible]
      exact hmodule (hms m hm)
  rw [neededImports, List.forall_mem_append, List.forall_mem_append]
  refine ⟨⟨himport named fun m hm => ?_, himport others fun m hm => ?_⟩,
    List.forall_mem_map.mpr fun component hm => ?_⟩
  · exact List.mem_append_left _ (List.mem_append_left _ hm)
  · exact List.mem_append_left _ (List.mem_append_right _ hm)
  · obtain ⟨n, m⟩ := component
    obtain ⟨-, u, hu, rfl, b, hresolve, hdeclared, -⟩ := (hneeded.mem_components n m).mp hm
    have htarget : targetOf u.name b = .ok (.name u.name) := by
      rw [targetOf, hdeclared]
      rfl
    have hname := (Code.Expr.isLegible_iff.mp (h.targets u hu b _ hresolve htarget)).1 _
      (Code.mem_parts _)
    have hdotted := hmodule (List.mem_append_right _ (List.mem_map_of_mem (f := Prod.snd) hm))
    rw [Statement.isLegible, hdotted]
    exact Bool.and_eq_true_iff.mpr ⟨rfl, List.all_eq_true.mpr (List.forall_mem_singleton.mpr
      (Bool.and_eq_true_iff.mpr ⟨hname, rfl⟩))⟩

/-- A module imports a reserved word where one of its modules is spelled with one. -/
theorem any_importsKeyword_iff (hneeded : Needed c path t named others components) :
    (fixedImports ++ neededImports named others components).any Statement.importsKeyword = true ↔
      ∃ m, ImportsModule c path t m ∧ (Module.dottedParts m).any isKeyword = true := by
  have hfixed : fixedImports.any Statement.importsKeyword = false := by decide
  have hmap : (neededImports named others components).any Statement.importsKeyword =
      (named ++ others ++ components.map Prod.snd).any
        fun m => (Module.dottedParts m).any isKeyword := by
    simp only [neededImports, List.any_append, List.any_map]
    rfl
  rw [List.any_append, hfixed, Bool.false_or, hmap, List.any_eq_true]
  exact exists_congr fun m => and_congr_left fun _ => mem_modules_iff hneeded m

/-! ## Modules -/

/-- The class of a template is a legible block. -/
theorem legible_componentClass (h : Legible c path t) (ht : Template.ofChars content.toList = .ok t)
    {body : List Statement} (hbody : ∀ s ∈ body, s.IsLegibleInside) :
    (componentClass t path body).isLegible = true := by
  have hname : isName (componentName path) = true := by
    rw [isName, h.component, isKeyword_componentName]
    rfl
  have hdoc : ("Generated from " ++ path ++ ".").toList.getLast? = some '.' := by
    rw [String.toList_append]
    exact List.getLast?_concat
  have hmembers : ∀ s ∈ surface t path ++ [initializer t, renderer t body],
      s.IsLegibleInside := by
    rw [List.forall_mem_append]
    exact ⟨inside_surface t path, List.forall_mem_cons.mpr ⟨inside_initializer h ht,
      List.forall_mem_singleton.mpr (inside_renderer h ht hbody)⟩⟩
  obtain ⟨himports, hlegible⟩ := Statement.block_of_inside hmembers
  have hbase : isName baseName = true := by decide
  rw [componentClass, Statement.isLegible, hname, hbase, hdoc, himports, hlegible]
  rfl

theorem height_of_mem_surface {s : Statement} (hs : s ∈ surface t path) : s.height = 0 := by
  simp only [surface, assignName, List.mem_cons, List.not_mem_nil, or_false] at hs
  rcases hs with rfl | rfl | rfl | rfl <;> rw [Statement.height]

theorem shallow_initializer (t : Template) : Shallow 1 (initializer t) := by
  refine shallow_function fun s hs => ?_
  split at hs
  · rw [List.mem_singleton.mp hs, Shallow, Statement.height]
  · obtain ⟨q, -, rfl⟩ := List.mem_map.mp hs
    rw [Shallow, Statement.height]

theorem shallow_renderer (t : Template) {body : List Statement} {k : Nat}
    (hbody : ∀ s ∈ body, Shallow k s) : Shallow (k + 1) (renderer t body) := by
  have hprepare : ∀ s ∈ preparations t, Shallow k s := by
    intro s hs
    rcases mem_preparations hs with ⟨q, -, rfl⟩ | rfl
    · rw [Shallow, Statement.height]
      exact Nat.zero_le k
    · rw [Shallow, contentBinding, Statement.height]
      exact Nat.zero_le k
  rw [renderer_eq, List.append_assoc, List.append_assoc, ← List.append_assoc bufferStart]
  exact shallow_function (List.forall_mem_append.mpr ⟨hprepare, shallow_buffer hbody⟩)

/-- No block of the class is too deep. -/
theorem shallow_componentClass (t : Template) (path : String) {body : List Statement} {k : Nat}
    (hbody : ∀ s ∈ body, Shallow k s) : Shallow (k + 2) (componentClass t path body) := by
  rw [Shallow, componentClass, Statement.height]
  refine Nat.succ_le_succ (Statement.blockHeight_le_iff.mpr ?_)
  rw [List.forall_mem_append, List.forall_mem_cons, List.forall_mem_singleton]
  exact ⟨fun s hs => Nat.le_trans (Nat.le_of_eq (height_of_mem_surface hs)) (Nat.zero_le _),
    Nat.le_trans (shallow_initializer t) (Nat.succ_le_succ (Nat.zero_le k)),
    shallow_renderer t hbody⟩

theorem height_of_mem_header {f : Findings} {s : Statement} (hs : s ∈ header t f) :
    s.height = 0 := by
  rcases import_of_mem_header hs with ⟨m, rfl⟩ | ⟨m, names, rfl⟩ <;> rw [Statement.height]

/-- Where the names of a template are names, the text of its document can be read just if no module
that it imports is called by a reserved word. -/
theorem outline_of_document_iff {document : Document}
    (hdocument : Document.generate c path content = .ok document)
    (ht : Template.ofChars content.toList = .ok t) (h : Legible c path t) :
    (∃ parts, Code.Outline.read document.code = .ok parts) ↔
      ∀ m, ImportsModule c path t m → ∀ s ∈ Module.dottedParts m, isKeyword s = false := by
  obtain ⟨_, hread, hcompile⟩ := generate_eq_ok hdocument
  obtain rfl := Except.ok.inj (ht.symm.trans hread)
  obtain ⟨p, hp, htext, -⟩ := compile_eq_ok hcompile
  obtain ⟨-, -, -, -, hcode⟩ := moduleText_eq_ok htext
  have hneeded := needed_of_read ht hp
  have hbody : ∀ s ∈ p.draft.finish, s.IsLegibleInside := written_body (written_legible h) hp
  have hshallow : ∀ s ∈ p.draft.finish, Shallow (bodyLayers c t.body) s :=
    (height_writeNodes t.body _ (Nat.le_refl _) _ p
      (Draft.all_empty fun _ => shallow_appending _ _) hp).finish
  have hlegible : Statement.areLegible (moduleOf t path p) = true := by
    rw [Statement.areLegible_iff, moduleOf, header_eq, List.forall_mem_append,
      List.forall_mem_append, List.forall_mem_singleton]
    exact ⟨⟨Statement.areLegible_iff.mp (by decide), legible_neededImports hneeded h⟩,
      legible_componentClass h ht hbody⟩
  have hheight : Statement.blockHeight (moduleOf t path p) ≤ marginLimit := by
    rw [Statement.blockHeight_le_iff, moduleOf, List.forall_mem_append, List.forall_mem_singleton]
    exact ⟨fun s hs => Nat.le_trans (Nat.le_of_eq (height_of_mem_header hs)) (Nat.zero_le _),
      Nat.le_trans (shallow_componentClass t path hshallow) h.nested⟩
  have hne : moduleOf t path p ≠ [] := List.append_ne_nil_of_right_ne_nil _ (List.cons_ne_nil _ _)
  have hoverall : (moduleOf t path p).any Statement.importsKeyword = true ↔
      ∃ m, ImportsModule c path t m ∧ (Module.dottedParts m).any isKeyword = true := by
    have hclass : (componentClass t path p.draft.finish).importsKeyword = false := rfl
    rw [moduleOf, header_eq, List.any_append, List.any_cons, hclass, List.any_nil, Bool.or_false,
      Bool.or_false]
    exact any_importsKeyword_iff hneeded
  rw [hcode, Statement.read_text hne hlegible hheight]
  cases hkeyword : (moduleOf t path p).any Statement.importsKeyword with
  | true =>
    obtain ⟨m, hm, hreserved⟩ := hoverall.mp hkeyword
    obtain ⟨s, hs, hword⟩ := List.any_eq_true.mp hreserved
    constructor
    · rintro ⟨parts, hparts⟩
      cases hparts
    · intro hnone
      cases (hnone m hm s hs).symm.trans hword
  | false =>
    refine ⟨fun _ m hm s hs => Bool.eq_false_iff.mpr fun hword => ?_, fun _ => ⟨_, rfl⟩⟩
    have htrue := hoverall.mpr ⟨m, hm, List.any_eq_true.mpr ⟨s, hs, hword⟩⟩
    cases hkeyword.symm.trans htrue

end Legible

/-! ## A page with a title -/

def titledText : String :=
  "@using widgets\n@param title\n<widgets.Badge>{{ title }}</widgets.Badge>"

theorem read_title : Expr.read "title" = .ok (.name "title") := by rfl

def titledPage : Template := ⟨[⟨⟨2, 0⟩, "title", none, none⟩], [⟨⟨1, 0⟩, "widgets"⟩], [
  .element ⟨3, 0⟩ "widgets.Badge" [] [.output ⟨3, 15⟩ ⟨"title", .name "title", read_title⟩]
    .paired]⟩

theorem read_titledPage : Template.ofChars titledText.toList = .ok titledPage := by rfl

/-- What is written for the page: a badge with the title as its content. -/
def titledBody : List Statement := [
  contentFunction 1 [Draft.appending (Progress.escaped (.name "title"))], filledBadgeCall 1]

theorem writeNodes_titledPage (own : String) :
    ∃ p, writeNodes widgetsContext own ⟨.empty, .empty⟩ titledPage.body = .ok p ∧
      p.draft.finish = titledBody ∧ p.findings.externals = ["widgets"] ∧
      p.findings.imports = ∅ := by
  have htag : Template.isComponentTag "widgets.Badge" = true := by decide
  have hbinding : binding? widgetsContext "widgets.Badge" = some badgeBinding := by
    rw [binding?, if_pos htag, resolve_badge]
  have hexternal : badgeBinding.isExternal = true := rfl
  simp only [titledPage, writeNodes, writeNode, hbinding, targetOf, hexternal, if_true, read_badge,
    Findings.use_eq]
  exact ⟨_, rfl, rfl, rfl, rfl⟩

def titledModule : List Statement :=
  fixedImports ++ [.importModule "widgets"] ++ [componentClass titledPage "Page.tpl" titledBody]

theorem exists_titledDocument :
    ∃ document, Document.generate widgetsContext "Page.tpl" titledText = .ok document := by
  obtain ⟨p, hp, hdraft, hexternals, himports⟩ := writeNodes_titledPage (componentName "Page.tpl")
  have hheader : header titledPage p.findings = fixedImports ++ [.importModule "widgets"] := by
    have hentries : p.findings.imports.entries = [] := by rw [himports]; rfl
    simp [header, usedModules, titledPage, hexternals, hentries, Module.sortNames, sortImports]
  have htext : moduleText "Page.tpl" titledModule = .ok (Statement.text titledModule) :=
    moduleText_of_unrefusable (by decide +kernel) (by decide +kernel) (by decide +kernel)
  rw [titledModule, ← hheader, ← hdraft] at htext
  rw [Document.generate, read_titledPage]
  simp only [compile, hp, htext]
  exact ⟨_, rfl⟩

theorem uses_titledPage : titledPage.uses = [⟨⟨3, 0⟩, "widgets.Badge", []⟩] := by
  have htag : Template.isComponentTag "widgets.Badge" = true := by decide
  simp [titledPage, Template.uses, Template.bodyUses, Template.Node.uses, htag]

theorem imported_titledPage {m : String}
    (h : ImportsModule widgetsContext "Page.tpl" titledPage m) : m = "widgets" := by
  rcases h with ⟨u, hu, rfl⟩ | ⟨u, hu, b, hresolve, rfl, -⟩
  · rw [List.mem_singleton.mp hu]
  · rw [uses_titledPage, List.mem_singleton] at hu
    rw [hu, resolve_badge] at hresolve
    rw [← Option.some.inj hresolve]
    rfl

theorem legible_titledPage : Legible widgetsContext "Page.tpl" titledPage where
  component := by decide +kernel
  params q hq := by
    rw [List.mem_singleton.mp hq]
    decide +kernel
  expressions e he := by
    have hexpressions : titledPage.expressions = [⟨"title", .name "title", read_title⟩] := rfl
    rw [hexpressions, List.mem_singleton] at he
    rw [he]
    exact Code.isLegible_name (by decide)
  targets u hu b target hresolve htarget := by
    rw [uses_titledPage, List.mem_singleton] at hu
    rw [hu, resolve_badge] at hresolve
    obtain rfl := Option.some.inj hresolve
    have hexternal : badgeBinding.isExternal = true := rfl
    rw [hu, targetOf, if_pos hexternal, read_badge] at htarget
    obtain rfl := Except.ok.inj htarget
    exact Code.isLegible_attribute (by decide) (by decide)
  modules m hm := by
    rw [imported_titledPage hm]
    decide +kernel
  nested := by
    have hbinding : binding? widgetsContext "widgets.Badge" = some badgeBinding := by
      have htag : Template.isComponentTag "widgets.Badge" = true := by decide
      rw [binding?, if_pos htag, resolve_badge]
    have hlayers : bodyLayers widgetsContext titledPage.body = 1 := by
      simp [titledPage, bodyLayers, layers, hbinding]
    rw [hlayers]
    decide

/-- The document of the page can be read, since no module of it is called by a reserved word. -/
theorem outline_of_document_iff_titled : ∃ document parts,
    Document.generate widgetsContext "Page.tpl" titledText = .ok document ∧
    Legible widgetsContext "Page.tpl" titledPage ∧
    Code.Outline.read document.code = .ok parts := by
  obtain ⟨document, hdocument⟩ := exists_titledDocument
  have hmodules : ∀ m, ImportsModule widgetsContext "Page.tpl" titledPage m →
      ∀ s ∈ Module.dottedParts m, LivePreview.Text.isKeyword s = false := by
    intro m hm
    rw [imported_titledPage hm]
    decide +kernel
  obtain ⟨parts, hparts⟩ :=
    (outline_of_document_iff hdocument read_titledPage legible_titledPage).mpr hmodules
  exact ⟨document, parts, hdocument, legible_titledPage, hparts⟩

end Component

end LivePreview
