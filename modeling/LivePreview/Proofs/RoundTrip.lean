import LivePreview.Proofs.Lines
import LivePreview.Proofs.Signatures
import LivePreview.Proofs.Trailers

/-!
# Expressions are read back

The text of an expression is read as the expression again: its names come back in normal form and
its fractions as their digits spell them, and nothing else changes. By induction on the expression
every form is read back at every level that a place can ask for.
-/

namespace LivePreview.Code

open Reader
open LivePreview.Text (normalForm)

section Parts

variable {es : List Expr}

theorem AreKept.rereads (h : AreKept es) (hvalues : es.all (·.isValue) = true) :
    ∀ e ∈ es, e.Rereads := by
  induction es with
  | nil => nofun
  | cons e es ih =>
    rw [AreKept] at h
    rw [List.all_cons, Bool.and_eq_true] at hvalues
    exact List.forall_mem_cons.mpr ⟨h.1.rereads hvalues.1, ih h.2 hvalues.2⟩

theorem isStarred_of_isValue_reread {e : Expr} (h : e.isValue = true) :
    isStarred e.reread = false := by
  rw [isStarred_reread]
  exact isStarred_of_isValue h

/-- What begins no expression and is no star begins no item. -/
theorem Expr.Kept.head_ne {e : Expr} (hk : e.Kept) (hitem : e.isItem = true) {t : Token}
    (ht : t.opens < Level.test) (hstar : t ≠ .symbol "*") :
    (e.tokens Level.test).head? ≠ some t := by
  by_cases hstarred : ∃ v, e = .starred v
  · obtain ⟨v, rfl⟩ := hstarred
    rw [Expr.tokens]
    exact fun h => hstar (Option.some.inj h).symm
  · have hvalue : e.isValue = true := by
      cases e with
      | starred v => exact absurd ⟨v, rfl⟩ hstarred
      | _ => simpa [Expr.isItem, isStarred] using hitem
    have he := (hk.rereads hvalue _ (Nat.le_refl _) (by decide)).head_ne ht []
    rwa [List.append_nil] at he

end Parts

/-! ## Forms -/

section Forms

variable {e l r v i t b o : Expr} {es : List Expr}

theorem rereads_tuple (h : AreKept es) (hslices : (Expr.tuple es).isValue = true)
    (hitems : es.all (·.isIndexItem) = true) : (Expr.tuple es).Rereads := by
  have hall : es.all (·.isItem) = true := by
    rw [Expr.isValue, Bool.not_eq_true', List.any_eq_false] at hslices
    rw [List.all_eq_true] at hitems ⊢
    intro e he
    have hitem := hitems e he
    rwa [Expr.isIndexItem, Bool.eq_false_iff.mpr (hslices e he), Bool.false_or] at hitem
  have hyield : ∀ ts ∈ (listTokens Level.test es).head?, ts.head? ≠ some (.keyword "yield") := by
    rintro ts hts
    cases es with
    | nil =>
      rw [listTokens] at hts
      cases hts
    | cons e es =>
      rw [listTokens] at hts
      cases hts
      rw [AreKept] at h
      rw [List.all_cons, Bool.and_eq_true] at hall
      exact h.1.head_ne hall.1 (by decide) (by simp)
  intro level htest hatom
  have hlevel : Level.tuple < level := Nat.lt_of_lt_of_le (by decide) htest
  rw [Expr.tokens, Expr.reread, decide_eq_true hlevel, Bool.or_true]
  exact (reads_tuple (starItems_reread h hall) hyield).widen htest hatom (Nat.le_refl _)

theorem rereads_binary {op : BinaryOp} (hl : l.Rereads) (hr : r.Rereads) :
    (Expr.binary l op r).Rereads := by
  have hlevels : Level.test ≤ op.level ∧ op.level < Level.atom ∧ Level.test ≤ op.leftLevel ∧
      op.leftLevel ≤ Level.atom ∧ Level.test ≤ op.rightLevel ∧ op.rightLevel ≤ Level.atom := by
    cases op <;> decide
  obtain ⟨htest, hatom, hleft, hleftAtom, hright, hrightAtom⟩ := hlevels
  refine rereads_of_own htest hatom (fun level => by rw [Expr.tokens]) rfl ?_
  have hls := hl _ hleft hleftAtom
  have hrs := hr _ hright hrightAtom
  rw [Expr.reread]
  by_cases hpow : op = .pow
  · subst hpow
    exact reads_pow hls hrs
  · have hnext : op.leftLevel = op.level ∧ op.rightLevel = op.level + 1 := by
      cases op <;> first | exact absurd rfl hpow | exact ⟨rfl, rfl⟩
    rw [hnext.1] at hls ⊢
    rw [hnext.2] at hrs ⊢
    exact reads_binary hpow hls hrs

theorem rereads_unary {op : UnaryOp} (hv : v.Rereads) : (Expr.unary op v).Rereads := by
  have hlevels : Level.test ≤ op.level ∧ op.level < Level.atom := by cases op <;> decide
  refine rereads_of_own hlevels.1 hlevels.2 (fun level => by rw [Expr.tokens]) rfl ?_
  have hvs := hv _ hlevels.1 (Nat.le_of_lt hlevels.2)
  rw [Expr.reread]
  by_cases hnot : op = .not
  · subst hnot
    exact reads_not hvs
  · have hsign : op.level = Level.sign := by
      cases op <;> first | exact absurd rfl hnot | rfl
    rw [hsign] at hvs ⊢
    exact reads_sign hnot hvs

theorem rereads_set (h : AreKept es) (hne : es.isEmpty = false)
    (hitems : es.all (·.isItem) = true) : (Expr.set es).Rereads := by
  refine rereads_of_atom (fun level => by rw [Expr.tokens]) ?_
  cases es with
  | nil => cases hne
  | cons e es =>
    have hall := starItems_reread h hitems
    rw [AreKept] at h
    rw [List.all_cons, Bool.and_eq_true] at hitems
    rw [listTokens, listReread] at hall
    rw [Expr.reread, listTokens, listReread]
    exact reads_set hall (h.1.head_ne hitems.1 (by decide) (by simp))

theorem rereads_comprehension {collects : Collects} {clauses : List Clause} (hv : v.Rereads)
    (hvalue : v.isValue = true) (hne : clauses.isEmpty = false)
    (hclauses : ∀ c ∈ clauses, c.Rereads) : (Expr.comprehension collects v clauses).Rereads := by
  have hread := reads_comprehension collects (hv _ (Nat.le_refl _) (by decide))
    (isStarred_of_isValue_reread hvalue) (List.isEmpty_eq_false_iff.mp hne) hclauses
  refine rereads_of_atom (fun level => ?_) hread
  cases collects <;> rw [Expr.tokens]

/-- A form that always has parentheses, or has them at every level of a value. -/
theorem rereads_of_parenthesized (own : Nat) {ts : List Token} (hown : own < Level.test)
    (htokens : ∀ level, e.tokens level = parenthesizedTokens (own < level) ts)
    (h : Reads Level.atom (.symbol "(" :: (ts ++ [.symbol ")"])) e.reread) : e.Rereads := by
  intro level htest hatom
  rw [htokens, decide_eq_true (Nat.lt_of_lt_of_le hown htest)]
  exact h.widen htest hatom (Nat.le_refl _)

end Forms

/-! ## All expressions -/

theorem mem_parts (e : Expr) : e ∈ e.parts := by
  cases e <;> rw [Expr.parts] <;> exact List.mem_cons_self

mutual

/-- An expression whose parts have their places is read back, and so is each of its parts. -/
theorem Expr.kept (e : Expr) (h : WellPlaced e.parts) : e.Kept := by
  cases e <;> rw [Expr.parts, wellPlaced_cons] at h <;> obtain ⟨hself, h⟩ := h <;>
    simp only [Expr.wellPlaced, Bool.and_eq_true, wellPlaced_append] at hself h
  case constant k =>
    exact fun _ => rereads_of_atom (fun level => by rw [Expr.tokens]) (reads_constant hself)
  case name id => exact fun _ => rereads_of_atom (fun level => by rw [Expr.tokens]) (reads_name id)
  case «attribute» v id =>
    have hv := (v.kept h).rereads hself.1
    exact fun _ => rereads_of_atom (fun level => by rw [Expr.tokens])
      (reads_attribute (hv _ (by decide) (Nat.le_refl _)) id)
  case subscript v i =>
    have hv := (v.kept h.1).rereads hself.1
    refine fun _ => rereads_of_atom (fun level => ?_)
      (reads_subscript (hv _ (by decide) (Nat.le_refl _)) (i.kept h.2) hself.2
        (h.2 i (mem_parts i)))
    rw [Expr.tokens.eq_def]
    rfl
  case slice l u s =>
    exact ⟨optionKept l h.1.1 hself.1.1, optionKept u h.1.2 hself.1.2, optionKept s h.2 hself.2⟩
  case starred v => exact (v.kept h).rereads hself
  case call f args ks =>
    have hf := (f.kept h.1.1).rereads hself.1.1
    exact fun _ => rereads_of_atom (fun level => by rw [Expr.tokens])
      (reads_call (hf _ (by decide) (Nat.le_refl _)) (listKept args h.1.2) hself.1.2
        (keywordsKept ks h.2 hself.2))
  case tuple es =>
    have hes := listKept es h
    exact ⟨hes, fun hvalue => rereads_tuple hes hvalue hself⟩
  case list es =>
    exact fun _ => rereads_of_atom (fun level => by rw [Expr.tokens])
      (reads_list (starItems_reread (listKept es h) hself))
  case set es =>
    exact fun _ => rereads_set (listKept es h) (by simpa using hself.1) hself.2
  case mapping items =>
    exact fun _ => rereads_of_atom (fun level => by rw [Expr.tokens])
      (reads_mapping (mappingKept items h hself))
  case boolean op es =>
    have hlevels : Level.test ≤ op.level ∧ op.level < Level.atom := by cases op <;> decide
    exact fun _ => rereads_of_own hlevels.1 hlevels.2 (fun level => by rw [Expr.tokens]) rfl
      (reads_boolean (of_decide_eq_true hself.1) ((listKept es h).rereads hself.2))
  case binary l op r =>
    exact fun _ => rereads_binary ((l.kept h.1).rereads hself.1) ((r.kept h.2).rereads hself.2)
  case unary op v => exact fun _ => rereads_unary ((v.kept h).rereads hself)
  case compare v rest =>
    have hv := (v.kept h.1).rereads hself.1.1
    exact fun _ => rereads_of_own (by decide) (by decide)
      (fun level => by rw [Expr.tokens]; rfl) rfl
      (reads_compare (hv _ (by decide) (by decide)) (by simpa using hself.1.2)
        (comparisonsKept rest h.2 hself.2))
  case conditional t b o =>
    have ht := (t.kept h.1.2).rereads hself.1.1
    have hb := (b.kept h.1.1).rereads hself.1.2
    have ho := (o.kept h.2).rereads hself.2
    exact fun _ => rereads_of_own (Nat.le_refl _) (by decide)
      (fun level => by rw [Expr.tokens]; rfl) rfl
      (reads_conditional (hb _ (by decide) (by decide)) (ht _ (by decide) (by decide))
        (ho _ (Nat.le_refl _) (by decide)))
  case lambda ps b =>
    have hb := (b.kept h.2).rereads hself.2
    exact fun _ => rereads_of_own (Nat.le_refl _) (by decide) (fun level => by rw [Expr.tokens]) rfl
      (reads_lambda (paramsKept ps h.1 0 false hself.1) hself.1 (hb _ (Nat.le_refl _) (by decide)))
  case comprehension k v cs =>
    exact fun _ => rereads_comprehension ((v.kept h.1).rereads hself.1.1) hself.1.1
      (by simpa using hself.1.2) (clausesKept cs h.2 hself.2)
  case mappingComprehension k v cs =>
    have hk := (k.kept h.1.1).rereads hself.1.1.1
    have hv := (v.kept h.1.2).rereads hself.1.1.2
    exact fun _ => rereads_of_atom (fun level => by rw [Expr.tokens])
      (reads_mappingComprehension (hk _ (Nat.le_refl _) (by decide))
        (hv _ (Nat.le_refl _) (by decide)) (by simpa using hself.1.2)
        (clausesKept cs h.2 hself.2))
  case assignment id v =>
    have hv := (v.kept (wellPlaced_cons.mp h).2).rereads hself.2
    refine fun _ => rereads_of_atom (fun level => by rw [Expr.tokens]; rfl)
      (reads_assignment id ((hv Level.atom (by decide) (Nat.le_refl _)).widen (Nat.le_refl _)
        (by decide) (Nat.le_refl _)))
  case yield v =>
    cases v with
    | none =>
      exact fun _ => rereads_of_parenthesized Level.yield (by decide)
        (fun level => by rw [Expr.tokens])
        reads_yield_none
    | some v =>
      have hv := optionKept (some v) h hself v rfl
      exact fun _ => rereads_of_parenthesized Level.yield (by decide)
        (fun level => by rw [Expr.tokens])
        (reads_yield (hv _ (by decide) (Nat.le_refl _)))
  case yieldFrom v =>
    have hv := (v.kept h).rereads hself
    exact fun _ => rereads_of_parenthesized Level.yield (by decide)
        (fun level => by rw [Expr.tokens])
      (reads_yieldFrom ((hv Level.atom (by decide) (Nat.le_refl _)).widen (Nat.le_refl _)
        (by decide) (Nat.le_refl _)))
  case await v =>
    have hv := (v.kept h).rereads hself
    exact fun _ => rereads_of_own (by decide) (by decide) (fun level => by rw [Expr.tokens]) rfl
      (reads_await (hv _ (by decide) (Nat.le_refl _)))
  case format ps => cases hself

theorem optionKept (e : Option Expr) (h : WellPlaced (optionParts e))
    (hvalue : e.all (·.isValue) = true) : OptionRereads e := by
  cases e <;> rw [optionParts] at h
  case none => exact nofun
  case some e =>
    rintro a ha
    cases ha
    exact (e.kept h).rereads hvalue

theorem listKept (es : List Expr) (h : WellPlaced (listParts es)) : AreKept es := by
  cases es <;> rw [listParts] at h <;> rw [AreKept]
  case nil => trivial
  case cons e es =>
    rw [wellPlaced_append] at h
    exact ⟨e.kept h.1, listKept es h.2⟩

theorem keywordsKept (ks : List Keyword) (h : WellPlaced (keywordParts ks))
    (hplaced : ks.all (·.wellPlaced) = true) : ∀ k ∈ ks, k.Rereads := by
  rcases ks with _ | ⟨_ | _, ks⟩
  case nil => nofun
  case cons.named id v =>
    rw [keywordParts, wellPlaced_append] at h
    rw [List.all_cons, Bool.and_eq_true, Keyword.wellPlaced, Bool.and_eq_true] at hplaced
    exact List.forall_mem_cons.mpr
      ⟨(v.kept h.1).rereads hplaced.1.2, keywordsKept ks h.2 hplaced.2⟩
  case cons.unpacked v =>
    rw [keywordParts, wellPlaced_append] at h
    rw [List.all_cons, Bool.and_eq_true] at hplaced
    exact List.forall_mem_cons.mpr
      ⟨(v.kept h.1).rereads hplaced.1, keywordsKept ks h.2 hplaced.2⟩

theorem mappingKept (items : List MappingItem) (h : WellPlaced (mappingParts items))
    (hplaced : items.all (·.wellPlaced) = true) : ∀ item ∈ items, item.Rereads := by
  rcases items with _ | ⟨_ | _, items⟩
  case nil => nofun
  case cons.pair k v =>
    rw [mappingParts, wellPlaced_append, wellPlaced_append] at h
    rw [List.all_cons, Bool.and_eq_true, MappingItem.wellPlaced, Bool.and_eq_true] at hplaced
    exact List.forall_mem_cons.mpr
      ⟨⟨(k.kept h.1.1).rereads hplaced.1.1, (v.kept h.1.2).rereads hplaced.1.2⟩,
        mappingKept items h.2 hplaced.2⟩
  case cons.unpacked v =>
    rw [mappingParts, wellPlaced_append] at h
    rw [List.all_cons, Bool.and_eq_true] at hplaced
    exact List.forall_mem_cons.mpr
      ⟨(v.kept h.1).rereads hplaced.1, mappingKept items h.2 hplaced.2⟩

theorem comparisonsKept (rest : List Comparison) (h : WellPlaced (comparisonParts rest))
    (hplaced : rest.all (·.wellPlaced) = true) : ∀ op v, .step op v ∈ rest → v.Rereads := by
  rcases rest with _ | ⟨⟨op, v⟩, rest⟩
  case nil => nofun
  case cons =>
    rw [comparisonParts, wellPlaced_append] at h
    rw [List.all_cons, Bool.and_eq_true] at hplaced
    have hv := (v.kept h.1).rereads hplaced.1
    have hrest := comparisonsKept rest h.2 hplaced.2
    rintro op' v' hmem
    rcases List.mem_cons.mp hmem with heq | hmem
    · cases heq
      exact hv
    · exact hrest op' v' hmem

theorem clausesKept (cs : List Clause) (h : WellPlaced (clauseParts cs))
    (hplaced : cs.all (·.wellPlaced) = true) : ∀ c ∈ cs, c.Rereads := by
  rcases cs with _ | ⟨⟨isAsync, t, s, conditions⟩, cs⟩
  case nil => nofun
  case cons =>
    rw [clauseParts, wellPlaced_append, wellPlaced_append, wellPlaced_append] at h
    rw [List.all_cons, Bool.and_eq_true, Clause.wellPlaced, Bool.and_eq_true, Bool.and_eq_true]
      at hplaced
    obtain ⟨⟨⟨htarget, hsource⟩, hconditions⟩, hothers⟩ := hplaced
    exact List.forall_mem_cons.mpr
      ⟨⟨htarget, t.kept h.1.1.1, (s.kept h.1.1.2).rereads hsource,
        (listKept conditions h.1.2).rereads hconditions⟩, clausesKept cs h.2 hothers⟩

theorem paramsKept (ps : List LambdaParam) (h : WellPlaced (lambdaParts ps)) (last : Nat)
    (hasDefault : Bool) (horder : paramsInOrder last hasDefault ps = true) :
    DefaultsReread ps := by
  rcases ps with _ | ⟨⟨kind, id, default⟩, ps⟩
  case nil => nofun
  case cons =>
    rw [lambdaParts, wellPlaced_append] at h
    rw [paramsInOrder, Bool.and_eq_true, Bool.and_eq_true, Bool.and_eq_true] at horder
    obtain ⟨⟨⟨-, hvalue⟩, -⟩, horder⟩ := horder
    have hdefault := optionKept default h.1 hvalue
    have hothers := paramsKept ps h.2 _ _ horder
    rintro kind' id' d hmem
    rcases List.mem_cons.mp hmem with heq | hmem
    · cases heq
      exact hdefault
    · exact hothers kind' id' d hmem

end

/-! ## Texts of expressions -/

/-- Whether the brackets of the expression can be open behind as many others. -/
def Expr.nests (others : Nat) (e : Expr) : Bool :=
  ((Layout.mk [] (List.replicate others '(')).follow (e.tokens Level.test)).isSome

section Texts

variable {e : Expr}

theorem Expr.fits_of_nests (h : WellPlaced e.parts) {others : Nat}
    (hnests : e.nests others = true) :
    Fits others (e.tokens Level.test) := by
  obtain ⟨l, hl⟩ := Option.isSome_iff_exists.mp hnests
  have hfits := ((e.isSpelled h).closes Level.test).balanced.fits hl
  rwa [List.length_replicate] at hfits

theorem Expr.rereads (h : WellPlaced e.parts) (hvalue : e.isValue = true) : e.Rereads :=
  (e.kept h).rereads hvalue

/-- The text of an expression is read as the expression again, with its names in normal form. -/
theorem Expr.read_text (h : WellPlaced e.parts) (hvalue : e.isValue = true)
    (hnests : e.nests 0 = true) : Expr.read e.text = .ok e.reread := by
  have hphrase := (e.isSpelled h).closes Level.test
  have hread := e.rereads h hvalue Level.test (Nat.le_refl _) (by decide)
  obtain ⟨c, cs, hcons, hc, -⟩ := (e.isSpelled h).opens hvalue (Nat.le_refl Level.test)
  have htext : e.text.toList = c :: cs := by
    rw [Expr.text, String.toList_ofList, hcons]
  rw [hcons] at hphrase
  have htokens : Code.tokens (unifyNewlines (c :: cs)) = some (e.tokens Level.test) := by
    rw [unifyNewlines_clean hphrase.clean]
    exact hphrase.tokens hc hnests
  have hnull : '\x00' ∉ c :: cs := fun hmem => hphrase.clean _ hmem (.inl rfl)
  have hlength := hphrase.length_le
  have hexpression : (Within.ofLength (c :: cs).length).expression (e.tokens Level.test) =
      some (e.reread, []) := by
    have hwhole := hread.read (show _ ≤ (c :: cs).length + 2 by omega) stops_nil
    rw [List.append_nil] at hwhole
    exact hwhole
  have htuple : ((Within.ofLength (c :: cs).length).tupleOf
      (Within.ofLength (c :: cs).length).expression) (e.tokens Level.test) =
      some (e.reread, []) := by
    unfold Within.tupleOf acceptSymbol
    rw [bind_of_eq hexpression, accept_bind (by simp)]
    rfl
  unfold Expr.read
  rw [htext, if_neg (by simpa using hnull)]
  unfold Expr.ofChars?
  simp only [htokens, StateT.run, htuple, Option.bind_eq_bind, Option.bind_some]
  rfl

end Texts

end LivePreview.Code
