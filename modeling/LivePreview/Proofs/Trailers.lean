import LivePreview.Proofs.Displays

/-!
# What follows an expression is read back

An attribute, the arguments of a call and the index of a subscript make a larger atom of the
expression before them. Keyword arguments come last, so no argument is refused for its place.
-/

namespace LivePreview.Code

open Reader
open LivePreview.Text (normalForm)

section Trailers

variable {ts us rest : List Token} {tss : List (List Token)} {e v i : Expr} {depth : Nat}

theorem reads_attribute (h : Reads Level.atom ts v) (id : String) :
    Reads Level.atom (ts ++ [.symbol ".", .name id]) (.attribute v (normalForm id)) :=
  h.grown rfl (List.cons_ne_nil _ _) (stops_cons (by decide)) fun _ _ _ _ => rfl

/-! ## Arguments -/

theorem argument_value (h : Reads Level.test ts v) :
    ReadsItem Parted (fun w => w.argument false false) ts (.positional v) := by
  refine ⟨h.starts (by decide), fun depth rest hdepth hrest => ?_⟩
  have hnamed := h.named hdepth (hrest.stops (by decide)) (hrest.head_ne (by decide))
  have hkey := h.isNameBefore (s := "=") (Nat.le_refl _) (by decide) (by decide)
    (hrest.head_ne (by decide))
  unfold Within.argument acceptSymbol
  rw [accept_bind (h.head_ne (by decide) _), if_neg Bool.false_ne_true,
    accept_bind (h.head_ne (by decide) _), if_neg Bool.false_ne_true, bind_of_eq hkey,
    if_neg Bool.false_ne_true, Bool.not_false, require_true_bind, bind_of_eq hnamed]
  rfl

theorem argument_starred (h : Reads Level.bitOr ts v) :
    ReadsItem Parted (fun w => w.argument false false) (.symbol "*" :: ts)
      (.positional (.starred v)) := by
  refine ⟨⟨_, rfl, by decide⟩, fun depth rest hdepth hrest => ?_⟩
  have htest : Reads Level.test ts v := h.widen (by decide) (by decide) (by decide)
  have hvalue := htest.expression (Nat.lt_of_succ_lt hdepth)
    (hrest.stops (by decide))
  unfold Within.argument acceptSymbol
  rw [List.cons_append, accept_bind_cons, if_pos rfl, Bool.not_false, require_true_bind,
    bind_of_eq hvalue]
  rfl

theorem argument_named (id : String) (h : Reads Level.test ts v) (seenKeyword seenMapping : Bool) :
    ReadsItem Parted (fun w => w.argument seenKeyword seenMapping) (.name id :: .symbol "=" :: ts)
      (.keyword (.named (normalForm id) v)) := by
  refine ⟨⟨_, rfl, by simp [closings, brackets]⟩, fun depth rest hdepth hrest => ?_⟩
  simp only [List.length_cons] at hdepth
  have hvalue := h.expression (show _ < depth by omega)
    (hrest.stops (by decide))
  unfold Within.argument acceptSymbol
  rw [List.cons_append, List.cons_append, accept_bind (by simp), if_neg Bool.false_ne_true,
    accept_bind (by simp), if_neg Bool.false_ne_true, bind_of_eq (r := isNameBefore "=") rfl,
    if_pos (by decide), bind_of_eq (r := name) rfl, bind_of_eq (r := skip) rfl, List.tail_cons,
    bind_of_eq hvalue]
  rfl

theorem argument_unpacked (h : Reads Level.test ts v) (seenKeyword seenMapping : Bool) :
    ReadsItem Parted (fun w => w.argument seenKeyword seenMapping) (.symbol "**" :: ts)
      (.keyword (.unpacked v)) := by
  refine ⟨⟨_, rfl, by decide⟩, fun depth rest hdepth hrest => ?_⟩
  have hvalue := h.expression (Nat.lt_of_succ_lt hdepth)
    (hrest.stops (by decide))
  unfold Within.argument acceptSymbol
  rw [List.cons_append, accept_bind (by simp), if_neg Bool.false_ne_true, accept_bind_cons,
    if_pos rfl, bind_of_eq hvalue]
  rfl

theorem Expr.Kept.argument (hk : e.Kept) (hitem : e.isItem = true) :
    ReadsItem Parted (fun w => w.argument false false) (e.tokens Level.test)
      (.positional e.reread) := by
  cases hstar : isStarred e with
  | true =>
    obtain ⟨v, rfl⟩ : ∃ v, e = .starred v := by
      cases e <;> first | exact ⟨_, rfl⟩ | cases hstar
    rw [Expr.tokens, Expr.reread]
    exact argument_starred (hk _ (by decide) (by decide))
  | false =>
    have hvalue : e.isValue = true := by simpa [Expr.isItem, hstar] using hitem
    exact argument_value (hk.rereads hvalue _ (Nat.le_refl _) (by decide))

/-- A keyword argument, whatever came before it. -/
def ReadsKeyword (ts : List Token) (k : Keyword) : Prop :=
  ∀ seenKeyword seenMapping,
    ReadsItem Parted (fun w => w.argument seenKeyword seenMapping) ts (.keyword k)

/-- What follows an argument: a comma, or the end. -/
def Within.moreArguments (w : Within) (generators : Bool) (rounds : Nat)
    (seenKeyword seenMapping : Bool) : Reader Arguments := do
  if ← acceptSymbol "," then w.arguments generators rounds seenKeyword seenMapping false
  else
    expectSymbol ")"
    return ⟨[], []⟩

section Argument

variable {generators seenKeyword seenMapping isFirst : Bool} {rounds : Nat}

theorem arguments_positional
    (h : ReadsItem Parted (fun w => w.argument seenKeyword seenMapping) ts (.positional v))
    (hdepth : ts.length < depth) (hrest : Parted rest)
    (hloop : isLoopNext rest = some (false, rest)) :
    (Within.ofDepth depth).arguments generators (rounds + 1) seenKeyword seenMapping isFirst
      (ts ++ rest) =
      ((Within.ofDepth depth).moreArguments generators rounds seenKeyword seenMapping >>= fun others =>
        (pure { others with positional := v :: others.positional } : Reader Arguments)) rest := by
  unfold Within.arguments acceptSymbol
  rw [accept_bind (h.head_ne (by decide) _), if_neg Bool.false_ne_true,
    bind_of_eq (h.reads depth rest hdepth hrest)]
  dsimp only
  rw [bind_of_eq hloop, Bool.and_false, if_neg Bool.false_ne_true]
  rfl

theorem arguments_keyword {k : Keyword} (h : ReadsKeyword ts k) (hdepth : ts.length < depth)
    (hrest : Parted rest) :
    (Within.ofDepth depth).arguments generators (rounds + 1) seenKeyword seenMapping isFirst
      (ts ++ rest) =
      ((Within.ofDepth depth).moreArguments generators rounds true (seenMapping || isMapping k) >>=
        fun others => (pure { others with keywords := k :: others.keywords } : Reader Arguments))
        rest := by
  have hitem := h seenKeyword seenMapping
  unfold Within.arguments acceptSymbol
  rw [accept_bind (hitem.head_ne (by decide) _), if_neg Bool.false_ne_true,
    bind_of_eq (hitem.reads depth rest hdepth hrest)]
  rfl

theorem moreArguments_nil :
    (Within.ofDepth depth).moreArguments generators rounds seenKeyword seenMapping
      (moreTokens [] ++ .symbol ")" :: rest) = some (⟨[], []⟩, rest) := rfl

theorem moreArguments_cons :
    (Within.ofDepth depth).moreArguments generators rounds seenKeyword seenMapping
      (moreTokens (ts :: tss) ++ rest) =
    (Within.ofDepth depth).arguments generators rounds seenKeyword seenMapping false
      (ts ++ (moreTokens tss ++ rest)) := by
  unfold Within.moreArguments acceptSymbol
  rw [moreTokens, commaTokens_cons, List.cons_append, List.append_assoc, accept_bind_cons,
    if_pos rfl]

theorem moreArguments_keywords {ks : List Keyword} (h : List.Forall₂ ReadsKeyword tss ks)
    (hdepth : (moreTokens tss).length ≤ depth) (hrounds : (moreTokens tss).length ≤ rounds) :
    (Within.ofDepth depth).moreArguments generators rounds seenKeyword seenMapping
      (moreTokens tss ++ .symbol ")" :: rest) = some (⟨[], ks⟩, rest) := by
  induction h generalizing rounds seenKeyword seenMapping with
  | nil => exact moreArguments_nil
  | @cons ts k tss ks hk hks ih =>
    rw [moreTokens, commaTokens_cons, List.length_cons, List.length_append] at hdepth hrounds
    obtain ⟨rounds, rfl⟩ : ∃ n, rounds = n + 1 := ⟨rounds - 1, by omega⟩
    rw [moreArguments_cons, arguments_keyword hk (by omega) (parted_moreTokens tss (by decide))]
    have hpos := (hk false false).length_pos
    rw [bind_of_eq (ih (by omega) (by omega))]
    rfl

/-- The arguments of a call, keyword arguments behind the others. -/
theorem arguments_row (generators isFirst : Bool) (rest : List Token) {kss : List (List Token)}
    {as : List Expr} {ks : List Keyword}
    (h : List.Forall₂
      (fun ts a => ReadsItem Parted (fun w => w.argument false false) ts (.positional a)) tss as)
    (hkeywords : List.Forall₂ ReadsKeyword kss ks)
    (hdepth : (commaTokens (tss ++ kss)).length < depth)
    (hrounds : (commaTokens (tss ++ kss)).length < rounds) :
    (Within.ofDepth depth).arguments generators rounds false false isFirst
      (commaTokens (tss ++ kss) ++ .symbol ")" :: rest) = some (⟨as, ks⟩, rest) := by
  induction h generalizing rounds isFirst with
  | nil =>
    obtain ⟨rounds, rfl⟩ : ∃ n, rounds = n + 1 := ⟨rounds - 1, by omega⟩
    rw [List.nil_append] at hdepth hrounds ⊢
    cases hkeywords with
    | nil => rfl
    | @cons ts k kss ks hk hks =>
      rw [commaTokens_cons, List.length_append] at hdepth hrounds
      rw [commaTokens_cons, List.append_assoc,
        arguments_keyword hk (by omega) (parted_moreTokens kss (by decide)),
        bind_of_eq (moreArguments_keywords hks (by omega) (by omega))]
      rfl
  | @cons ts a tss as ha has ih =>
    obtain ⟨rounds, rfl⟩ : ∃ n, rounds = n + 1 := ⟨rounds - 1, by omega⟩
    rw [List.cons_append, commaTokens_cons, List.length_append] at hdepth hrounds
    rw [List.cons_append, commaTokens_cons, List.append_assoc,
      arguments_positional ha (by omega) (parted_moreTokens _ (by decide))
        (isLoopNext_moreTokens (by decide))]
    have hothers : (Within.ofDepth depth).moreArguments generators rounds false false
        (moreTokens (tss ++ kss) ++ .symbol ")" :: rest) = some (⟨as, ks⟩, rest) := by
      cases hall : tss ++ kss with
      | nil =>
        obtain ⟨rfl, rfl⟩ := List.append_eq_nil_iff.mp hall
        cases has
        cases hkeywords
        exact moreArguments_nil
      | cons us uss =>
        rw [hall, moreTokens, List.length_cons] at hdepth hrounds
        rw [moreArguments_cons, ← List.append_assoc, ← commaTokens_cons, ← hall]
        rw [← hall] at hdepth hrounds
        exact ih false (by omega) (by omega)
    rw [bind_of_eq hothers]
    rfl

end Argument

theorem positional_reread {es : List Expr} (h : AreKept es) (hitems : es.all (·.isItem) = true) :
    List.Forall₂
      (fun ts a => ReadsItem Parted (fun w => w.argument false false) ts (.positional a))
      (listTokens Level.test es) (listReread es) := by
  induction es with
  | nil =>
    rw [listTokens, listReread]
    exact .nil
  | cons e es ih =>
    rw [List.all_cons, Bool.and_eq_true] at hitems
    rw [AreKept] at h
    rw [listTokens, listReread]
    exact .cons (h.1.argument hitems.1) (ih h.2 hitems.2)

def Keyword.Rereads : Keyword → Prop
  | .named _ v => v.Rereads
  | .unpacked v => v.Rereads

theorem keywords_reread {ks : List Keyword} (h : ∀ k ∈ ks, k.Rereads) :
    List.Forall₂ ReadsKeyword (keywordTokens ks) (keywordsReread ks) := by
  induction ks with
  | nil =>
    rw [keywordTokens, keywordsReread]
    exact .nil
  | cons k ks ih =>
    have hk := h k List.mem_cons_self
    have hks := ih fun j hj => h j (List.mem_cons_of_mem _ hj)
    cases k with
    | named id v =>
      rw [keywordTokens, keywordsReread]
      exact .cons (argument_named id (hk _ (Nat.le_refl _) (by decide))) hks
    | unpacked v =>
      rw [keywordTokens, keywordsReread]
      exact .cons (argument_unpacked (hk _ (Nat.le_refl _) (by decide))) hks

theorem reads_call {args : List Expr} {ks : List Keyword} (hv : Reads Level.atom ts v)
    (hargs : AreKept args) (hitems : args.all (·.isItem) = true) (hks : ∀ k ∈ ks, k.Rereads) :
    Reads Level.atom (ts ++ .symbol "(" ::
        (commaTokens (listTokens Level.test args ++ keywordTokens ks) ++ [.symbol ")"]))
      (.call v (listReread args) (keywordsReread ks)) := by
  refine hv.grown rfl (List.cons_ne_nil _ _) (stops_cons (by decide)) fun depth rest hdepth _ => ?_
  simp only [List.length_cons, List.length_append, List.length_nil] at hdepth
  have hlength : (commaTokens (listTokens Level.test args ++ keywordTokens ks)).length < depth := by
    omega
  have hrow := arguments_row true true rest (positional_reread hargs hitems) (keywords_reread hks)
    hlength hlength
  change (Within.ofDepth depth).trailer v (.symbol "(" ::
    (commaTokens (listTokens Level.test args ++ keywordTokens ks) ++ [.symbol ")"] ++ rest)) = _
  rw [List.append_assoc, List.singleton_append]
  unfold Within.trailer acceptSymbol
  rw [accept_bind (by simp), if_neg Bool.false_ne_true, accept_bind_cons, if_pos rfl]
  change ((Within.ofDepth depth).arguments true depth false false true >>= _) _ = _
  rw [bind_of_eq hrow]
  rfl

/-! ## Indexes -/

/-- An item of an index ends here. -/
def EndsIndex (rest : List Token) : Prop :=
  rest.head? = some (.symbol ",") ∨ rest.head? = some (.symbol "]")

theorem EndsIndex.parted (h : EndsIndex rest) : Parted rest := by
  rintro t ht
  rcases h with h | h
  all_goals
    rw [Option.mem_def.mp ht, Option.some.injEq] at h
    rw [h]
    decide

/-- What ends a bound of a slice. -/
def boundEnds : List Token := [.symbol ":", .symbol ",", .symbol "]"]

/-- A bound of a slice, or nothing before what ends it. -/
theorem sliceBound_option {l : Option Expr} (h : OptionRereads l)
    (hdepth : (optionTokens l).length < depth)
    (hrest : rest.head? = some (.symbol ":") ∨ EndsIndex rest) :
    (Within.ofDepth depth).sliceBound (optionTokens l ++ rest) =
      some (optionReread l, rest) := by
  have hends : ∃ t ts, rest = t :: ts ∧ t ∈ boundEnds := by
    rcases hrest with h | h | h
    all_goals
      obtain ⟨ts, hts⟩ := List.head?_eq_some_iff.mp h
      exact ⟨_, ts, hts, by decide⟩
  obtain ⟨t, ts, rfl, ht⟩ := hends
  unfold Within.sliceBound isSymbolNext
  cases l with
  | none =>
    rw [optionTokens, optionReread, List.nil_append]
    simp only [boundEnds, List.mem_cons, List.not_mem_nil, or_false] at ht
    rcases ht with rfl | rfl | rfl <;> rfl
  | some l =>
    have hl : Reads Level.test (l.tokens Level.test) l.reread :=
      h l rfl _ (Nat.le_refl _) (by decide)
    have hjoins : ∀ u ∈ boundEnds, u.joins = 0 := by decide
    rw [optionTokens] at hdepth
    rw [optionTokens, optionReread, isNext_bind (hl.head_ne (by decide) _),
      isNext_bind (hl.head_ne (by decide) _), isNext_bind (hl.head_ne (by decide) _), Bool.or_false,
      Bool.or_false, if_neg Bool.false_ne_true,
      bind_of_eq (hl.expression hdepth
        (stops_cons (by rw [hjoins t ht]; decide)))]
    rfl

/-- The step of a slice with its colon. -/
def stepTokens : Option Expr → List Token
  | none => []
  | some s => .symbol ":" :: s.tokens Level.test

theorem sliceAfter_bounds {u s : Option Expr} (lower : Option Expr) (hu : OptionRereads u)
    (hs : OptionRereads s) (hdepth : (optionTokens u).length + (stepTokens s).length < depth)
    (hrest : EndsIndex rest) :
    (Within.ofDepth depth).sliceAfter lower (optionTokens u ++ (stepTokens s ++ rest)) =
      some (.slice lower (optionReread u) (optionReread s), rest) := by
  unfold Within.sliceAfter acceptSymbol
  cases s with
  | none =>
    rw [stepTokens, List.nil_append, optionReread,
      bind_of_eq (sliceBound_option hu (by omega) (.inr hrest)),
      accept_bind (hrest.parted.head_ne (by decide))]
    rfl
  | some s =>
    rw [stepTokens, List.length_cons] at hdepth
    have hlength : (optionTokens (some s)).length < depth := by
      rw [optionTokens]
      omega
    have hstep := sliceBound_option hs hlength (.inr hrest)
    rw [optionTokens] at hstep
    rw [stepTokens, bind_of_eq (sliceBound_option hu (by omega) (.inl rfl)), List.cons_append,
      accept_bind_cons, if_pos rfl, bind_of_eq hstep]
    rfl

theorem sliceItem_slice {l u s : Option Expr} (hl : OptionRereads l) (hu : OptionRereads u)
    (hs : OptionRereads s) :
    ReadsItem EndsIndex Within.sliceItem (optionTokens l ++ .symbol ":" ::
        (optionTokens u ++ stepTokens s))
      (.slice (optionReread l) (optionReread u) (optionReread s)) := by
  cases l with
  | none =>
    rw [optionTokens, optionReread]
    refine ⟨⟨_, rfl, by decide⟩, fun depth rest hdepth hrest => ?_⟩
    simp only [List.nil_append, List.length_cons, List.length_append] at hdepth
    rw [List.nil_append, List.cons_append, List.append_assoc]
    unfold Within.sliceItem Within.slice acceptSymbol
    rw [accept_bind (by simp), if_neg Bool.false_ne_true, accept_bind_cons, if_pos rfl]
    exact sliceAfter_bounds none hu hs (by omega) hrest
  | some l =>
    have hlower : Reads Level.test (l.tokens Level.test) l.reread :=
      hl l rfl _ (Nat.le_refl _) (by decide)
    rw [optionTokens, optionReread]
    refine ⟨?_, fun depth rest hdepth hrest => ?_⟩
    · obtain ⟨t, ht, hstarts⟩ := hlower.starts (by decide)
      refine ⟨t, ?_, hstarts⟩
      rw [Option.mem_def, List.head?_append, ht]
      rfl
    · simp only [List.length_cons, List.length_append] at hdepth
      have hcolon : Stops Level.test (.symbol ":" :: (optionTokens u ++ (stepTokens s ++ rest))) :=
        stops_cons (by decide)
      have hread := hlower.expression (show _ < depth by omega) hcolon
      have hkey : isNameBefore ":=" (l.tokens Level.test ++
          .symbol ":" :: (optionTokens u ++ (stepTokens s ++ rest))) = some (false, _) :=
        hlower.isNameBefore (Nat.le_refl _) (by decide) (by decide) (by simp)
      rw [List.append_assoc, List.cons_append, List.append_assoc]
      unfold Within.sliceItem Within.slice acceptSymbol isAssignmentNext
      rw [accept_bind (hlower.head_ne (by decide) _), if_neg Bool.false_ne_true,
        accept_bind (hlower.head_ne (by decide) _), if_neg Bool.false_ne_true, bind_of_eq hkey,
        if_neg Bool.false_ne_true, bind_of_eq hread, accept_bind_cons, if_pos rfl]
      exact sliceAfter_bounds (some l.reread) hu hs (by omega) hrest

theorem sliceItem_value (h : Reads Level.test ts v) :
    ReadsItem EndsIndex Within.sliceItem ts v := by
  refine ⟨h.starts (by decide), fun depth rest hdepth hrest => ?_⟩
  have hstops : Stops Level.test rest := hrest.parted.stops (by decide)
  have hkey := h.isNameBefore (s := ":=") (Nat.le_refl _) (by decide) (by decide)
    (hrest.parted.head_ne (by decide))
  unfold Within.sliceItem Within.slice acceptSymbol isAssignmentNext
  rw [accept_bind (h.head_ne (by decide) _), if_neg Bool.false_ne_true,
    accept_bind (h.head_ne (by decide) _), if_neg Bool.false_ne_true, bind_of_eq hkey,
    if_neg Bool.false_ne_true, bind_of_eq (h.expression hdepth hstops),
    accept_bind (hrest.parted.head_ne (by decide))]
  rfl

theorem sliceItem_starred (h : Reads Level.bitOr ts v) :
    ReadsItem EndsIndex Within.sliceItem (.symbol "*" :: ts) (.starred v) := by
  refine ⟨⟨_, rfl, by decide⟩, fun depth rest hdepth hrest => ?_⟩
  have htest : Reads Level.test ts v := h.widen (by decide) (by decide) (by decide)
  have hvalue := htest.expression (Nat.lt_of_succ_lt hdepth)
    (hrest.parted.stops (by decide))
  unfold Within.sliceItem acceptSymbol
  rw [List.cons_append, accept_bind_cons, if_pos rfl, bind_of_eq hvalue]
  rfl

theorem Expr.Kept.sliceItem (hk : e.Kept) (hitem : e.isIndexItem = true) :
    ReadsItem EndsIndex Within.sliceItem (e.tokens Level.test) e.reread := by
  by_cases hslice : ∃ l u s, e = .slice l u s
  · obtain ⟨l, u, s, rfl⟩ := hslice
    have htokens : (Expr.slice l u s).tokens Level.test =
        optionTokens l ++ .symbol ":" :: (optionTokens u ++ stepTokens s) := by
      cases s with
      | none => rw [Expr.tokens, stepTokens]
      | some s => rw [Expr.tokens, stepTokens]
    rw [htokens, Expr.reread]
    exact sliceItem_slice hk.1 hk.2.1 hk.2.2
  · by_cases hstarred : ∃ v, e = .starred v
    · obtain ⟨v, rfl⟩ := hstarred
      rw [Expr.tokens, Expr.reread]
      exact sliceItem_starred (hk _ (by decide) (by decide))
    · have hvalue : e.isValue = true := by
        cases e with
        | slice l u s => exact absurd ⟨l, u, s, rfl⟩ hslice
        | starred v => exact absurd ⟨v, rfl⟩ hstarred
        | _ => simpa [Expr.isIndexItem, Expr.isItem, isSlice, isStarred] using hitem
      exact sliceItem_value (hk.rereads hvalue _ (Nat.le_refl _) (by decide))

theorem sliceItems_reread {es : List Expr} (h : AreKept es)
    (hitems : es.all (·.isIndexItem) = true) :
    List.Forall₂ (ReadsItem EndsIndex Within.sliceItem) (listTokens Level.test es)
      (listReread es) := by
  induction es with
  | nil =>
    rw [listTokens, listReread]
    exact .nil
  | cons e es ih =>
    rw [List.all_cons, Bool.and_eq_true] at hitems
    rw [AreKept] at h
    rw [listTokens, listReread]
    exact .cons (h.1.sliceItem hitems.1) (ih h.2 hitems.2)

/-- The tokens of an index; a tuple in it has no parentheses. -/
def indexTokens : Expr → List Token
  | .tuple (e :: es) => tupleTokens (listTokens Level.test (e :: es))
  | e => e.tokens Level.test

theorem index_single {ts : List Token} (h : ReadsItem EndsIndex Within.sliceItem ts i)
    (hstar : isStarred i = false) (hdepth : ts.length < depth) :
    (Within.ofDepth depth).index (ts ++ .symbol "]" :: rest) = some (i, rest) := by
  unfold Within.index acceptSymbol
  rw [bind_of_eq (h.reads depth (.symbol "]" :: rest) hdepth (.inr rfl)), accept_bind (by simp),
    if_neg Bool.false_ne_true, hstar]
  rfl

theorem index_reread (hk : i.Kept) (h : i.isIndex = true) (hparts : i.wellPlaced = true)
    (hdepth : (indexTokens i).length < depth) (rest : List Token) :
    (Within.ofDepth depth).index (indexTokens i ++ .symbol "]" :: rest) =
      some (i.reread, rest) := by
  by_cases htuple : ∃ e es, i = .tuple (e :: es)
  · obtain ⟨e, es, rfl⟩ := htuple
    rw [Expr.Kept, AreKept] at hk
    rw [Expr.wellPlaced, List.all_cons, Bool.and_eq_true] at hparts
    rw [indexTokens, listTokens, tupleTokens_cons] at hdepth ⊢
    rw [List.length_append, List.length_cons] at hdepth
    have hfirst := (hk.1.1.sliceItem hparts.1).reads depth
      (.symbol "," :: (commaTokens (listTokens Level.test es) ++ .symbol "]" :: rest)) (by omega)
      (.inl rfl)
    have hend : EndsIndex (.symbol "]" :: rest) := .inr rfl
    have hothers := sequence_commaTokens (sliceItems_reread hk.1.2 hparts.2) (by decide)
      (fun _ => .inl rfl) hend (show _ < depth by omega) (show _ ≤ depth by omega)
    unfold Within.index acceptSymbol
    rw [List.append_assoc, List.cons_append, bind_of_eq hfirst, accept_bind_cons, if_pos rfl]
    change (sequence (isNext (.symbol "]")) (Within.sliceItem (.ofDepth depth)) depth >>= _) _ = _
    rw [bind_of_eq hothers, Expr.reread, listReread]
    rfl
  · have htokens : indexTokens i = i.tokens Level.test := by
      unfold indexTokens
      split
      · exact absurd ⟨_, _, rfl⟩ htuple
      · rfl
    have hitem : i.isIndexItem = true ∧ isStarred i.reread = false := by
      cases i with
      | starred v => cases h
      | slice l u s => exact ⟨rfl, rfl⟩
      | tuple es =>
        cases es with
        | nil => exact ⟨rfl, rfl⟩
        | cons e es => exact absurd ⟨e, es, rfl⟩ htuple
      | _ => exact ⟨rfl, rfl⟩
    rw [htokens] at hdepth ⊢
    exact index_single (hk.sliceItem hitem.1) hitem.2 hdepth

theorem reads_subscript (hv : Reads Level.atom ts v) (hk : i.Kept) (h : i.isIndex = true)
    (hparts : i.wellPlaced = true) :
    Reads Level.atom (ts ++ .symbol "[" :: (indexTokens i ++ [.symbol "]"]))
      (.subscript v i.reread) := by
  refine hv.grown rfl (List.cons_ne_nil _ _) (stops_cons (by decide)) fun depth rest hdepth _ => ?_
  simp only [List.length_cons, List.length_append, List.length_nil] at hdepth
  have hindex := index_reread hk h hparts (show _ < depth by omega) rest
  change (Within.ofDepth depth).trailer v
    (.symbol "[" :: (indexTokens i ++ [.symbol "]"] ++ rest)) = _
  rw [List.append_assoc, List.singleton_append]
  unfold Within.trailer acceptSymbol
  rw [accept_bind (by simp), if_neg Bool.false_ne_true, accept_bind (by simp),
    if_neg Bool.false_ne_true, accept_bind_cons, if_pos rfl, bind_of_eq hindex]
  rfl

end Trailers

end LivePreview.Code
