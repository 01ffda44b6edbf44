import LivePreview.Proofs.Displays

/-!
# Parameter lists are read back

Every parameter and every mark between parameters takes the state of the reader a step further. A
list in the order of its kinds is never refused, and what was found is the list: the slash makes
positional-only parameters of those before it, and a star makes keyword-only ones of those behind
it.
-/

namespace LivePreview.Code

open Reader
open LivePreview.Text (normalForm)

/-- What a parameter list may end with. -/
def paramEnds : List String := [")", ":"]

theorem symbol_ne_end {closing s : String} (hclosing : closing ∈ paramEnds) (hs : s ∉ paramEnds) :
    Token.symbol s ≠ .symbol closing := by
  intro h
  rw [Token.symbol.injEq] at h
  exact hs (h ▸ hclosing)

section Rows

variable {hint : Within → TypeHint} {closing : String} {st next last : ParamState}
  {ts rest : List Token} {tss : List (List Token)} {depth : Nat}

/-- A parameter, or a mark, with what comes next: a comma if `more` are to come. -/
structure ReadsParam (hint : Within → TypeHint) (closing : String) (more : Bool) (st : ParamState)
    (ts : List Token) (next : ParamState) : Prop where
  starts : ∃ t ∈ ts.head?, t ≠ .symbol closing
  reads (depth : Nat) (rest : List Token) : ts.length < depth →
    rest.head? = some (.symbol (if more then "," else closing)) →
      (Within.ofDepth depth).param (hint (.ofDepth depth)) st (ts ++ rest) = some (next, rest)

/-- The parameters and marks of a list take the state further one by one. -/
inductive ReadsParams (hint : Within → TypeHint) (closing : String) :
    ParamState → List (List Token) → ParamState → Prop
  | nil (st : ParamState) : ReadsParams hint closing st [] st
  | cons {st next last : ParamState} {ts : List Token} {tss : List (List Token)}
      (first : ReadsParam hint closing (!tss.isEmpty) st ts next)
      (others : ReadsParams hint closing next tss last) :
      ReadsParams hint closing st (ts :: tss) last

/-- A parameter list is read up to what closes it. -/
theorem params_row (rest : List Token) (h : ReadsParams hint closing st tss last)
    (hclosing : closing ∈ paramEnds) (hneeds : last.needsParam = false) {rounds : Nat}
    (hdepth : (commaTokens tss).length < depth) (hrounds : (commaTokens tss).length < rounds) :
    (Within.ofDepth depth).params (hint (.ofDepth depth)) closing rounds st
      (commaTokens tss ++ .symbol closing :: rest) =
      some (last.found.reverse, .symbol closing :: rest) := by
  have hcomma : Token.symbol "," ≠ .symbol closing := symbol_ne_end hclosing (by decide)
  induction h generalizing rounds with
  | nil st =>
    obtain ⟨rounds, rfl⟩ : ∃ n, rounds = n + 1 := ⟨rounds - 1, by omega⟩
    change (Within.ofDepth depth).params _ closing (rounds + 1) st (.symbol closing :: rest) = _
    unfold Within.params isSymbolNext
    rw [isNext_bind_cons, if_pos rfl, hneeds]
    rfl
  | @cons st next last ts tss first others ih =>
    obtain ⟨rounds, rfl⟩ : ∃ n, rounds = n + 1 := ⟨rounds - 1, by omega⟩
    obtain ⟨t, ht, hstarts⟩ := first.starts
    obtain ⟨us, rfl⟩ := List.head?_eq_some_iff.mp ht
    rw [commaTokens_cons, List.length_append] at hdepth hrounds
    have hread : (Within.ofDepth depth).param (hint (.ofDepth depth)) st
        (t :: us ++ (moreTokens tss ++ .symbol closing :: rest)) =
        some (next, moreTokens tss ++ .symbol closing :: rest) := by
      refine first.reads depth _ (by omega) ?_
      cases tss with
      | nil => rfl
      | cons vs vss => rfl
    rw [commaTokens_cons, List.append_assoc]
    unfold Within.params isSymbolNext acceptSymbol
    rw [isNext_bind (by simpa using hstarts), if_neg Bool.false_ne_true, bind_of_eq hread]
    cases others with
    | nil st =>
      rw [moreTokens, List.nil_append, accept_bind (by simpa using hcomma.symm),
        if_neg Bool.false_ne_true, isNext_bind_cons, hneeds]
      rfl
    | cons first' others' =>
      rw [moreTokens, List.length_cons] at hdepth hrounds
      rw [moreTokens, List.cons_append, accept_bind_cons, if_pos rfl]
      exact ih hneeds (by simp at hdepth; omega) (by simp at hrounds; omega)

end Rows

/-! ## One parameter -/

namespace ParamState

/-- The state behind a parameter that collects nothing. -/
def named (st : ParamState) (id : String) (d : Option Expr) : ParamState :=
  { st with
    found := .param (if st.hasStar then .keywordOnly else .positional) (normalForm id)
      (optionReread d) :: st.found
    hasDefault := st.hasDefault || d.isSome
    needsParam := false }

/-- The state behind a parameter that collects positional arguments. -/
def rest (st : ParamState) (id : String) : ParamState :=
  { st with found := .param .rest (normalForm id) none :: st.found, hasStar := true }

/-- The state behind a parameter that collects keyword arguments. -/
def keywordRest (st : ParamState) (id : String) : ParamState :=
  { st with found := .param .keywordRest (normalForm id) none :: st.found, isLast := true }

def star (st : ParamState) : ParamState := { st with hasStar := true, needsParam := true }

def slash (st : ParamState) : ParamState :=
  { st with found := st.found.map asPositionalOnly, hasSlash := true }

end ParamState

def defaultTokens : Option Expr → List Token
  | none => []
  | some d => .symbol "=" :: d.tokens Level.test

section Param

variable {hint : Within → TypeHint} {closing : String} {more : Bool} {st : ParamState}
  {id : String} {hs ts rest : List Token} {d : Option Expr} {depth : Nat}

/-- The tokens between the name of a parameter and its default are read as its hint. -/
def ReadsHint (hint : Within → TypeHint) (closing : String) (collecting : Bool)
    (hs : List Token) : Prop :=
  ∀ (depth : Nat) (rest : List Token), hs.length < depth →
    rest.head? = some (.symbol "=") ∨ rest.head? = some (.symbol ",") ∨
      rest.head? = some (.symbol closing) →
    hint (.ofDepth depth) collecting (hs ++ rest) = some ((), rest)

theorem not_of_eq_false {b : Bool} (h : b = false) : (!b) = true := by rw [h, Bool.not_false]

theorem readsHint_noHint (closing : String) (collecting : Bool) :
    ReadsHint (fun _ => noHint) closing collecting [] := fun _ _ _ _ => rfl

theorem param_default (hd : OptionRereads d) (hdepth : (defaultTokens d).length < depth)
    (hstops : Stops Level.test rest) (hequals : rest.head? ≠ some (.symbol "=")) {α : Type}
    (f : Option Expr → Reader α) :
    (do
      let default ← if ← acceptSymbol "=" then
        pure (some (← (Within.ofDepth depth).read .expression)) else pure none
      f default : Reader α) (defaultTokens d ++ rest) = f (optionReread d) rest := by
  unfold acceptSymbol
  cases d with
  | none =>
    rw [defaultTokens, List.nil_append, accept_bind hequals]
    rfl
  | some d =>
    have hd : Reads Level.test (d.tokens Level.test) d.reread :=
      hd d rfl _ (Nat.le_refl _) (by decide)
    rw [defaultTokens] at hdepth ⊢
    rw [List.cons_append, accept_bind_cons, if_pos rfl,
      bind_of_eq (hd.expression (Nat.lt_of_succ_lt hdepth) hstops)]
    rfl

/-- A parameter that collects nothing. -/
theorem readsParam_named (more : Bool) (id : String) (hclosing : closing ∈ paramEnds)
    (hhint : ReadsHint hint closing false hs) (hd : OptionRereads d) (hlast : st.isLast = false)
    (horder : (st.hasStar || d.isSome || !st.hasDefault) = true) :
    ReadsParam hint closing more st (.name id :: (hs ++ defaultTokens d)) (st.named id d) := by
  refine ⟨⟨_, rfl, nofun⟩, fun depth rest hdepth hrest => ?_⟩
  simp only [List.length_cons, List.length_append] at hdepth
  have hstops : Stops Level.test rest := by
    intro t ht
    rw [Option.mem_def.mp ht, Option.some.injEq] at hrest
    rw [hrest]
    cases more with
    | true => exact (by decide : (Token.symbol ",").joins < Level.test)
    | false =>
      have hall : ∀ s ∈ paramEnds, (Token.symbol s).joins < Level.test := by decide
      exact hall closing hclosing
  have hequals : rest.head? ≠ some (.symbol "=") := by
    rw [hrest]
    cases more with
    | true => simp
    | false => exact fun h => symbol_ne_end hclosing (by decide) (Option.some.inj h).symm
  have hnext : (defaultTokens d ++ rest).head? = some (.symbol "=") ∨
      (defaultTokens d ++ rest).head? = some (.symbol ",") ∨
      (defaultTokens d ++ rest).head? = some (.symbol closing) := by
    cases d with
    | some d => exact .inl rfl
    | none =>
      right
      cases more with
      | true => exact .inl hrest
      | false => exact .inr hrest
  have hsome : (optionReread d).isSome = d.isSome := by cases d <;> rfl
  unfold Within.param acceptSymbol
  rw [not_of_eq_false hlast, require_true_bind, List.cons_append, List.append_assoc,
    accept_bind (by simp), if_neg Bool.false_ne_true, accept_bind (by simp),
    if_neg Bool.false_ne_true, accept_bind (by simp), if_neg Bool.false_ne_true,
    bind_of_eq (r := name) rfl, bind_of_eq (hhint depth _ (by omega) hnext)]
  refine (param_default hd (by omega) hstops hequals _).trans ?_
  rw [hsome, horder, require_true_bind]
  rfl

theorem ends_of_more (hrest : rest.head? = some (.symbol (if more then "," else closing))) :
    rest.head? = some (.symbol "=") ∨ rest.head? = some (.symbol ",") ∨
      rest.head? = some (.symbol closing) := by
  cases more with
  | true => exact .inr (.inl hrest)
  | false => exact .inr (.inr hrest)

/-- A parameter that collects the positional arguments that are left. -/
theorem readsParam_rest (more : Bool) (id : String) (hclosing : closing ∈ paramEnds)
    (hhint : ReadsHint hint closing true hs) (hlast : st.isLast = false)
    (hstar : st.hasStar = false) :
    ReadsParam hint closing more st (.symbol "*" :: .name id :: hs) (st.rest id) := by
  refine ⟨⟨_, rfl, symbol_ne_end hclosing (by decide)⟩, fun depth rest hdepth hrest => ?_⟩
  simp only [List.length_cons] at hdepth
  unfold Within.param acceptSymbol isSymbolNext
  rw [not_of_eq_false hlast, require_true_bind, List.cons_append, List.cons_append,
    accept_bind (by simp), if_neg Bool.false_ne_true, accept_bind (by simp),
    if_neg Bool.false_ne_true, accept_bind_cons, if_pos rfl,
    not_of_eq_false hstar, require_true_bind, isNext_bind (by simp), if_neg Bool.false_ne_true,
    bind_of_eq (r := name) rfl, bind_of_eq (hhint depth _ (by omega) (ends_of_more hrest))]
  rfl

/-- A parameter that collects the keyword arguments that are left. -/
theorem readsParam_keywordRest (more : Bool) (id : String) (hclosing : closing ∈ paramEnds)
    (hhint : ReadsHint hint closing false hs) (hlast : st.isLast = false)
    (hneeds : st.needsParam = false) :
    ReadsParam hint closing more st (.symbol "**" :: .name id :: hs) (st.keywordRest id) := by
  refine ⟨⟨_, rfl, symbol_ne_end hclosing (by decide)⟩, fun depth rest hdepth hrest => ?_⟩
  simp only [List.length_cons] at hdepth
  unfold Within.param acceptSymbol
  rw [not_of_eq_false hlast, require_true_bind, List.cons_append, List.cons_append,
    accept_bind (by simp), if_neg Bool.false_ne_true, accept_bind_cons, if_pos rfl,
    not_of_eq_false hneeds, require_true_bind, bind_of_eq (r := name) rfl,
    bind_of_eq (hhint depth _ (by omega) (ends_of_more hrest))]
  rfl

/-- The star before the first parameter that is given by keyword only. -/
theorem readsParam_star (hclosing : closing ∈ paramEnds) (hlast : st.isLast = false)
    (hstar : st.hasStar = false) :
    ReadsParam hint closing true st [.symbol "*"] st.star := by
  refine ⟨⟨_, rfl, symbol_ne_end hclosing (by decide)⟩, fun depth rest hdepth hrest => ?_⟩
  obtain ⟨us, rfl⟩ := List.head?_eq_some_iff.mp hrest
  unfold Within.param acceptSymbol isSymbolNext
  rw [not_of_eq_false hlast, require_true_bind, List.singleton_append, accept_bind (by simp),
    if_neg Bool.false_ne_true, accept_bind (by simp), if_neg Bool.false_ne_true, accept_bind_cons,
    if_pos rfl, not_of_eq_false hstar, require_true_bind]
  rfl

theorem readsParam_slash (hclosing : closing ∈ paramEnds) (hlast : st.isLast = false)
    (hslash : st.hasSlash = false) (hstar : st.hasStar = false) (hfound : st.found ≠ []) :
    ReadsParam hint closing more st [.symbol "/"] st.slash := by
  refine ⟨⟨_, rfl, symbol_ne_end hclosing (by decide)⟩, fun depth rest hdepth hrest => ?_⟩
  have hopen : (!st.hasSlash && !st.hasStar && !st.found.isEmpty) = true := by
    rw [hslash, hstar, List.isEmpty_eq_false_iff.mpr hfound]
    rfl
  unfold Within.param acceptSymbol
  rw [not_of_eq_false hlast, require_true_bind, List.singleton_append, accept_bind_cons,
    if_pos rfl, hopen, require_true_bind]
  rfl

end Param

/-! ## Parameters of a lambda -/

/-- The defaults of the parameters are read back. -/
def DefaultsReread (ps : List LambdaParam) : Prop :=
  ∀ kind id d, .param kind id d ∈ ps → OptionRereads d

section Lambda

variable {ps : List LambdaParam} {kind : ParamKind} {id : String} {d : Option Expr} {last : Nat}
  {hasDefault seenStar : Bool} {st : ParamState}

theorem DefaultsReread.tail {p : LambdaParam} (h : DefaultsReread (p :: ps)) : DefaultsReread ps :=
  fun kind id d hmem => h kind id d (List.mem_cons_of_mem _ hmem)

theorem lt_of_mayFollow (h : kind.mayFollow last hasDefault d = true) : last < 4 := by
  cases kind with
  | rest | keywordRest =>
    exact Nat.lt_of_lt_of_le (of_decide_eq_true (Bool.and_eq_true_iff.mp h).1) (by decide)
  | keywordOnly => exact Nat.lt_of_le_of_lt (of_decide_eq_true h) (by decide)
  | positionalOnly | positional =>
    exact Nat.lt_of_le_of_lt (of_decide_eq_true (Bool.and_eq_true_iff.mp h).1) (by decide)

/-- Positional-only parameters come before all others. -/
theorem not_positionalOnly (h : paramsInOrder last hasDefault ps = true) (hlast : 0 < last)
    (id : String) (d : Option Expr) : .param .positionalOnly id d ∉ ps.head? := by
  intro hmem
  obtain ⟨ps, rfl⟩ := List.head?_eq_some_iff.mp hmem
  simp only [paramsInOrder, Bool.and_eq_true, ParamKind.mayFollow, decide_eq_true_eq] at h
  exact absurd h.1.2.1 (Nat.not_le.mpr hlast)

theorem paramTokens_cons (seenStar : Bool) (kind : ParamKind) (id : String) (d : Option Expr)
    (ps : List LambdaParam) :
    paramTokens seenStar (.param kind id d :: ps) =
      (if needsStar seenStar kind then [[.symbol "*"]] else []) ++
        (kind.mark ++ .name id :: defaultTokens d) :: (slashTokens kind ps ++
          paramTokens (seenStar || kind = .rest || kind = .keywordOnly) ps) := by
  rw [paramTokens.eq_def, defaultTokens.eq_def]
  cases d <;> dsimp only <;> split <;> rfl

/-- Behind the positional-only parameters a list takes the state to one that has found all of it. -/
theorem readsParams_ordered (st : ParamState) (hdefaults : DefaultsReread ps)
    (horder : paramsInOrder last hasDefault ps = true)
    (hfirst : ∀ id d, .param .positionalOnly id d ∉ ps.head?)
    (hseen : last < 4 → seenStar = decide (2 ≤ last)) (hstar : st.hasStar = seenStar)
    (hdefault : st.hasDefault = hasDefault) (hlast : st.isLast = decide (last = 4))
    (hneeds : st.needsParam = false) :
    ∃ next, ReadsParams (fun _ => noHint) ":" st (paramTokens seenStar ps) next ∧
      next.found = (paramsReread ps).reverse ++ st.found ∧ next.needsParam = false := by
  induction ps generalizing last hasDefault seenStar st with
  | nil =>
    rw [paramTokens, paramsReread]
    exact ⟨st, .nil st, rfl, hneeds⟩
  | cons p ps ih =>
    obtain ⟨kind, id, d⟩ := p
    simp only [paramsInOrder, Bool.and_eq_true] at horder
    obtain ⟨⟨-, hfollow⟩, horder⟩ := horder
    have hless := lt_of_mayFollow hfollow
    have hopen : st.isLast = false := by
      rw [hlast]
      exact decide_eq_false (Nat.ne_of_lt hless)
    have hd : OptionRereads d := hdefaults kind id d List.mem_cons_self
    have hothers := hdefaults.tail
    have hclosing : ":" ∈ paramEnds := by decide
    rw [paramTokens_cons, paramsReread, List.reverse_cons, List.append_assoc,
      List.singleton_append]
    cases kind with
    | positionalOnly => exact absurd rfl (hfirst id d)
    | positional =>
      rw [ParamKind.mayFollow, Bool.and_eq_true, decide_eq_true_eq] at hfollow
      have hnone : seenStar = false := by
        rw [hseen hless]
        exact decide_eq_false (Nat.not_le.mpr (Nat.lt_succ_of_le hfollow.1))
      subst hnone
      have hparam := readsParam_named (!(paramTokens false ps).isEmpty) id hclosing
        (readsHint_noHint ":" false) hd hopen (by rw [hstar, hdefault]; simpa using hfollow.2)
      obtain ⟨next, hnext, hfound, hdone⟩ := ih (st.named id d) hothers horder
        (not_positionalOnly horder (by decide)) (fun _ => rfl) hstar
        (by rw [ParamState.named, hdefault]) hopen rfl
      refine ⟨next, .cons hparam hnext, ?_, hdone⟩
      rw [hfound, ParamState.named, hstar]
      rfl
    | rest =>
      rw [ParamKind.mayFollow, Bool.and_eq_true, decide_eq_true_eq, Option.isNone_iff_eq_none]
        at hfollow
      obtain ⟨hbefore, rfl⟩ := hfollow
      have hnone : seenStar = false := by
        rw [hseen hless]
        exact decide_eq_false (Nat.not_le.mpr hbefore)
      subst hnone
      have hparam := readsParam_rest (!(paramTokens true ps).isEmpty) id hclosing
        (readsHint_noHint ":" true) hopen hstar
      obtain ⟨next, hnext, hfound, hdone⟩ := ih (st.rest id) hothers horder
        (not_positionalOnly horder (by decide)) (fun _ => rfl) rfl
        (hdefault.trans (Bool.or_false _).symm) hopen hneeds
      exact ⟨next, .cons hparam hnext, hfound, hdone⟩
    | keywordRest =>
      rw [ParamKind.mayFollow, Bool.and_eq_true, Option.isNone_iff_eq_none] at hfollow
      obtain ⟨-, rfl⟩ := hfollow
      have hparam := readsParam_keywordRest (!(paramTokens seenStar ps).isEmpty) id hclosing
        (readsHint_noHint ":" false) hopen hneeds
      obtain ⟨next, hnext, hfound, hdone⟩ := ih (st.keywordRest id) hothers horder
        (not_positionalOnly horder (by decide)) (fun h => absurd h (by decide)) hstar
        (hdefault.trans (Bool.or_false _).symm) rfl hneeds
      have hseenStar : (seenStar || decide (ParamKind.keywordRest = .rest) ||
          decide (ParamKind.keywordRest = .keywordOnly)) = seenStar := by simp
      rw [hseenStar]
      exact ⟨next, .cons hparam hnext, hfound, hdone⟩
    | keywordOnly =>
      have hparam (st : ParamState) (hstar : st.hasStar = true) (hopen : st.isLast = false) :=
        readsParam_named (!(paramTokens true ps).isEmpty) id hclosing
          (readsHint_noHint ":" false) hd hopen (by rw [hstar]; rfl)
      have hseenStar : (seenStar || decide (ParamKind.keywordOnly = .rest) ||
          decide (ParamKind.keywordOnly = .keywordOnly)) = true := by simp
      rw [hseenStar]
      cases seenStar with
      | true =>
        obtain ⟨next, hnext, hfound, hdone⟩ := ih (st.named id d) hothers horder
          (not_positionalOnly horder (by decide)) (fun _ => rfl) hstar
          (by rw [ParamState.named, hdefault]) hopen rfl
        refine ⟨next, .cons (hparam st hstar hopen) hnext, ?_, hdone⟩
        rw [hfound, ParamState.named, hstar]
        rfl
      | false =>
        -- A star of its own comes before the parameter.
        obtain ⟨next, hnext, hfound, hdone⟩ := ih (st.star.named id d) hothers horder
          (not_positionalOnly horder (by decide)) (fun _ => rfl) rfl
          (by rw [ParamState.named, ParamState.star, hdefault]) hopen rfl
        exact ⟨next, .cons (readsParam_star hclosing hopen hstar)
          (.cons (hparam st.star rfl hopen) hnext), hfound, hdone⟩

/-- The last positional-only parameter has a slash behind it. -/
theorem slashTokens_last (hfirst : ∀ id d, .param .positionalOnly id d ∉ ps.head?) :
    slashTokens .positionalOnly ps = [[.symbol "/"]] := by
  unfold slashTokens
  split
  · exact absurd rfl (hfirst _ _)
  · rfl
  · next hkind _ => exact (hkind rfl).elim

theorem readsParam_positionalOnly (id : String) (hd : OptionRereads d)
    (hallowed : (d.isSome || !hasDefault) = true) (hstar : st.hasStar = false)
    (hdefault : st.hasDefault = hasDefault) (hlast : st.isLast = false) (more : Bool) :
    ReadsParam (fun _ => noHint) ":" more st (.name id :: defaultTokens d) (st.named id d) :=
  readsParam_named more id (by decide) (readsHint_noHint ":" false) hd hlast
    (by rw [hstar, hdefault, Bool.false_or, hallowed])

theorem paramTokens_positionalOnly :
    paramTokens false (.param .positionalOnly id d :: ps) =
      (.name id :: defaultTokens d) :: (slashTokens .positionalOnly ps ++ paramTokens false ps) :=
  paramTokens_cons false .positionalOnly id d ps

/-- The last positional-only parameter and all that is behind its slash. -/
theorem readsParams_slash (hdefaults : DefaultsReread (.param .positionalOnly id d :: ps))
    (hallowed : (d.isSome || !hasDefault) = true)
    (horder : paramsInOrder 0 (hasDefault || d.isSome) ps = true)
    (hfirst : ∀ id d, .param .positionalOnly id d ∉ ps.head?)
    (hstar : st.hasStar = false) (hslash : st.hasSlash = false)
    (hdefault : st.hasDefault = hasDefault) (hlast : st.isLast = false) :
    ∃ next, ReadsParams (fun _ => noHint) ":" st
        (paramTokens false (.param .positionalOnly id d :: ps)) next ∧
      next.found = (paramsReread (.param .positionalOnly id d :: ps)).reverse ++
        st.found.map asPositionalOnly ∧ next.needsParam = false := by
  have hparam := readsParam_positionalOnly id (hdefaults _ _ _ List.mem_cons_self) hallowed
    hstar hdefault hlast true
  obtain ⟨next, hnext, hfound, hdone⟩ := readsParams_ordered (st.named id d).slash
    hdefaults.tail horder hfirst (fun _ => rfl) hstar
    (by rw [ParamState.slash, ParamState.named, hdefault]) hlast rfl
  refine ⟨next, ?_, ?_, hdone⟩
  · rw [paramTokens_positionalOnly, slashTokens_last hfirst]
    exact .cons hparam (.cons (readsParam_slash (by decide) hlast hslash hstar
      (List.cons_ne_nil _ _)) hnext)
  · rw [hfound, paramsReread, List.reverse_cons, List.append_assoc]
    rfl

/-- Positional-only parameters are found as such once their slash is read. -/
theorem readsParams_positionalOnly (st : ParamState)
    (hdefaults : DefaultsReread (.param .positionalOnly id d :: ps))
    (horder : paramsInOrder 0 hasDefault (.param .positionalOnly id d :: ps) = true)
    (hstar : st.hasStar = false) (hslash : st.hasSlash = false)
    (hdefault : st.hasDefault = hasDefault) (hlast : st.isLast = false) :
    ∃ next, ReadsParams (fun _ => noHint) ":" st
        (paramTokens false (.param .positionalOnly id d :: ps)) next ∧
      next.found = (paramsReread (.param .positionalOnly id d :: ps)).reverse ++
        st.found.map asPositionalOnly ∧ next.needsParam = false := by
  induction ps generalizing id d hasDefault st with
  | nil =>
    simp only [paramsInOrder, ParamKind.mayFollow, Bool.and_eq_true] at horder
    exact readsParams_slash hdefaults horder.1.2.2 rfl nofun hstar hslash hdefault hlast
  | cons p ps ih =>
    have hself := horder
    rw [paramsInOrder] at hself
    simp only [ParamKind.mayFollow, Bool.and_eq_true] at hself
    obtain ⟨⟨-, -, hallowed⟩, hothers⟩ := hself
    obtain ⟨kind, id', d'⟩ := p
    by_cases hkind : kind = .positionalOnly
    · subst hkind
      obtain ⟨next, hnext, hfound, hdone⟩ := ih (st.named id d) hdefaults.tail hothers hstar
        hslash (by rw [ParamState.named, hdefault]) hlast
      refine ⟨next, ?_, ?_, hdone⟩
      · rw [paramTokens_positionalOnly]
        exact .cons (readsParam_positionalOnly id (hdefaults _ _ _ List.mem_cons_self) hallowed
          hstar hdefault hlast _) hnext
      · rw [hfound, ParamState.named, hstar, paramsReread.eq_2 _ _ _ (_ :: _), List.reverse_cons,
          List.append_assoc]
        rfl
    · refine readsParams_slash hdefaults hallowed hothers ?_ hstar hslash hdefault hlast
      rintro id d hmem
      cases hmem
      exact hkind rfl

/-- A parameter list in the order of its kinds is read back. -/
theorem params_reread (hdefaults : DefaultsReread ps) (horder : paramsInOrder 0 false ps = true)
    {depth rounds : Nat} (hdepth : (commaTokens (paramTokens false ps)).length < depth)
    (hrounds : (commaTokens (paramTokens false ps)).length < rounds) (rest : List Token) :
    (Within.ofDepth depth).params noHint ":" rounds .start
      (commaTokens (paramTokens false ps) ++ .symbol ":" :: rest) =
      some (paramsReread ps, .symbol ":" :: rest) := by
  have hlist : ∃ next, ReadsParams (fun _ => noHint) ":" .start (paramTokens false ps) next ∧
      next.found = (paramsReread ps).reverse ++ [] ∧ next.needsParam = false := by
    by_cases hfirst : ∃ id d, .param .positionalOnly id d ∈ ps.head?
    · obtain ⟨id, d, hmem⟩ := hfirst
      obtain ⟨ps, rfl⟩ := List.head?_eq_some_iff.mp hmem
      exact readsParams_positionalOnly .start hdefaults horder rfl rfl rfl rfl
    · exact readsParams_ordered .start hdefaults horder (fun id d h => hfirst ⟨id, d, h⟩)
        (fun _ => rfl) rfl rfl rfl rfl
  obtain ⟨next, hread, hfound, hneeds⟩ := hlist
  have hrow := params_row rest hread (by decide) hneeds hdepth hrounds
  rw [hfound, List.append_nil, List.reverse_reverse] at hrow
  exact hrow

/-- A lambda is read back. -/
theorem reads_lambda {ts : List Token} {b : Expr} (hdefaults : DefaultsReread ps)
    (horder : paramsInOrder 0 false ps = true) (hb : Reads Level.test ts b) :
    Reads Level.test (.keyword "lambda" :: (commaTokens (paramTokens false ps) ++
      .symbol ":" :: ts)) (.lambda (paramsReread ps) b) := by
  refine .of_read rfl ⟨_, rfl, Nat.le_refl _⟩ fun depth rest hdepth hrest => ?_
  simp only [List.length_cons, List.length_append] at hdepth
  have hlength : (commaTokens (paramTokens false ps)).length < depth := by omega
  have hparams := params_reread hdefaults horder hlength hlength (ts ++ rest)
  have hbody := hb.expression (show _ < depth by omega) hrest
  change (Within.ofDepth depth).expression (.keyword "lambda" ::
    (commaTokens (paramTokens false ps) ++ .symbol ":" :: ts ++ rest)) = _
  rw [List.append_assoc, List.cons_append]
  unfold Within.expression Within.lambda isKeywordNext expectKeyword expectSymbol
  rw [isNext_bind_cons, if_pos rfl, expect_bind_cons]
  change ((Within.ofDepth depth).params noHint ":" depth .start >>= _) _ = _
  rw [bind_of_eq hparams, expect_bind_cons, bind_of_eq hbody]
  rfl

end Lambda

end LivePreview.Code
