import LivePreview.Proofs.Blocks

/-!
# Modules are read back

Classes and functions are read with their blocks, each statement of a block in its turn. The text of
a list of statements is read as their outlines exactly if none of them imports a reserved word.
-/

namespace LivePreview.Code

open Reader Outline
open LivePreview.Text (isKeyword normalForm)

/-! ## Parameters -/

section Parameters

variable {ps : List Parameter} {hint : Option Expr} {st : ParamState} {tss : List (List Token)}

/-- What is written for the type and for the default is read back. -/
def Parameter.Rereads (p : Parameter) : Prop := OptionRereads p.hint ∧ OptionRereads p.default

theorem Expr.rereads_of_isLegible {e : Expr} {others : Nat} (h : e.isLegible others = true) :
    e.Rereads := by
  obtain ⟨hparts, hvalue, -⟩ := Expr.isLegible_iff.mp h
  exact e.rereads hparts hvalue

theorem optionRereads_of_isLegible {e : Option Expr} {others : Nat}
    (h : e.all (·.isLegible others) = true) : OptionRereads e := by
  rintro e rfl
  exact Expr.rereads_of_isLegible h

theorem Parameter.rereads {p : Parameter} (h : p.isLegible = true) : p.Rereads := by
  rw [Parameter.isLegible, Bool.and_eq_true, Bool.and_eq_true] at h
  exact ⟨optionRereads_of_isLegible h.1.2, optionRereads_of_isLegible h.2⟩

/-- A type is an expression behind a colon. -/
theorem readsHint_hintTokens (h : OptionRereads hint) :
    ReadsHint paramHint ")" false (hintTokens hint) := by
  intro depth rest hdepth hrest
  cases hint with
  | none =>
    have hcolon : rest.head? ≠ some (.symbol ":") := by
      rcases hrest with h | h | h <;> rw [h] <;> simp
    unfold paramHint acceptSymbol
    rw [hintTokens, List.nil_append, accept_bind hcolon]
    rfl
  | some e =>
    have hstops : Stops Level.test rest := by
      intro t ht
      rcases hrest with h | h | h <;> rw [h] at ht <;> cases ht <;> decide
    have hread : Reads Level.test (e.tokens Level.test) e.reread :=
      h e rfl _ (Nat.le_refl _) (by decide)
    rw [hintTokens, List.length_cons] at hdepth
    unfold paramHint acceptSymbol
    rw [hintTokens, List.cons_append, accept_bind_cons, if_pos rfl]
    exact discard_of_eq (hread.read (show _ ≤ depth by omega) hstops)

/-- Behind the star every parameter may come. -/
theorem readsParams_byKeyword (h : ∀ p ∈ ps, p.Rereads) (hstar : st.hasStar = true)
    (hlast : st.isLast = false) (hneeds : ps = [] → st.needsParam = false) :
    ∃ next, ReadsParams paramHint ")" st (ps.map Parameter.tokens) next ∧
      next.needsParam = false := by
  induction ps generalizing st with
  | nil => exact ⟨st, .nil st, hneeds rfl⟩
  | cons p ps ih =>
    obtain ⟨⟨hhint, hdefault⟩, hps⟩ := List.forall_mem_cons.mp h
    obtain ⟨next, hothers, hnext⟩ := @ih (st.named p.name p.default) hps hstar hlast fun _ => rfl
    have horder : (st.hasStar || p.default.isSome || !st.hasDefault) = true := by
      rw [hstar, Bool.true_or, Bool.true_or]
    exact ⟨next, .cons (readsParam_named _ p.name (by decide) (readsHint_hintTokens hhint) hdefault
      hlast horder) hothers, hnext⟩

/-- Before the star those without a default come first. -/
theorem readsParams_plain (h : ∀ p ∈ ps, p.Rereads)
    (horder : defaultsLast st.hasDefault ps = true) (hstar : st.hasStar = false)
    (hlast : st.isLast = false) (hneeds : st.needsParam = false)
    (hothers : ∀ st : ParamState, st.hasStar = false → st.isLast = false → st.needsParam = false →
      ∃ next, ReadsParams paramHint ")" st tss next ∧ next.needsParam = false) :
    ∃ next, ReadsParams paramHint ")" st (ps.map Parameter.tokens ++ tss) next ∧
      next.needsParam = false := by
  induction ps generalizing st with
  | nil => exact hothers st hstar hlast hneeds
  | cons p ps ih =>
    obtain ⟨⟨hhint, hdefault⟩, hps⟩ := List.forall_mem_cons.mp h
    rw [defaultsLast, Bool.and_eq_true] at horder
    obtain ⟨next, hlater, hnext⟩ := @ih (st.named p.name p.default) hps horder.2 hstar hlast rfl
    have hfirst : (st.hasStar || p.default.isSome || !st.hasDefault) = true := by
      rw [hstar, Bool.false_or]
      exact horder.1
    exact ⟨next, .cons (readsParam_named _ p.name (by decide) (readsHint_hintTokens hhint) hdefault
      hlast hfirst) hlater, hnext⟩

/-- The parameters of a function are read up to the parenthesis. -/
theorem params_parameterTokens (h : ∀ p ∈ ps, p.isLegible = true)
    (horder : defaultsLast false (ps.filter fun p => !p.byKeyword) = true) {depth : Nat}
    (hdepth : (commaTokens (parameterTokens ps)).length < depth) (rest : List Token) :
    ∃ found, (Within.ofDepth depth).params (paramHint (.ofDepth depth)) ")" depth .start
      (commaTokens (parameterTokens ps) ++ .symbol ")" :: rest) =
      some (found, .symbol ")" :: rest) := by
  have hsome (f : Parameter → Bool) : ∀ p ∈ ps.filter f, p.Rereads :=
    fun p hp => Parameter.rereads (h p (List.mem_filter.mp hp).1)
  obtain ⟨next, hreads, hneeds⟩ : ∃ next, ReadsParams paramHint ")" .start (parameterTokens ps) next ∧
      next.needsParam = false := by
    refine readsParams_plain (hsome _) horder rfl rfl rfl fun st hstar hlast hneeds => ?_
    cases hempty : (ps.filter (·.byKeyword)).isEmpty with
    | true => exact ⟨st, .nil st, hneeds⟩
    | false =>
      have hne := List.isEmpty_eq_false_iff.mp hempty
      obtain ⟨next, hothers, hnext⟩ := @readsParams_byKeyword _ st.star (hsome _) rfl hlast
        fun hnil => absurd hnil hne
      have hmore : (!((ps.filter (·.byKeyword)).map Parameter.tokens).isEmpty) = true := by
        rw [List.isEmpty_map, hempty, Bool.not_false]
      refine ⟨next, .cons ?_ hothers, hnext⟩
      rw [hmore]
      exact readsParam_star (by decide) hlast hstar
  exact ⟨_, params_row rest hreads (by decide) hneeds hdepth hdepth⟩

end Parameters

/-! ## Blocks -/

section Blocks

variable {b : Blocks} {partss : List (List Part)} {body rest : List Token} {depth : Nat}

/-- The next statement of a block, if it has not come to its end. -/
def Blocks.nextStatement (b : Blocks) : Reader (Option (List Part)) := do
  if (← isNext .dedent) || (← peek).isNone then return none else return some (← b.nested)

theorem nextStatement_of_head {ts : List Token} {t : Token} (ht : t ∈ ts.head?)
    (hdedent : t ≠ .dedent) : b.nextStatement ts = (some <$> b.nested) ts := by
  obtain ⟨ts, rfl⟩ := List.head?_eq_some_iff.mp ht
  unfold Blocks.nextStatement
  rw [isNext_bind (by simpa using hdedent), bind_of_eq (r := peek) rfl]
  rfl

/-- A block is read between its indent and its dedent. -/
theorem block_of_statements (h : gather b.nextStatement b.within.bound (body ++ .dedent :: rest) =
    some (partss, .dedent :: rest)) :
    b.block (.symbol ":" :: .newline :: .indent :: (body ++ .dedent :: rest)) =
      some (partss.flatten, rest) := by
  have hstatements : b.statements (body ++ .dedent :: rest) =
      some (partss.flatten, .dedent :: rest) := bind_of_eq h _
  unfold Blocks.block expectSymbol
  rw [expect_bind_cons, accept_bind_cons, if_pos rfl, expect_bind_cons, bind_of_eq hstatements,
    expect_bind_cons]
  rfl

/-- A class or a function is a block. -/
theorem step_of_definition {ts : List Token} {parts : List Part}
    (hhead : ts.head? = some (.keyword "def") ∨ ts.head? = some (.keyword "class"))
    (h : b.definition ts = some (parts, rest)) : b.step ts = some ([.block parts], rest) := by
  have hcompound : b.compound ts = some (some parts, rest) := by
    have hmark : ts.head? ≠ some (.symbol "@") := by rcases hhead with h | h <;> rw [h] <;> simp
    have hisNext (t : Token) : isNext t ts = some (decide (ts.head? = some t), ts) := rfl
    have hkeyword : (decide (ts.head? = some (.keyword "def")) ||
        decide (ts.head? = some (.keyword "class"))) = true := by
      rcases hhead with h | h <;> simp [h]
    unfold Blocks.compound isSymbolNext isKeywordNext
    rw [isNext_bind hmark, if_neg Bool.false_ne_true, bind_of_eq (hisNext _),
      bind_of_eq (hisNext _), hkeyword, if_pos rfl, bind_of_eq h]
    rfl
  unfold Blocks.step
  rw [bind_of_eq hcompound]
  rfl

/-- A class is its name, its base and its block. -/
theorem step_classDef {nested : Reader (List Part)} (name base : String)
    (h : gather (Blocks.nextStatement ⟨.ofDepth depth, nested⟩) depth (body ++ .dedent :: rest) =
      some (partss, .dedent :: rest)) (hdepth : 1 < depth) :
    Blocks.step ⟨.ofDepth depth, nested⟩
      (.keyword "class" :: .name name :: .symbol "(" :: .name base :: .symbol ")" :: .symbol ":" ::
        .newline :: .indent :: (body ++ .dedent :: rest)) = some ([.block partss.flatten], rest) := by
  have hbase : ReadsItem Parted (fun w => w.argument false false) [.name base]
      (.positional (.name (normalForm base))) :=
    argument_value ((reads_name base).widen (Nat.le_refl _) (by decide) (Nat.le_refl _))
  have hbases (us : List Token) : (Within.ofDepth depth).arguments false depth false false true
      (.name base :: .symbol ")" :: us) = some (⟨[.name (normalForm base)], []⟩, us) :=
    arguments_row false true us (.cons hbase .nil) .nil hdepth hdepth
  have hblock := block_of_statements (b := ⟨.ofDepth depth, nested⟩) h
  have hclass : Blocks.classBlock ⟨.ofDepth depth, nested⟩ (.name name :: .symbol "(" ::
      .name base :: .symbol ")" :: .symbol ":" :: .newline :: .indent :: (body ++ .dedent :: rest)) =
      some (partss.flatten, rest) := by
    unfold Blocks.classBlock acceptSymbol
    rw [bind_of_eq (r := discard Reader.name) rfl, accept_bind_cons, if_pos rfl]
    exact (bind_of_eq (discard_of_eq (hbases _)) _).trans hblock
  have hdefinition : Blocks.definition ⟨.ofDepth depth, nested⟩ (.keyword "class" :: .name name ::
      .symbol "(" :: .name base :: .symbol ")" :: .symbol ":" :: .newline :: .indent ::
      (body ++ .dedent :: rest)) = some (partss.flatten, rest) := by
    unfold Blocks.definition acceptKeyword
    rw [accept_bind_cons, if_pos rfl]
    exact hclass
  exact step_of_definition (.inr rfl) hdefinition

theorem step_function {nested : Reader (List Part)} (name : String) {ps : List Parameter}
    (hps : ∀ p ∈ ps, p.isLegible = true)
    (horder : defaultsLast false (ps.filter fun p => !p.byKeyword) = true)
    (h : gather (Blocks.nextStatement ⟨.ofDepth depth, nested⟩) depth (body ++ .dedent :: rest) =
      some (partss, .dedent :: rest)) (hdepth : (commaTokens (parameterTokens ps)).length < depth) :
    Blocks.step ⟨.ofDepth depth, nested⟩
      (.keyword "def" :: .name name :: .symbol "(" :: (commaTokens (parameterTokens ps) ++
        .symbol ")" :: .symbol ":" :: .newline :: .indent :: (body ++ .dedent :: rest))) =
      some ([.block partss.flatten], rest) := by
  have hblock := block_of_statements (b := ⟨.ofDepth depth, nested⟩) h
  obtain ⟨found, hparams⟩ := params_parameterTokens hps horder hdepth
    (.symbol ":" :: .newline :: .indent :: (body ++ .dedent :: rest))
  refine step_of_definition (.inl rfl) ?_
  unfold Blocks.definition acceptKeyword expectKeyword
  rw [accept_bind (by simp), if_neg Bool.false_ne_true,
    bind_of_eq (r := discard (accept (.keyword "async"))) rfl, expect_bind_cons]
  unfold Blocks.function expectSymbol acceptSymbol
  rw [bind_of_eq (r := discard Reader.name) rfl, expect_bind_cons]
  change (discard ((Within.ofDepth depth).params (paramHint (.ofDepth depth)) ")" depth .start) >>= _)
    _ = _
  rw [bind_of_eq (discard_of_eq hparams), expect_bind_cons, accept_bind (by simp)]
  exact hblock

end Blocks

/-! ## Statements -/

section Statements

variable {s : Statement} {ss : List Statement} {rest : List Token}

/-- Reading takes the statements of a block one by one. -/
theorem gather_nextStatement {b : Blocks} {t : Token} {ts : List Token} {parts : List Part}
    (ht : t ∈ ts.head?) (hdedent : t ≠ .dedent) (h : b.nested ts = some (parts, rest))
    (rounds : Nat) :
    gather b.nextStatement (rounds + 1) ts = (gather b.nextStatement rounds >>= fun partss =>
      (pure (parts :: partss) : Reader (List (List Part)))) rest := by
  have hnext : b.nextStatement ts = some (some parts, rest) :=
    (nextStatement_of_head ht hdedent).trans (map_of_eq h some)
  rw [gather, bind_of_eq hnext]

theorem length_le_commaTokens {tss : List (List Token)} (h : ∀ ts ∈ tss, 0 < ts.length) :
    tss.length ≤ (commaTokens tss).length := by
  induction tss with
  | nil => exact Nat.le_refl _
  | cons ts tss ih =>
    obtain ⟨hts, htss⟩ := List.forall_mem_cons.mp h
    have hothers := ih htss
    rw [commaTokens_cons, List.length_append]
    cases tss with
    | nil => exact Nat.le_add_right_of_le hts
    | cons us uss =>
      have hmore : (moreTokens (us :: uss)).length = (commaTokens (us :: uss)).length + 1 := rfl
      rw [hmore, List.length_cons]
      omega

namespace Statement

/-- A statement does not begin with the end of a block. -/
theorem head_tokens (h : s.isLegible = true) : ∃ t ∈ s.tokens.head?, t ≠ .dedent := by
  have hexpr {e : Expr} (he : e.isLegible 0 = true) (us : List Token) :
      ∃ t ∈ (e.tokens Level.test ++ us).head?, t ≠ .dedent := by
    obtain ⟨t, ht, hopens⟩ :=
      (Expr.rereads_of_isLegible he Level.test (Nat.le_refl _) (by decide)).head_append
        (Nat.le_refl _) us
    refine ⟨t, ht, ?_⟩
    rintro rfl
    exact absurd hopens (by decide)
  cases s <;> rw [tokens]
  case assign target value =>
    simp only [isLegible, Bool.and_eq_true] at h
    exact hexpr h.1.1.1 _
  case expression value =>
    simp only [isLegible, Bool.and_eq_true] at h
    rw [(call_eq_of_isCall h.1.2 Level.yield).2]
    exact hexpr h.1.1 _
  all_goals exact ⟨_, rfl, by simp⟩

/-- Only a target that is a name may begin with the word that opens a match statement. -/
theorem head_of_target {e : Expr} (h : (isNamed e || !e.opensMatch) = true)
    (hname : e.tokens Level.test ≠ [.name "match"]) :
    (e.tokens Level.test).head? ≠ some (.name "match") := by
  rcases Bool.or_eq_true_iff.mp h with hnamed | hopens
  · obtain ⟨id, rfl⟩ : ∃ id, e = .name id := by
      cases e <;> first | exact ⟨_, rfl⟩ | cases hnamed
    rw [Expr.tokens] at hname ⊢
    exact fun hhead => hname (congrArg (fun t => [t]) (Option.some.inj hhead))
  · rw [Bool.not_eq_true', Expr.opensMatch, decide_eq_false_iff_not] at hopens
    exact hopens

theorem any_importsKeyword (h : (!ss.any isImport) = true) : ss.any importsKeyword = false := by
  rw [Bool.not_eq_true', List.any_eq_false] at h
  refine List.any_eq_false.mpr fun s hs => ?_
  have himport := h s hs
  cases s <;> first | exact Bool.false_ne_true | exact absurd rfl himport

theorem flatten_map_outline (ss : List Statement) : (ss.map outline).flatten = listOutline ss := by
  induction ss with
  | nil => rw [listOutline, List.map_nil, List.flatten_nil]
  | cons s ss ih => rw [listOutline, List.map_cons, List.flatten_cons, ih]

mutual

/-- A statement is read from its tokens unless it imports a reserved word. -/
theorem reads (s : Statement) (h : s.isLegible = true) {depth level : Nat}
    (hdepth : s.tokens.length ≤ depth) (hlevel : s.tokens.length ≤ level) (rest : List Token) :
    statementAt (.ofDepth depth) level (s.tokens ++ rest) =
      if s.importsKeyword then none else some (s.outline, rest) := by
  obtain ⟨level, rfl⟩ : ∃ n, level = n + 1 := by
    obtain ⟨t, ht, -⟩ := s.head_tokens h
    have hne : s.tokens ≠ [] := fun hnil => by rw [hnil] at ht; cases ht
    have hpos := List.length_pos_of_ne_nil hne
    exact ⟨level - 1, by omega⟩
  change Blocks.step ⟨.ofDepth depth, statementAt (.ofDepth depth) level⟩ _ = _
  cases s
  case importModule m =>
    rw [tokens, List.length_append, List.length_cons] at hdepth
    rw [tokens, List.append_assoc, importsKeyword, outline]
    exact step_importModule rest (Nat.le_of_succ_le (Nat.le_of_succ_le hdepth))
  case importFrom m names =>
    simp only [isLegible, Bool.and_eq_true, Bool.not_eq_true', List.isEmpty_eq_false_iff] at h
    rw [tokens] at hdepth
    simp only [List.length_cons, List.length_append] at hdepth
    have hnames : (names.map Imported.tokens).length ≤
        (commaTokens (names.map Imported.tokens)).length := by
      refine length_le_commaTokens fun ts hts => ?_
      obtain ⟨i, -, rfl⟩ := List.mem_map.mp hts
      exact Nat.succ_pos _
    rw [List.length_map] at hnames
    rw [tokens, importsKeyword, outline]
    simp only [List.cons_append, List.append_assoc, List.nil_append]
    exact step_importFrom rest h.1.2 (show names.length ≤ depth by omega)
      (show (pathTokens m).length ≤ depth by omega)
  case classDef name base doc body =>
    simp only [isLegible, Bool.and_eq_true] at h
    obtain ⟨⟨⟨-, hdoc⟩, himports⟩, hbody⟩ := h
    rw [tokens, blockTokens] at hdepth hlevel
    simp only [List.length_cons, List.length_append, List.length_nil] at hdepth hlevel
    obtain ⟨depth, rfl⟩ : ∃ n, depth = n + 1 := ⟨depth - 1, by omega⟩
    have hbodies := listReads body hbody (show (listTokens body).length ≤ depth + 1 by omega)
      (show _ ≤ level by omega) (show _ ≤ depth by omega) (.dedent :: rest) (.inr rfl)
    rw [any_importsKeyword himports, if_neg Bool.false_ne_true] at hbodies
    have hdocumentation : statementAt (.ofDepth (depth + 1)) level
        (.literal [] (documentationBody doc) :: .newline :: (listTokens body ++ .dedent :: rest)) =
        some ([], listTokens body ++ .dedent :: rest) := by
      obtain ⟨level, rfl⟩ : ∃ n, level = n + 1 := ⟨level - 1, by omega⟩
      exact step_documentation (of_decide_eq_true hdoc) (Nat.succ_pos _) _
    have hblock : gather (Blocks.nextStatement
        ⟨.ofDepth (depth + 1), statementAt (.ofDepth (depth + 1)) level⟩) (depth + 1)
        (.literal [] (documentationBody doc) :: .newline :: listTokens body ++ .dedent :: rest) =
        some ([] :: body.map outline, .dedent :: rest) := by
      rw [gather_nextStatement rfl (by simp) hdocumentation, bind_of_eq hbodies]
      rfl
    rw [tokens, blockTokens, importsKeyword, outline, ← flatten_map_outline]
    have hclass := step_classDef name base hblock (show 1 < depth + 1 by omega)
    simpa only [List.cons_append, List.append_assoc, List.nil_append, List.flatten_cons,
      Bool.false_eq_true, if_false] using hclass
  case function name params body =>
    simp only [isLegible, Bool.and_eq_true] at h
    obtain ⟨⟨⟨⟨⟨-, hparams⟩, horder⟩, -⟩, himports⟩, hbody⟩ := h
    rw [tokens, blockTokens] at hdepth hlevel
    simp only [List.length_cons, List.length_append, List.length_nil] at hdepth hlevel
    have hblock := listReads body hbody (show (listTokens body).length ≤ depth by omega)
      (show _ ≤ level by omega) (show _ ≤ depth by omega) (.dedent :: rest) (.inr rfl)
    rw [any_importsKeyword himports, if_neg Bool.false_ne_true] at hblock
    rw [tokens, blockTokens, importsKeyword, outline, ← flatten_map_outline]
    have hfunction := step_function name (List.all_eq_true.mp hparams) horder hblock
      (show (commaTokens (parameterTokens params)).length < depth by omega)
    simpa only [List.cons_append, List.append_assoc, List.nil_append, Bool.false_eq_true,
      if_false] using hfunction
  case assign target value =>
    simp only [isLegible, Bool.and_eq_true] at h
    obtain ⟨⟨⟨htarget, hassigned⟩, hmatch⟩, hvalue⟩ := h
    rw [tokens] at hdepth
    simp only [List.length_cons, List.length_append, List.length_nil] at hdepth
    rw [tokens, importsKeyword, outline]
    simp only [List.cons_append, List.append_assoc, List.nil_append]
    exact step_assign
      (Expr.rereads_of_isLegible htarget Level.test (Nat.le_refl _) (by decide))
      ((isTarget_reread target).trans hassigned) (head_of_target hmatch)
      (Expr.rereads_of_isLegible hvalue Level.test (Nat.le_refl _) (by decide)) (by omega) rest
  case expression value =>
    simp only [isLegible, Bool.and_eq_true, Bool.not_eq_true', Expr.opensMatch,
      decide_eq_false_iff_not] at h
    obtain ⟨⟨hvalue, hcall⟩, hmatch⟩ := h
    rw [tokens, (call_eq_of_isCall hcall Level.yield).2] at hdepth ⊢
    rw [List.length_append] at hdepth
    rw [importsKeyword, outline, List.append_assoc]
    exact step_expression (Expr.rereads_of_isLegible hvalue Level.test (Nat.le_refl _) (by decide))
      hmatch (Nat.le_of_succ_le hdepth) rest
  case «return» value =>
    rw [isLegible] at h
    rw [tokens, List.length_cons, List.length_append] at hdepth
    rw [tokens, importsKeyword, outline, List.cons_append, List.append_assoc]
    exact step_return (Expr.rereads_of_isLegible h Level.test (Nat.le_refl _) (by decide))
      (Nat.le_of_succ_le (Nat.le_of_succ_le hdepth)) rest
  case pass =>
    rw [tokens, importsKeyword, outline]
    exact step_pass rest

/-- The statements of a block are read one by one, unless one of them imports a reserved word. -/
theorem listReads (ss : List Statement) (h : areLegible ss = true)
    {depth level rounds : Nat} (hdepth : (listTokens ss).length ≤ depth)
    (hlevel : (listTokens ss).length ≤ level) (hrounds : (listTokens ss).length ≤ rounds)
    (rest : List Token) (hend : rest = [] ∨ rest.head? = some .dedent) :
    gather (Blocks.nextStatement ⟨.ofDepth depth, statementAt (.ofDepth depth) level⟩) rounds
        (listTokens ss ++ rest) =
      if ss.any importsKeyword then none else some (ss.map outline, rest) := by
  cases ss with
  | nil =>
    refine gather_of_none ?_ rounds
    rw [listTokens, List.nil_append]
    rcases hend with rfl | hdedent
    · rfl
    · obtain ⟨us, rfl⟩ := List.head?_eq_some_iff.mp hdedent
      rfl
  | cons s ss =>
    rw [areLegible, Bool.and_eq_true] at h
    obtain ⟨t, ht, hdedent⟩ := s.head_tokens h.1
    obtain ⟨ts, hts⟩ := List.head?_eq_some_iff.mp ht
    rw [listTokens, List.length_append] at hdepth hlevel hrounds
    rw [hts, List.length_cons] at hrounds
    obtain ⟨rounds, rfl⟩ : ∃ n, rounds = n + 1 := ⟨rounds - 1, by omega⟩
    have hfirst := s.reads h.1 (show s.tokens.length ≤ depth by omega)
      (show s.tokens.length ≤ level by omega) (listTokens ss ++ rest)
    have hothers := listReads ss h.2 (show (listTokens ss).length ≤ depth by omega)
      (show (listTokens ss).length ≤ level by omega)
      (show (listTokens ss).length ≤ rounds by omega) rest hend
    have hhead : t ∈ (s.tokens ++ (listTokens ss ++ rest)).head? := by rw [hts]; rfl
    rw [listTokens, List.append_assoc, List.any_cons]
    cases hs : s.importsKeyword with
    | true =>
      rw [hs, if_pos rfl] at hfirst
      rw [Bool.true_or, if_pos rfl, gather]
      exact bind_of_none ((nextStatement_of_head hhead hdedent).trans (map_of_none hfirst some)) _
    | false =>
      rw [hs, if_neg Bool.false_ne_true] at hfirst
      rw [Bool.false_or, gather_nextStatement hhead hdedent hfirst]
      cases hss : ss.any importsKeyword with
      | true =>
        rw [hss, if_pos rfl] at hothers
        exact bind_of_none hothers _
      | false =>
        rw [hss, if_neg Bool.false_ne_true] at hothers
        exact bind_of_eq hothers _

end

/-! ### Texts -/

theorem lines_ne_nil (s : Statement) (d : Nat) : s.lines d ≠ [] := by
  cases s <;> rw [lines] <;> exact List.cons_ne_nil _ _

theorem trimmed_append {ls : List (List Char)} (hls : ls ≠ []) (ms : List (List Char)) :
    trimmed (ls ++ ms) = trimmed ls ++ ms := by
  rcases ls with _ | ⟨_ | ⟨c, cs⟩, ls⟩
  case nil => exact absurd rfl hls
  all_goals rfl

theorem getLast?_joinLines {ls : List (List Char)} (hls : ls ≠ []) :
    (joinLines ls).getLast? = some '\n' := by
  induction ls with
  | nil => exact absurd rfl hls
  | cons l ls ih =>
    rw [joinLines, List.getLast?_append, List.getLast?_cons]
    cases ls with
    | nil => rfl
    | cons m ms => rw [ih (List.cons_ne_nil _ _)]; rfl

/-- The text of a module is cut into the tokens of its statements. -/
theorem cut_moduleLines (hne : ss ≠ []) (h : areLegible ss = true)
    (hheight : blockHeight ss ≤ marginLimit) :
    CutLines 0 (joinLines (moduleLines ss)) (listTokens ss) := by
  obtain ⟨s, ss, rfl⟩ := List.exists_cons_of_ne_nil hne
  rw [areLegible, Bool.and_eq_true] at h
  rw [blockHeight] at hheight
  have hfirst := s.cut h.1 (show 0 + s.height ≤ marginLimit by omega)
  have hall := cutBehind ss h.2 (show 0 + blockHeight ss ≤ marginLimit by omega) hfirst
  rwa [← joinLines_append, ← trimmed_append (s.lines_ne_nil 0), ← blockLines,
    ← moduleLines_eq_trimmed, ← listTokens] at hall

/-- The text of a module is read as its outline unless a reserved word is imported. -/
theorem read_text (hne : ss ≠ []) (h : areLegible ss = true)
    (hheight : blockHeight ss ≤ marginLimit) :
    Outline.read (text ss) =
      if ss.any importsKeyword then .error .unreadableCode else .ok (listOutline ss) := by
  have hcut := cut_moduleLines hne h hheight
  have hlength := hcut.length_le
  have htokens : 0 < (listTokens ss).length := by
    obtain ⟨s, ss, rfl⟩ := List.exists_cons_of_ne_nil hne
    rw [areLegible, Bool.and_eq_true] at h
    obtain ⟨t, ht, -⟩ := s.head_tokens h.1
    obtain ⟨ts, hts⟩ := List.head?_eq_some_iff.mp ht
    rw [listTokens, hts]
    exact Nat.succ_pos _
  have hlines : moduleLines ss ≠ [] := by
    intro hnil
    rw [hnil] at hlength
    exact absurd (Nat.lt_of_lt_of_le htokens hlength) (Nat.lt_irrefl 0)
  have hmodule := hcut.moduleTokens (getLast?_joinLines hlines)
  have hnull : (joinLines (moduleLines ss)).contains '\x00' = false := by
    rw [Bool.eq_false_iff, ne_eq, List.contains_iff_mem]
    exact fun hmem => hcut.clean _ hmem (.inl rfl)
  have hbound : (listTokens ss).length ≤ (joinLines (moduleLines ss)).length + 2 := by omega
  have hgather := listReads ss h hbound hbound hbound [] (.inl rfl)
  rw [List.append_nil] at hgather
  unfold Outline.read
  rw [text, String.toList_ofList, hnull, if_neg Bool.false_ne_true]
  have hstatements : (Blocks.statements ⟨.ofLength (joinLines (moduleLines ss)).length,
      statementAt (.ofLength (joinLines (moduleLines ss)).length)
        ((joinLines (moduleLines ss)).length + 2)⟩) (listTokens ss) =
      if ss.any importsKeyword then none else some (listOutline ss, []) := by
    cases hkeyword : ss.any importsKeyword with
    | true =>
      rw [hkeyword, if_pos rfl] at hgather
      exact bind_of_none hgather _
    | false =>
      rw [hkeyword, if_neg Bool.false_ne_true] at hgather
      rw [if_neg Bool.false_ne_true, ← flatten_map_outline]
      exact bind_of_eq hgather _
  have hchars : Outline.ofChars? (joinLines (moduleLines ss)) =
      if ss.any importsKeyword then none else some (listOutline ss) := by
    unfold Outline.ofChars?
    simp only [hmodule, Option.bind_eq_bind, Option.bind_some, StateT.run]
    change ((Blocks.statements ⟨.ofLength (joinLines (moduleLines ss)).length,
      statementAt (.ofLength (joinLines (moduleLines ss)).length)
        ((joinLines (moduleLines ss)).length + 2)⟩) (listTokens ss)).bind _ = _
    rw [hstatements]
    cases ss.any importsKeyword <;> rfl
  rw [hchars]
  cases ss.any importsKeyword <;> rfl

end Statement

end Statements

end LivePreview.Code
