import LivePreview.Code.Grammar

/-!
# What the readers of expressions take

An import begins with a keyword that no expression has. So a reader that only takes expressions,
names and marks never takes this keyword: it is quiet. Quiet readers make up quiet readers, whatever
way they are put together; only a reader that takes a token without a look at it needs to know what
comes next. By induction on the depth all readers of expressions are quiet.
-/

namespace LivePreview.Code

open Reader
open LivePreview.Text (normalForm)

/-- The keyword that every import has, and nothing else. -/
def importMark : Token := .keyword "import"

/-- No import stands between the tokens and the rest of them. -/
def Past (ts rest : List Token) : Prop := ∃ taken, ts = taken ++ rest ∧ importMark ∉ taken

theorem Past.refl (ts : List Token) : Past ts ts := ⟨[], rfl, List.not_mem_nil⟩

theorem Past.trans {ts between rest : List Token} (h : Past ts between) (hrest : Past between rest) :
    Past ts rest := by
  obtain ⟨taken, rfl, htaken⟩ := h
  obtain ⟨more, rfl, hmore⟩ := hrest
  exact ⟨taken ++ more, by rw [List.append_assoc], by simp [htaken, hmore]⟩

theorem Past.cons {t : Token} (ht : t ≠ importMark) (ts : List Token) : Past (t :: ts) ts :=
  ⟨[t], rfl, by simpa using ht.symm⟩

/-- The reader takes no import. -/
def Quiet {α : Type} (r : Reader α) : Prop := ∀ ts a rest, r ts = some (a, rest) → Past ts rest

/-- The reader takes no import where `t` comes next. -/
def QuietAt {α : Type} (t : Option Token) (r : Reader α) : Prop :=
  ∀ ts a rest, ts.head? = t → r ts = some (a, rest) → Past ts rest

theorem cons_tail_of_head? {ts : List Token} {t : Token} (h : ts.head? = some t) :
    ts = t :: ts.tail := by
  cases ts with
  | nil => cases h
  | cons u ts => rw [← Option.some.inj h, List.tail_cons]

/-- Reading in two steps. -/
theorem bind_eq_some {α β : Type} {r : Reader α} {f : α → Reader β} {ts rest : List Token} {b : β}
    (h : (r >>= f) ts = some (b, rest)) :
    ∃ a between, r ts = some (a, between) ∧ f a between = some (b, rest) := by
  obtain ⟨⟨a, between⟩, hr, hf⟩ := Option.bind_eq_some_iff.mp h
  exact ⟨a, between, hr, hf⟩

/-! ## Single tokens -/

section Tokens

theorem accept_eq_some {t : Token} {ts rest : List Token} {found : Bool}
    (h : accept t ts = some (found, rest)) :
    (found = true ∧ ts = t :: rest) ∨ (found = false ∧ ts = rest) := by
  unfold accept at h
  split at h
  · next hhead =>
    rw [cons_tail_of_head? hhead] at h ⊢
    cases h
    exact .inl ⟨rfl, rfl⟩
  · cases h
    exact .inr ⟨rfl, rfl⟩

theorem expect_eq_some {t : Token} {ts rest : List Token} {u : Unit}
    (h : expect t ts = some (u, rest)) : ts = t :: rest := by
  unfold expect at h
  split at h
  · next hhead =>
    rw [cons_tail_of_head? hhead] at h ⊢
    cases h
    rfl
  · cases h

theorem name_eq_some {ts rest : List Token} {s : String} (h : name ts = some (s, rest)) :
    ∃ n, ts = .name n :: rest ∧ s = normalForm n := by
  unfold name at h
  split at h
  · next n more =>
    cases h
    exact ⟨n, rfl, rfl⟩
  · cases h

theorem quiet_accept {t : Token} (ht : t ≠ importMark) : Quiet (accept t) := by
  intro ts found rest h
  rcases accept_eq_some h with ⟨-, rfl⟩ | ⟨-, rfl⟩
  · exact .cons ht rest
  · exact .refl ts

theorem quiet_expect {t : Token} (ht : t ≠ importMark) : Quiet (expect t) := by
  intro ts u rest h
  rw [expect_eq_some h]
  exact .cons ht rest

theorem quiet_isNext (t : Token) : Quiet (isNext t) := by
  intro ts b rest h
  cases h
  exact .refl ts

theorem quiet_peek : Quiet peek := by
  intro ts b rest h
  cases h
  exact .refl ts

theorem quiet_name : Quiet name := by
  intro ts s rest h
  obtain ⟨n, rfl, -⟩ := name_eq_some h
  exact .cons (t := .name n) nofun rest

theorem quiet_isNameBefore (s : String) : Quiet (isNameBefore s) := by
  intro ts b rest h
  unfold isNameBefore at h
  split at h
  · cases h
    exact .refl _
  · cases h
    exact .refl _

theorem quiet_acceptSymbol (s : String) : Quiet (acceptSymbol s) := quiet_accept nofun

theorem quiet_expectSymbol (s : String) : Quiet (expectSymbol s) := quiet_expect nofun

theorem quiet_isSymbolNext (s : String) : Quiet (isSymbolNext s) := quiet_isNext _

theorem quiet_isKeywordNext (s : String) : Quiet (isKeywordNext s) := quiet_isNext _

theorem keyword_ne_importMark {s : String} (hs : s ≠ "import") : Token.keyword s ≠ importMark :=
  fun h => hs (Token.keyword.inj h)

theorem quiet_acceptKeyword {s : String} (hs : s ≠ "import") : Quiet (acceptKeyword s) :=
  quiet_accept (keyword_ne_importMark hs)

theorem quiet_expectKeyword {s : String} (hs : s ≠ "import") : Quiet (expectKeyword s) :=
  quiet_expect (keyword_ne_importMark hs)

end Tokens

/-! ## Readers of readers -/

section Combined

variable {α β : Type} {r s : Reader α}

theorem quiet_pure (a : α) : Quiet (pure a) := by
  intro ts b rest h
  cases h
  exact .refl ts

theorem quiet_failure : Quiet (failure : Reader α) := fun _ _ _ h => nomatch h

theorem quiet_lift (o : Option α) : Quiet (liftM o : Reader α) := by
  intro ts a rest h
  obtain ⟨b, -, hb⟩ := Option.bind_eq_some_iff.mp h
  cases hb
  exact .refl ts

theorem eq_of_require {c : Bool} {ts rest : List Token} {u : Unit}
    (h : require c ts = some (u, rest)) : ts = rest := by
  cases c with
  | true =>
    cases h
    rfl
  | false => cases h

theorem quiet_require (c : Bool) : Quiet (require c) := by
  intro ts u rest h
  rw [eq_of_require h]
  exact .refl rest

theorem Quiet.bind {f : α → Reader β} (hr : Quiet r) (hf : ∀ a, Quiet (f a)) :
    Quiet (r >>= f) := by
  intro ts b rest h
  obtain ⟨a, between, ha, hb⟩ := bind_eq_some h
  exact (hr ts a between ha).trans (hf a between b rest hb)

theorem Quiet.ite {c : Prop} [Decidable c] (hr : Quiet r) (hs : Quiet s) :
    Quiet (if c then r else s) := by
  split
  · exact hr
  · exact hs

theorem eq_some_of_orElse {ts rest : List Token} {a : α} (h : (r <|> s) ts = some (a, rest)) :
    r ts = some (a, rest) ∨ s ts = some (a, rest) := by
  change ((r ts).orElse fun _ => s ts) = some (a, rest) at h
  rw [Option.orElse_eq_or] at h
  exact (Option.or_eq_some_iff.mp h).imp_right And.right

theorem Quiet.orElse (hr : Quiet r) (hs : Quiet s) : Quiet (r <|> s) := by
  intro ts a rest h
  rcases eq_some_of_orElse h with h | h
  · exact hr ts a rest h
  · exact hs ts a rest h

theorem Quiet.map (f : α → β) (hr : Quiet r) : Quiet (f <$> r) := by
  intro ts b rest h
  obtain ⟨⟨a, between⟩, ha, hb⟩ := Option.bind_eq_some_iff.mp h
  cases hb
  exact hr ts a rest ha

theorem Quiet.discard (hr : Quiet r) : Quiet (discard r) := hr.map _

theorem Quiet.gather {item : Reader (Option α)} (hitem : Quiet item) :
    ∀ rounds, Quiet (gather item rounds)
  | 0 => quiet_pure []
  | rounds + 1 => by
    rw [Reader.gather]
    refine hitem.bind fun found => ?_
    cases found with
    | none => exact quiet_pure []
    | some a => exact (hitem.gather rounds).bind fun _ => quiet_pure _

theorem Quiet.extend {step : α → Reader (Option α)} (hstep : ∀ a, Quiet (step a)) :
    ∀ rounds a, Quiet (extend step rounds a)
  | 0, a => quiet_pure a
  | rounds + 1, a => by
    rw [Reader.extend]
    refine (hstep a).bind fun found => ?_
    cases found with
    | none => exact quiet_pure a
    | some b => exact Quiet.extend hstep rounds b

theorem Quiet.sequence {atEnd : Reader Bool} (hatEnd : Quiet atEnd) (hr : Quiet r) :
    ∀ rounds, Quiet (sequence atEnd r rounds)
  | 0 => quiet_pure []
  | rounds + 1 => by
    rw [Reader.sequence]
    refine hatEnd.bind fun _ => .ite (quiet_pure []) (hr.bind fun a => ?_)
    exact (quiet_acceptSymbol _).bind fun _ =>
      .ite ((hatEnd.sequence hr rounds).bind fun _ => quiet_pure _) (quiet_pure _)

theorem Quiet.at (hr : Quiet r) (t : Option Token) : QuietAt t r :=
  fun ts a rest _ h => hr ts a rest h

/-- What is read depends on the next token, which is known then. -/
theorem quiet_peek_bind {f : Option Token → Reader β} (hf : ∀ t, QuietAt t (f t)) :
    Quiet (peek >>= f) := fun ts b rest h => hf ts.head? ts b rest rfl h

theorem quietAt_skip_bind (t : Token) (ht : t ≠ importMark) {f : Unit → Reader β}
    (hf : Quiet (f ())) : QuietAt (some t) (skip >>= f) := by
  intro ts b rest hhead h
  rw [cons_tail_of_head? hhead] at h ⊢
  exact (Past.cons ht _).trans (hf _ b rest h)

/-- A name and then a symbol may be taken without another look. -/
theorem quiet_isNameBefore_bind {s : String} {f : Bool → Reader β}
    (hf : ∀ n ts b rest, f true (.name n :: .symbol s :: ts) = some (b, rest) → Past ts rest)
    (hother : Quiet (f false)) : Quiet (isNameBefore s >>= f) := by
  intro ts b rest h
  obtain ⟨found, between, hfound, hb⟩ := bind_eq_some h
  unfold isNameBefore at hfound
  split at hfound
  · next n symbol more =>
    cases hfound
    by_cases hsymbol : symbol = s
    · subst hsymbol
      rw [decide_eq_true rfl] at hb
      have hname : Past (.name n :: .symbol symbol :: more) (.symbol symbol :: more) :=
        .cons (t := .name n) nofun _
      exact (hname.trans (.cons (t := .symbol symbol) nofun more)).trans (hf n more b rest hb)
    · rw [decide_eq_false hsymbol] at hb
      exact hother _ b rest hb
  · cases hfound
    exact hother _ b rest hb

end Combined

/-! ## Expressions -/

/-- All that is read inside takes no import. -/
def Within.Quiet (w : Within) : Prop := ∀ goal, Code.Quiet (w.read goal)

theorem quiet_isExpressionNext : Quiet isExpressionNext :=
  quiet_peek.bind fun _ => quiet_pure _

theorem quiet_isLoopNext : Quiet isLoopNext :=
  (quiet_isKeywordNext _).bind fun _ => (quiet_isKeywordNext _).bind fun _ => quiet_pure _

theorem quiet_binaryOpIn (table : List (String × BinaryOp)) : Quiet (binaryOpIn table) :=
  quiet_peek_bind fun
    | some (.symbol s) => by
      dsimp only
      split
      · exact quietAt_skip_bind (.symbol s) nofun (quiet_pure _)
      · exact (quiet_pure _).at _
    | some (.name _) | some (.keyword _) | some (.constant _) | some (.literal _ _)
    | some .newline | some .indent | some .dedent | none => (quiet_pure _).at _

theorem quiet_literalToken : Quiet literalToken :=
  quiet_peek_bind fun
    | some (.literal marks body) => quietAt_skip_bind (.literal marks body) nofun (quiet_pure _)
    | some (.name _) | some (.keyword _) | some (.constant _) | some (.symbol _)
    | some .newline | some .indent | some .dedent | none => (quiet_pure _).at _

section Expressions

variable {w : Within} (hw : w.Quiet)

include hw

omit hw in
theorem quiet_binaryChain (table : List (String × BinaryOp)) {operand : Reader Expr}
    (hoperand : Quiet operand) : Quiet (binaryChain w table operand) := by
  refine hoperand.bind fun first => .extend (fun left => ?_) _ _
  refine (quiet_binaryOpIn table).bind fun found => ?_
  cases found with
  | none => exact quiet_pure _
  | some op => exact hoperand.bind fun _ => quiet_pure _

theorem quiet_named : Quiet w.named :=
  quiet_isNameBefore_bind
    (fun _ ts e rest h => (hw .expression).bind (fun _ => quiet_pure _) ts e rest h)
    (hw .expression)

theorem quiet_starItem : Quiet w.starItem :=
  (quiet_acceptSymbol _).bind fun _ =>
    .ite ((hw .union).bind fun _ => quiet_pure _) (quiet_named hw)

theorem quiet_target : Quiet w.target :=
  have hend (e : Expr) : Quiet (do require (isTarget e); return e) :=
    (quiet_require _).bind fun _ => quiet_pure _
  (quiet_acceptSymbol _).bind fun _ =>
    .ite ((hw .primary).bind fun _ => (quiet_pure _).bind hend) ((hw .primary).bind hend)

theorem quiet_targets : Quiet w.targets :=
  (quiet_target hw).bind fun _ => (quiet_acceptSymbol _).bind fun _ =>
    .ite (((quiet_isKeywordNext _).sequence (quiet_target hw) _).bind fun _ => quiet_pure _)
      (quiet_pure _)

theorem quiet_condition : Quiet w.condition :=
  (quiet_acceptKeyword (by decide)).bind fun _ =>
    .ite ((hw .disjunction).bind fun _ => quiet_pure _) (quiet_pure _)

theorem quiet_clause : Quiet w.clause :=
  quiet_isLoopNext.bind fun _ => .ite
    ((quiet_acceptKeyword (by decide)).bind fun _ => (quiet_expectKeyword (by decide)).bind fun _ =>
      (quiet_targets hw).bind fun _ => (quiet_expectKeyword (by decide)).bind fun _ =>
      (hw .disjunction).bind fun _ => ((quiet_condition hw).gather _).bind fun _ => quiet_pure _)
    (quiet_pure _)

theorem quiet_clauses : Quiet w.clauses := (quiet_clause hw).gather _

theorem quiet_yield : Quiet w.yield :=
  (quiet_expectKeyword (by decide)).bind fun _ => (quiet_acceptKeyword (by decide)).bind fun _ =>
    .ite ((hw .expression).bind fun _ => quiet_pure _)
      (quiet_isExpressionNext.bind fun _ =>
        .ite ((hw .items).bind fun _ => quiet_pure _) (quiet_pure _))

omit hw in
/-- A closing bracket ends what is read. -/
theorem quiet_closing {α : Type} (s : String) (a : α) : Quiet (do expectSymbol s; return a) :=
  (quiet_expectSymbol s).bind fun _ => quiet_pure a

theorem quiet_parenthesis : Quiet w.parenthesis := by
  refine (quiet_acceptSymbol _).bind fun _ => .ite (quiet_pure _) ?_
  refine (quiet_isKeywordNext _).bind fun _ => .ite ?yield ?item
  case yield => exact (quiet_yield hw).bind fun _ => quiet_closing _ _
  case item =>
    refine (quiet_starItem hw).bind fun _ => (quiet_acceptSymbol _).bind fun _ => .ite ?tuple ?single
    case tuple =>
      exact ((quiet_isSymbolNext _).sequence (quiet_starItem hw) _).bind fun _ =>
        quiet_closing _ _
    case single =>
      refine (quiet_require _).bind fun _ => quiet_isLoopNext.bind fun _ => .ite ?_ ?_
      · exact (quiet_clauses hw).bind fun _ => (quiet_pure _).bind fun _ => quiet_closing _ _
      · exact (quiet_pure _).bind fun _ => quiet_closing _ _

omit hw in
/-- The rest of a display after its first item, up to the bracket. -/
theorem quiet_displayRest {α β : Type} {item : Reader α} (hitem : Quiet item) (closing : String)
    (f : List α → β) : Quiet (do
      let rest ← if ← acceptSymbol "," then sequence (isSymbolNext closing) item w.bound
        else pure []
      expectSymbol closing
      return f rest) :=
  (quiet_acceptSymbol _).bind fun _ =>
    .ite (((quiet_isSymbolNext _).sequence hitem _).bind fun _ => quiet_closing _ _)
      ((quiet_pure _).bind fun _ => quiet_closing _ _)

theorem quiet_listDisplay : Quiet w.listDisplay := by
  refine (quiet_acceptSymbol _).bind fun _ => .ite (quiet_pure _) ?_
  refine (quiet_starItem hw).bind fun _ => quiet_isLoopNext.bind fun _ => .ite ?_ ?_
  · exact (quiet_require _).bind fun _ => (quiet_clauses hw).bind fun _ => quiet_closing _ _
  · exact quiet_displayRest (quiet_starItem hw) "]" _

theorem quiet_mappingItem : Quiet w.mappingItem :=
  (quiet_acceptSymbol _).bind fun _ => .ite ((hw .union).bind fun _ => quiet_pure _)
    ((hw .expression).bind fun _ => (quiet_expectSymbol _).bind fun _ =>
      (hw .expression).bind fun _ => quiet_pure _)

theorem quiet_mappingRest (first : MappingItem) : Quiet (w.mappingRest first) :=
  quiet_displayRest (quiet_mappingItem hw) "\x7d" _

theorem quiet_braceDisplay : Quiet w.braceDisplay := by
  refine (quiet_acceptSymbol _).bind fun _ => .ite (quiet_pure _) ?_
  refine (quiet_acceptSymbol _).bind fun _ =>
    .ite ((hw .union).bind fun _ => quiet_mappingRest hw _) ?_
  refine (quiet_isNameBefore _).bind fun _ => (quiet_isSymbolNext _).bind fun _ => ?_
  refine (quiet_starItem hw).bind fun _ => (quiet_isSymbolNext _).bind fun _ => .ite ?mapping ?set
  case mapping =>
    refine (quiet_expectSymbol _).bind fun _ => (hw .expression).bind fun _ =>
      quiet_isLoopNext.bind fun _ => .ite ?_ (quiet_mappingRest hw _)
    exact (quiet_clauses hw).bind fun _ => quiet_closing _ _
  case set =>
    refine quiet_isLoopNext.bind fun _ => .ite ?_ (quiet_displayRest (quiet_starItem hw) "\x7d" _)
    exact (quiet_require _).bind fun _ => (quiet_clauses hw).bind fun _ => quiet_closing _ _

theorem quiet_atom : Quiet w.atom :=
  quiet_peek_bind fun
    | some (.name _) => (quiet_name.bind fun _ => quiet_pure _).at _
    | some (.constant value) => quietAt_skip_bind (.constant value) nofun (quiet_pure _)
    | some (.literal _ _) => ((quiet_literalToken.gather _).bind fun _ => quiet_lift _).at _
    | some (.keyword s) => by
      by_cases hs : s = "import"
      · -- An import is no constant.
        subst hs
        exact fun ts e rest _ h => nomatch h
      · exact quietAt_skip_bind (.keyword s) (keyword_ne_importMark hs)
          (.ite (quiet_pure _) (.ite (quiet_pure _) (.ite (quiet_pure _) quiet_failure)))
    | some (.symbol s) => quietAt_skip_bind (.symbol s) nofun
      (.ite (quiet_parenthesis hw) (.ite (quiet_listDisplay hw) (.ite (quiet_braceDisplay hw)
        (.ite (quiet_pure _) quiet_failure))))
    | some .newline | some .indent | some .dedent | none => quiet_failure.at _

theorem quiet_argument (seenKeyword seenMapping : Bool) :
    Quiet (w.argument seenKeyword seenMapping) := by
  refine (quiet_acceptSymbol _).bind fun _ => .ite ?starred ?_
  case starred =>
    exact (quiet_require _).bind fun _ => (hw .expression).bind fun _ => quiet_pure _
  refine (quiet_acceptSymbol _).bind fun _ =>
    .ite ((hw .expression).bind fun _ => quiet_pure _) ?_
  have hvalue (key : String) : Quiet (do
      return Argument.keyword (.named key (← w.read .expression))) :=
    (hw .expression).bind fun _ => quiet_pure _
  exact quiet_isNameBefore_bind (fun n ts e rest h => hvalue (Text.normalForm n) ts e rest h)
    ((quiet_require _).bind fun _ => (quiet_named hw).bind fun _ => quiet_pure _)

theorem quiet_arguments (generators : Bool) : ∀ rounds seenKeyword seenMapping isFirst,
    Quiet (w.arguments generators rounds seenKeyword seenMapping isFirst)
  | 0, _, _, _ => quiet_failure
  | rounds + 1, seenKeyword, seenMapping, isFirst => by
    have hothers (seenKeyword seenMapping : Bool) : Quiet (do
        if ← acceptSymbol "," then w.arguments generators rounds seenKeyword seenMapping false
        else
          expectSymbol ")"
          return ⟨[], []⟩) :=
      (quiet_acceptSymbol _).bind fun _ =>
        .ite (quiet_arguments generators rounds _ _ _) (quiet_closing _ _)
    rw [Within.arguments]
    refine (quiet_acceptSymbol _).bind fun _ => .ite (quiet_pure _) ?_
    refine (quiet_argument hw _ _).bind fun found => ?_
    cases found with
    | positional value =>
      refine quiet_isLoopNext.bind fun _ => .ite ?_ ?_
      · exact (quiet_clauses hw).bind fun _ => quiet_closing _ _
      · exact (hothers _ _).bind fun _ => quiet_pure _
    | keyword value => exact (hothers _ _).bind fun _ => quiet_pure _

theorem quiet_sliceBound : Quiet w.sliceBound :=
  (quiet_isSymbolNext _).bind fun _ => (quiet_isSymbolNext _).bind fun _ =>
    (quiet_isSymbolNext _).bind fun _ => .ite (quiet_pure _)
      ((hw .expression).bind fun _ => quiet_pure _)

theorem quiet_sliceAfter (lower : Option Expr) : Quiet (w.sliceAfter lower) :=
  (quiet_sliceBound hw).bind fun _ => (quiet_acceptSymbol _).bind fun _ =>
    .ite ((quiet_sliceBound hw).bind fun _ => quiet_pure _)
      ((quiet_pure _).bind fun _ => quiet_pure _)

theorem quiet_slice : Quiet w.slice :=
  (quiet_acceptSymbol _).bind fun _ => .ite (quiet_sliceAfter hw _)
    ((quiet_isNameBefore _).bind fun _ => .ite (quiet_named hw)
      ((hw .expression).bind fun _ => (quiet_acceptSymbol _).bind fun _ =>
        .ite (quiet_sliceAfter hw _) (quiet_pure _)))

theorem quiet_sliceItem : Quiet w.sliceItem :=
  (quiet_acceptSymbol _).bind fun _ =>
    .ite ((hw .expression).bind fun _ => quiet_pure _) (quiet_slice hw)

theorem quiet_index : Quiet w.index :=
  (quiet_sliceItem hw).bind fun _ => (quiet_acceptSymbol _).bind fun _ =>
    .ite (((quiet_isSymbolNext _).sequence (quiet_sliceItem hw) _).bind fun _ => quiet_closing _ _)
      (quiet_closing _ _)

theorem quiet_trailer (e : Expr) : Quiet (w.trailer e) :=
  (quiet_acceptSymbol _).bind fun _ => .ite (quiet_name.bind fun _ => quiet_pure _)
    ((quiet_acceptSymbol _).bind fun _ =>
      .ite ((quiet_arguments hw _ _ _ _ _).bind fun _ => quiet_pure _)
        ((quiet_acceptSymbol _).bind fun _ =>
          .ite ((quiet_index hw).bind fun _ => quiet_pure _) (quiet_pure _)))

theorem quiet_primary : Quiet w.primary :=
  (quiet_atom hw).bind fun _ => .extend (quiet_trailer hw) _ _

theorem quiet_power : Quiet w.power :=
  have hexponent (base : Expr) : Quiet (do
      if ← acceptSymbol "**" then return Expr.binary base .pow (← w.read .factor) else return base) :=
    (quiet_acceptSymbol _).bind fun _ =>
      .ite ((hw .factor).bind fun _ => quiet_pure _) (quiet_pure _)
  (quiet_acceptKeyword (by decide)).bind fun _ =>
    .ite ((hw .primary).bind fun _ => (quiet_pure _).bind hexponent)
      ((quiet_primary hw).bind hexponent)

theorem quiet_factor : Quiet w.factor :=
  have hsigned (op : UnaryOp) : Quiet (do return Expr.unary op (← w.read .factor)) :=
    (hw .factor).bind fun _ => quiet_pure _
  (quiet_acceptSymbol _).bind fun _ => .ite (hsigned _)
    ((quiet_acceptSymbol _).bind fun _ => .ite (hsigned _)
      ((quiet_acceptSymbol _).bind fun _ => .ite (hsigned _) (quiet_power hw)))

theorem quiet_product : Quiet w.product := quiet_binaryChain _ (quiet_factor hw)

theorem quiet_sum : Quiet w.sum := quiet_binaryChain _ (quiet_product hw)

theorem quiet_shift : Quiet w.shift := quiet_binaryChain _ (quiet_sum hw)

theorem quiet_meet : Quiet w.meet := quiet_binaryChain _ (quiet_shift hw)

theorem quiet_exclusive : Quiet w.exclusive := quiet_binaryChain _ (quiet_meet hw)

theorem quiet_union : Quiet w.union := quiet_binaryChain _ (quiet_exclusive hw)

omit hw in
/-- An operator of two keywords, if both come next. -/
theorem quietAt_notMember (s : String) : QuietAt (some (.keyword s)) (do
    if s = "not" && (← peekSecond) = some (.keyword "in") then
      skip
      skip
      return some CompareOp.notMember
    else return none) := by
  intro ts op rest hhead h
  rw [cons_tail_of_head? hhead] at h ⊢
  generalize ts.tail = more at h ⊢
  change (if s = "not" && decide (more.head? = some (.keyword "in")) then
      (do skip; skip; return some .notMember : Reader (Option CompareOp))
    else pure none) (.keyword s :: more) = some (op, rest) at h
  split at h
  · next hnot =>
    obtain ⟨rfl, hin⟩ : s = "not" ∧ more.head? = some (.keyword "in") := by simpa using hnot
    rw [cons_tail_of_head? hin] at h ⊢
    cases h
    exact (Past.cons (keyword_ne_importMark (by decide)) _).trans
      (.cons (keyword_ne_importMark (by decide)) _)
  · cases h
    exact .refl _

omit hw in
theorem quiet_compareOp : Quiet compareOp :=
  quiet_peek_bind fun
    | some (.symbol s) => by
      dsimp only
      split
      · exact quietAt_skip_bind (.symbol s) nofun (quiet_pure _)
      · exact (quiet_pure _).at _
    | some (.keyword s) => by
      dsimp only
      split
      · next hs =>
        have hmark := keyword_ne_importMark (s := s) (hs ▸ by decide)
        exact quietAt_skip_bind (.keyword s) hmark (quiet_pure _)
      · split
        · next hs =>
          have hmark := keyword_ne_importMark (s := s) (hs ▸ by decide)
          exact quietAt_skip_bind (.keyword s) hmark
            ((quiet_acceptKeyword (by decide)).bind fun _ => .ite (quiet_pure _) (quiet_pure _))
        · exact quietAt_notMember s
    | some (.name _) | some (.constant _) | some (.literal _ _) | some .newline | some .indent
    | some .dedent | none => (quiet_pure _).at _

theorem quiet_comparison : Quiet w.comparison := by
  refine quiet_compareOp.bind fun found => ?_
  cases found with
  | none => exact quiet_pure _
  | some op => exact (quiet_union hw).bind fun _ => quiet_pure _

theorem quiet_compare : Quiet w.compare := by
  refine (quiet_union hw).bind fun _ => ((quiet_comparison hw).gather _).bind fun rest => ?_
  cases rest with
  | nil => exact quiet_pure _
  | cons step steps => exact quiet_pure _

theorem quiet_inversion : Quiet w.inversion :=
  (quiet_acceptKeyword (by decide)).bind fun _ =>
    .ite ((hw .inversion).bind fun _ => quiet_pure _) (quiet_compare hw)

omit hw in
theorem quiet_chain {keyword : String} (hkeyword : keyword ≠ "import") (op : BoolOp)
    {operand : Reader Expr} (hoperand : Quiet operand) : Quiet (w.chain keyword op operand) := by
  have hnext : Quiet (do
      if ← acceptKeyword keyword then return some (← operand) else return none) :=
    (quiet_acceptKeyword hkeyword).bind fun _ =>
      .ite (hoperand.bind fun _ => quiet_pure _) (quiet_pure _)
  refine hoperand.bind fun _ => (hnext.gather _).bind fun rest => ?_
  cases rest with
  | nil => exact quiet_pure _
  | cons e es => exact quiet_pure _

theorem quiet_conjunction : Quiet w.conjunction :=
  quiet_chain (by decide) _ (quiet_inversion hw)

theorem quiet_disjunction : Quiet w.disjunction :=
  quiet_chain (by decide) _ (quiet_conjunction hw)

/-- A parameter is quiet where what may stand behind its name is. -/
theorem quiet_param {hint : TypeHint} (hhint : ∀ collecting, Quiet (hint collecting))
    (st : ParamState) : Quiet (w.param hint st) := by
  refine (quiet_require _).bind fun _ => (quiet_acceptSymbol _).bind fun _ => .ite ?_ ?_
  · exact (quiet_require _).bind fun _ => quiet_pure _
  refine (quiet_acceptSymbol _).bind fun _ => .ite ?_ ?_
  · exact (quiet_require _).bind fun _ => quiet_name.bind fun _ => (hhint _).bind fun _ =>
      quiet_pure _
  refine (quiet_acceptSymbol _).bind fun _ => .ite ?_ ?_
  · exact (quiet_require _).bind fun _ => (quiet_isSymbolNext _).bind fun _ =>
      .ite (quiet_pure _) (quiet_name.bind fun _ => (hhint _).bind fun _ => quiet_pure _)
  · refine quiet_name.bind fun _ => (hhint _).bind fun _ => (quiet_acceptSymbol _).bind fun _ => ?_
    exact .ite
      ((hw .expression).bind fun _ => (quiet_pure _).bind fun _ => (quiet_require _).bind fun _ =>
        quiet_pure _)
      ((quiet_pure _).bind fun _ => (quiet_require _).bind fun _ => quiet_pure _)

theorem quiet_params {hint : TypeHint} (hhint : ∀ collecting, Quiet (hint collecting))
    (closing : String) : ∀ rounds st, Quiet (w.params hint closing rounds st)
  | 0, _ => quiet_failure
  | rounds + 1, st => by
    rw [Within.params]
    refine (quiet_isSymbolNext _).bind fun _ =>
      .ite ((quiet_require _).bind fun _ => quiet_pure _) ?_
    refine (quiet_param hw hhint st).bind fun st => (quiet_acceptSymbol _).bind fun _ =>
      .ite (quiet_params hhint closing rounds st) ?_
    exact (quiet_isSymbolNext _).bind fun _ => (quiet_require _).bind fun _ => quiet_pure _

theorem quiet_lambda : Quiet w.lambda :=
  (quiet_expectKeyword (by decide)).bind fun _ =>
    (quiet_params hw (fun _ => quiet_pure ()) _ _ _).bind fun _ =>
    (quiet_expectSymbol _).bind fun _ => (hw .expression).bind fun _ => quiet_pure _

theorem quiet_expression : Quiet w.expression :=
  (quiet_isKeywordNext _).bind fun _ => .ite (quiet_lambda hw)
    ((quiet_disjunction hw).bind fun _ => (quiet_acceptKeyword (by decide)).bind fun _ =>
      .ite ((quiet_disjunction hw).bind fun _ => (quiet_expectKeyword (by decide)).bind fun _ =>
        (hw .expression).bind fun _ => quiet_pure _) (quiet_pure _))

theorem quiet_starExpression : Quiet w.starExpression :=
  (quiet_acceptSymbol _).bind fun _ =>
    .ite ((quiet_union hw).bind fun _ => quiet_pure _) (quiet_expression hw)

omit hw in
theorem quiet_tupleOf {item : Reader Expr} (hitem : Quiet item) : Quiet (w.tupleOf item) :=
  have hend : Quiet (do return !(← isExpressionNext)) :=
    quiet_isExpressionNext.bind fun _ => quiet_pure _
  hitem.bind fun _ => (quiet_acceptSymbol _).bind fun _ =>
    .ite ((hend.sequence hitem _).bind fun _ => quiet_pure _) (quiet_pure _)

theorem quiet_items : Quiet w.items := quiet_tupleOf (quiet_starExpression hw)

theorem quiet_step : ∀ goal, Quiet (w.step goal)
  | .expression => quiet_expression hw
  | .disjunction => quiet_disjunction hw
  | .inversion => quiet_inversion hw
  | .union => quiet_union hw
  | .factor => quiet_factor hw
  | .primary => quiet_primary hw
  | .items => quiet_items hw

end Expressions

theorem quiet_readAt : ∀ depth goal, Quiet (readAt depth goal)
  | 0, _ => quiet_failure
  | depth + 1, goal => quiet_step (w := ⟨depth, readAt depth⟩) (quiet_readAt depth) goal

/-- No expression of a text takes an import. -/
theorem quiet_ofLength (length : Nat) : (Within.ofLength length).Quiet :=
  quiet_readAt (length + 2)

end LivePreview.Code
