import LivePreview.Proofs.Levels

/-!
# Tokens of expressions are read back

The tokens of an expression are read as the expression, with its names in normal form and its
fractions as their digits spell them. Each form is read back if its parts are; parts in a row are
taken one by one up to the bracket that ends them.
-/

namespace LivePreview.Code

open Reader
open LivePreview.Text (Points normalForm)

/-! ## What is read -/

mutual

/-- The expression as its text is read. -/
def Expr.reread : Expr → Expr
  | .constant k => .constant k.reread
  | .name id => .name (normalForm id)
  | .attribute v id => .attribute v.reread (normalForm id)
  | .subscript v i => .subscript v.reread i.reread
  | .slice l u s => .slice (optionReread l) (optionReread u) (optionReread s)
  | .starred v => .starred v.reread
  | .call f args ks => .call f.reread (listReread args) (keywordsReread ks)
  | .tuple es => .tuple (listReread es)
  | .list es => .list (listReread es)
  | .set es => .set (listReread es)
  | .mapping items => .mapping (mappingReread items)
  | .boolean op es => .boolean op (listReread es)
  | .binary l op r => .binary l.reread op r.reread
  | .unary op v => .unary op v.reread
  | .compare v rest => .compare v.reread (comparisonsReread rest)
  | .conditional t b o => .conditional t.reread b.reread o.reread
  | .lambda ps b => .lambda (paramsReread ps) b.reread
  | .comprehension k v cs => .comprehension k v.reread (clausesReread cs)
  | .mappingComprehension k v cs => .mappingComprehension k.reread v.reread (clausesReread cs)
  | .assignment id v => .assignment (normalForm id) v.reread
  | .yield v => .yield (optionReread v)
  | .yieldFrom v => .yieldFrom v.reread
  | .await v => .await v.reread
  | .format ps => .format ps

def optionReread : Option Expr → Option Expr
  | none => none
  | some e => some e.reread

def listReread : List Expr → List Expr
  | [] => []
  | e :: es => e.reread :: listReread es

def keywordsReread : List Keyword → List Keyword
  | [] => []
  | .named id v :: ks => .named (normalForm id) v.reread :: keywordsReread ks
  | .unpacked v :: ks => .unpacked v.reread :: keywordsReread ks

def mappingReread : List MappingItem → List MappingItem
  | [] => []
  | .pair k v :: items => .pair k.reread v.reread :: mappingReread items
  | .unpacked v :: items => .unpacked v.reread :: mappingReread items

def comparisonsReread : List Comparison → List Comparison
  | [] => []
  | .step op v :: rest => .step op v.reread :: comparisonsReread rest

def clausesReread : List Clause → List Clause
  | [] => []
  | .loop isAsync t s cs :: rest =>
    .loop isAsync t.reread s.reread (listReread cs) :: clausesReread rest

def paramsReread : List LambdaParam → List LambdaParam
  | [] => []
  | .param kind id default :: ps =>
    .param kind (normalForm id) (optionReread default) :: paramsReread ps

end

/-- An expression that is one value is read back at every level that it is asked for. -/
def Expr.Rereads (e : Expr) : Prop :=
  ∀ level, Level.test ≤ level → level ≤ Level.atom → Reads level (e.tokens level) e.reread

/-! ## Parts -/

def Goal.level : Goal → Nat
  | .expression => Level.test
  | .disjunction => Level.or
  | .inversion => Level.not
  | .union => Level.bitOr
  | .factor => Level.sign
  | .primary => Level.atom
  | .items => Level.tuple

namespace Reads

variable {level : Nat} {ts us rest : List Token} {e l v : Expr}

theorem ne_nil (h : Reads level ts e) : ts ≠ [] := by
  obtain ⟨t, ht, -⟩ := h.head
  rintro rfl
  cases ht

/-- A part is read one depth further down, where a token has been taken before it. -/
theorem part (h : Reads level ts e) (goal : Goal) (hgoal : goal.level = level)
    (hitems : goal ≠ .items) {depth : Nat} (hdepth : ts.length < depth) (hrest : Stops level rest) :
    (Within.ofDepth depth).read goal (ts ++ rest) = some (e, rest) := by
  obtain ⟨depth, rfl⟩ : ∃ d, depth = d + 1 := ⟨depth - 1, by omega⟩
  have hread := h.read (Nat.le_of_lt_succ hdepth) hrest
  subst hgoal
  cases goal with
  | items => exact absurd rfl hitems
  | _ => exact hread

theorem expression (h : Reads Level.test ts e) {depth : Nat} (hdepth : ts.length < depth)
    (hrest : Stops Level.test rest) :
    (Within.ofDepth depth).read .expression (ts ++ rest) = some (e, rest) :=
  h.part .expression rfl nofun hdepth hrest

theorem head_append (h : Reads level ts e) {wide : Nat} (hwide : wide ≤ level) (us : List Token) :
    ∃ t ∈ (ts ++ us).head?, wide ≤ t.opens := by
  obtain ⟨t, ht, hopens⟩ := h.head
  refine ⟨t, ?_, Nat.le_trans hwide hopens⟩
  rw [Option.mem_def, List.head?_append, ht]
  rfl

/-- What is read grows by one step to the right. -/
theorem grown (hgrows : grows level = true) (h : Reads level ts l) (hne : us ≠ [])
    (hstart : Stops (level + 1) us)
    (hstep : ∀ (depth : Nat) (rest : List Token), us.length ≤ depth → Stops (level + 1) rest →
      (Within.ofDepth depth).grow level l (us ++ rest) = some (some e, rest)) :
    Reads level (ts ++ us) e := by
  refine ⟨h.head_append (Nat.le_refl _) us, fun depth rest hdepth hrest => ?_⟩
  rw [if_pos hgrows] at hrest
  rw [List.length_append] at hdepth
  have hlength := List.length_pos_iff.mpr hne
  have hnext : Stops (level + 1) (us ++ rest) := by
    obtain ⟨u, us, rfl⟩ := List.exists_cons_of_ne_nil hne
    exact stops_cons (hstart u rfl)
  obtain ⟨rounds, hrounds, hread⟩ := h.reads depth (us ++ rest) (by omega)
    (by rwa [if_pos hgrows])
  obtain ⟨rounds, rfl⟩ : ∃ n, rounds = n + 1 := ⟨rounds - 1, by omega⟩
  refine ⟨rounds, by rw [List.length_append]; omega, ?_⟩
  rw [List.append_assoc, hread, extend, bind_of_eq (hstep depth rest (by omega) hrest)]

theorem of_atom (hhead : ∃ t ∈ ts.head?, Level.atom ≤ t.opens)
    (h : ∀ (depth : Nat) (rest : List Token), ts.length ≤ depth → Stops (Level.atom + 1) rest →
      (Within.ofDepth depth).atom (ts ++ rest) = some (e, rest)) : Reads Level.atom ts e := by
  refine ⟨hhead, fun depth rest hdepth hrest => ⟨depth, Nat.le_add_right _ _, ?_⟩⟩
  change ((Within.ofDepth depth).atom >>= _) (ts ++ rest) = _
  rw [bind_of_eq (h depth rest hdepth hrest)]
  rfl

end Reads

/-! ## Names and constants -/

theorem reads_name (id : String) : Reads Level.atom [.name id] (.name (normalForm id)) :=
  .of_atom ⟨_, rfl, Nat.le_refl _⟩ fun _ _ _ _ => rfl

theorem reads_number (k : Constant) : Reads Level.atom [.constant k] (.constant k) :=
  .of_atom ⟨_, rfl, Nat.le_refl _⟩ fun _ _ _ _ => rfl

/-- A literal with no other one behind it. -/
theorem reads_literal {marks body : List Char} {e : Expr}
    (h : ∀ field, literals? field [⟨marks, body⟩] = some e) :
    Reads Level.atom [.literal marks body] e := by
  refine .of_atom ⟨_, rfl, Nat.le_refl _⟩ fun depth rest hdepth hrest => ?_
  obtain ⟨depth, rfl⟩ : ∃ d, depth = d + 1 := ⟨depth - 1, by simp at hdepth; omega⟩
  have hnone : literalToken rest = some (none, rest) := by
    cases rest with
    | nil => rfl
    | cons t rest =>
      cases t with
      | literal marks body => exact absurd (hrest _ rfl) (Nat.lt_irrefl _)
      | _ => rfl
  have hgather : gather literalToken (depth + 1) (.literal marks body :: rest) =
      some ([⟨marks, body⟩], rest) := by
    rw [gather, bind_of_eq (show literalToken _ = some (some ⟨marks, body⟩, rest) from rfl)]
    dsimp only
    rw [bind_of_eq (gather_of_none hnone depth)]
    rfl
  change (gather literalToken (depth + 1) >>= fun ls =>
    (literals? (Within.ofDepth (depth + 1)).field ls : Reader Expr))
      (.literal marks body :: rest) = _
  rw [bind_of_eq hgather, h]
  rfl

theorem literals?_text {field : List Char → Option Expr} {body : List Char} {ps : Points}
    (marked : Bool) (hvalue : textValue? false body = some ps) :
    literals? field [⟨if marked then ['u'] else [], body⟩] = some (.constant (.text ps marked)) := by
  have hpieces : LiteralText.pieces? field ⟨if marked then ['u'] else [], body⟩ =
      some [.text ps] := by
    cases marked <;>
      simp [LiteralText.pieces?, LiteralText.isFormat, LiteralText.isRaw, hvalue]
  have hjoin : joinTexts [.text ps] = if ps.isEmpty then [] else [.text ps] := by
    simp [joinTexts]
  cases marked <;> cases ps <;>
    simp_all [literals?, LiteralText.isBytes, LiteralText.isFormat]

theorem literals?_bytes {field : List Char → Option Expr} {bs : List Nat}
    (hbs : ∀ b ∈ bs, b < 256) :
    literals? field [⟨['b'], bs.flatMap (quotedByte (plainQuote bs))⟩] =
      some (.constant (.bytes bs)) := by
  have hvalue := bytesValue?_quotedBytes (isQuote_plainQuote bs) hbs
  simp [literals?, LiteralText.isBytes, LiteralText.isRaw, hvalue]

theorem reads_constant {k : Constant} (h : k.isWritable = true) :
    Reads Level.atom [k.token] (.constant k.reread) := by
  cases k with
  | none | true | false | ellipsis =>
    exact .of_atom ⟨_, rfl, by decide⟩ fun _ _ _ _ => rfl
  | integer n => exact reads_number _
  | real x => exact reads_number _
  | imaginary x => exact reads_number _
  | text value marked =>
    have hvalue : ∀ p ∈ value, p ≤ 0x10ffff := by simpa [Constant.isWritable] using h
    exact reads_literal fun field => literals?_text marked (textValue?_quotedBody hvalue)
  | bytes value =>
    have hvalue : ∀ b ∈ value, b < 256 := by simpa [Constant.isWritable] using h
    exact reads_literal fun field => literals?_bytes hvalue

/-! ## Parts in a row -/

/-- What stands behind an item of a row: a comma, a bracket, or the loop of a comprehension. -/
def separators : List Token :=
  [.symbol ",", .symbol ")", .symbol "]", .symbol "\x7d", .keyword "for", .keyword "async"]

/-- An item of a row ends here. -/
def Parted (rest : List Token) : Prop := ∀ t ∈ rest.head?, t ∈ separators

section Parted

variable {rest : List Token}

theorem parted_cons {t : Token} (ht : t ∈ separators) : Parted (t :: rest) := by
  rintro u hu
  cases hu
  exact ht

theorem Parted.stops (h : Parted rest) {level : Nat} (hlevel : 0 < level) : Stops level rest := by
  have hall : ∀ t ∈ separators, t.joins = 0 := by decide
  intro t ht
  rw [hall t (h t ht)]
  exact hlevel

theorem Parted.head_ne (h : Parted rest) {t : Token} (ht : t ∉ separators) :
    rest.head? ≠ some t := fun hhead => ht (h t hhead)

end Parted

namespace Reads

variable {level depth : Nat} {ts rest : List Token} {e : Expr}

/-- A name stands alone, or what goes on with it makes a larger expression of it. -/
theorem isNameBefore (h : Reads level ts e) (hlow : Level.test ≤ level)
    (hhigh : level ≤ Level.atom) {s : String} (hs : (Token.symbol s).joins = 0)
    (hrest : rest.head? ≠ some (.symbol s)) :
    isNameBefore s (ts ++ rest) = some (false, ts ++ rest) := by
  have hsingle (id : String) (us : List Token) (hus : us.head? ≠ some (.symbol s)) :
      Reader.isNameBefore s (.name id :: us) = some (false, .name id :: us) := by
    rcases us with _ | ⟨_ | _ | _ | _ | r | _ | _ | _, us⟩
    case cons.symbol =>
      have hr : r ≠ s := fun hr => hus (by rw [hr]; rfl)
      simp [Reader.isNameBefore, hr]
    all_goals rfl
  rcases ts with _ | ⟨_ | _ | _ | _ | _ | _ | _ | _, ts⟩
  case nil => exact absurd rfl h.ne_nil
  case cons.name id =>
    refine hsingle id (ts ++ rest) fun hhead => ?_
    cases ts with
    | nil => exact hrest hhead
    | cons u us =>
      cases hhead
      -- The symbol goes on with nothing, so reading would stop before it.
      have hwhole := (h.widen (Nat.le_refl _) hlow hhigh).read (Nat.le_refl _) stops_nil
      have hstops : Stops Level.test (.symbol s :: us) := stops_cons (by rw [hs]; decide)
      have hname := ((reads_name id).widen (Nat.le_refl _) (by decide) (Nat.le_refl _)).read
        (show _ ≤ (Token.name id :: Token.symbol s :: us).length from
          Nat.succ_le_succ (Nat.zero_le _)) hstops
      rw [List.append_nil] at hwhole
      cases hwhole.symm.trans hname
  all_goals rfl

theorem named (h : Reads Level.test ts e) (hdepth : ts.length < depth)
    (hrest : Stops Level.test rest) (hassign : rest.head? ≠ some (.symbol ":=")) :
    (Within.ofDepth depth).named (ts ++ rest) = some (e, rest) := by
  unfold Within.named isAssignmentNext
  rw [bind_of_eq (h.isNameBefore (Nat.le_refl _) (by decide) (by decide) hassign),
    if_neg (by decide)]
  exact h.expression hdepth hrest

theorem starItem (h : Reads Level.test ts e) (hdepth : ts.length < depth)
    (hrest : Stops Level.test rest) (hassign : rest.head? ≠ some (.symbol ":=")) :
    (Within.ofDepth depth).starItem (ts ++ rest) = some (e, rest) := by
  unfold Within.starItem acceptSymbol
  rw [accept_bind (h.head_ne (by decide) rest), if_neg (by decide)]
  exact h.named hdepth hrest hassign

/-- An expression in parentheses. -/
theorem parenthesized (h : Reads Level.test ts e) (hstar : isStarred e = false) :
    Reads Level.atom (.symbol "(" :: (ts ++ [.symbol ")"])) e := by
  refine .of_atom ⟨_, rfl, Nat.le_refl _⟩ fun depth rest hdepth _ => ?_
  rw [List.length_cons, List.length_append] at hdepth
  have hclose : Stops Level.test (.symbol ")" :: rest) := stops_cons (by decide)
  have hfirst := h.starItem (show _ < depth by omega) hclose (by simp)
  change (Within.ofDepth depth).parenthesis (ts ++ [.symbol ")"] ++ rest) = _
  rw [List.append_assoc, List.singleton_append]
  unfold Within.parenthesis acceptSymbol isKeywordNext isLoopNext
  rw [accept_bind (h.head_ne (by decide) _), if_neg (by decide),
    isNext_bind (h.head_ne (by decide) _), if_neg (by decide), bind_of_eq hfirst,
    accept_bind (by simp), if_neg (by decide), hstar]
  rfl

end Reads

/-- An expression that is put in parentheses where its place asks for a tighter level. -/
theorem rereads_of_own {e : Expr} {own : Nat} {ts : List Token} (hlow : Level.test ≤ own)
    (hhigh : own < Level.atom)
    (htokens : ∀ level, e.tokens level = parenthesizedTokens (own < level) ts)
    (hstar : isStarred e.reread = false) (h : Reads own ts e.reread) : e.Rereads := by
  intro level htest hatom
  rw [htokens]
  by_cases hlevel : own < level
  · rw [decide_eq_true hlevel]
    exact ((h.widen (Nat.le_refl _) hlow (Nat.le_of_lt hhigh)).parenthesized hstar).widen htest
      hatom (Nat.le_refl _)
  · rw [decide_eq_false hlevel]
    exact h.widen htest (Nat.not_lt.mp hlevel) (Nat.le_of_lt hhigh)

theorem rereads_of_atom {e : Expr} {ts : List Token} (htokens : ∀ level, e.tokens level = ts)
    (h : Reads Level.atom ts e.reread) : e.Rereads := fun level htest hatom => by
  rw [htokens]
  exact h.widen htest hatom (Nat.le_refl _)

/-! ## Operators -/

section Operators

variable {ts us ls rs bs os rest : List Token} {e l r t b o v : Expr}

theorem binaryOpIn_symbol {op : BinaryOp} (hop : op ≠ .pow) (ts : List Token) :
    binaryOpIn (operators op.level) (.symbol op.symbol :: ts) = some (some op, ts) := by
  cases op with
  | pow => exact absurd rfl hop
  | _ => rfl

theorem reads_binary {op : BinaryOp} (hop : op ≠ .pow) (hl : Reads op.level ls l)
    (hr : Reads (op.level + 1) rs r) :
    Reads op.level (ls ++ .symbol op.symbol :: rs) (.binary l op r) := by
  have hspec : grows op.level = true ∧ op.level ≠ Level.atom ∧
      (Token.symbol op.symbol).joins < op.level + 1 := by
    cases op with
    | pow => exact absurd rfl hop
    | _ => decide
  obtain ⟨hgrows, hatom, hjoins⟩ := hspec
  refine hl.grown hgrows (List.cons_ne_nil _ _) (stops_cons hjoins)
    fun depth rest hdepth hrest => ?_
  have hright := hr.read (Nat.le_of_succ_le hdepth) hrest
  unfold Within.grow
  rw [if_neg hatom, List.cons_append, bind_of_eq (binaryOpIn_symbol hop _)]
  dsimp only
  rw [bind_of_eq hright]
  rfl

/-- No token goes on with an expression at the level of signs. -/
theorem Stops.sign (h : Stops Level.power rest) : Stops Level.sign rest := by
  have hjoins (t : Token) (ht : t.joins < Level.power) : t.joins < Level.sign := by
    rcases t with _ | s | _ | _ | s | _ | _ | _ <;> simp only [Token.joins] at ht ⊢
    case symbol =>
      by_cases hsymbol : s = "." ∨ s = "(" ∨ s = "["
      · rw [if_pos hsymbol] at ht
        exact absurd ht (by decide)
      · rw [if_neg hsymbol] at ht ⊢
        by_cases hpower : s = "**"
        · rw [if_pos hpower] at ht
          exact absurd ht (by decide)
        · rw [if_neg hpower]
          split_ifs <;> decide
    case keyword => split_ifs <;> decide
    case literal => exact absurd ht (by decide)
    all_goals decide
  exact fun t ht => hjoins t (h t ht)

theorem reads_pow (hl : Reads Level.await ls l) (hr : Reads Level.power rs r) :
    Reads Level.power (ls ++ .symbol "**" :: rs) (.binary l .pow r) := by
  refine .of_read rfl (hl.head_append (by decide) _) fun depth rest hdepth hrest => ?_
  rw [List.length_append, List.length_cons] at hdepth
  have hnext : Stops Level.await (.symbol "**" :: (rs ++ rest)) := stops_cons (by decide)
  have hbase := hl.read (show _ ≤ depth by omega) hnext
  have hsign : Reads Level.sign rs r := hr.widen (by decide) (by decide) (by decide)
  have hexponent := hsign.part .factor rfl nofun (show _ < depth by omega) hrest.sign
  change (Within.ofDepth depth).power (ls ++ .symbol "**" :: rs ++ rest) = _
  rw [Within.power_eq, List.append_assoc, List.cons_append]
  change ((Within.ofDepth depth).atLevel Level.await >>= _) _ = _
  unfold acceptSymbol
  rw [bind_of_eq hbase, accept_bind_cons, if_pos rfl, bind_of_eq hexponent]
  rfl

theorem reads_not (h : Reads Level.not ts v) :
    Reads Level.not (.keyword "not" :: ts) (.unary .not v) := by
  refine .of_read rfl ⟨_, rfl, Nat.le_refl _⟩ fun depth rest hdepth hrest => ?_
  have hoperand := h.part .inversion rfl nofun hdepth hrest
  change (Within.ofDepth depth).inversion (.keyword "not" :: (ts ++ rest)) = _
  unfold Within.inversion acceptKeyword
  rw [accept_bind_cons, if_pos rfl, bind_of_eq hoperand]
  rfl

theorem reads_sign {op : UnaryOp} (hop : op ≠ .not) (h : Reads Level.sign ts v) :
    Reads Level.sign (op.token :: ts) (.unary op v) := by
  refine .of_read rfl ⟨_, rfl, by cases op <;> first | decide | exact absurd rfl hop⟩
    fun depth rest hdepth hrest => ?_
  have hoperand := h.part .factor rfl nofun hdepth hrest
  change (Within.ofDepth depth).factor (op.token :: (ts ++ rest)) = _
  unfold Within.factor acceptSymbol
  cases op with
  | not => exact absurd rfl hop
  | plus =>
    rw [UnaryOp.token, accept_bind_cons, if_pos rfl, bind_of_eq hoperand]
    rfl
  | minus =>
    rw [UnaryOp.token, accept_bind (by simp), if_neg Bool.false_ne_true, accept_bind_cons,
      if_pos rfl, bind_of_eq hoperand]
    rfl
  | invert =>
    rw [UnaryOp.token, accept_bind (by simp), if_neg Bool.false_ne_true, accept_bind (by simp),
      if_neg Bool.false_ne_true, accept_bind_cons, if_pos rfl, bind_of_eq hoperand]
    rfl

theorem reads_await (h : Reads Level.atom ts v) :
    Reads Level.await (.keyword "await" :: ts) (.await v) := by
  refine .of_read rfl ⟨_, rfl, Nat.le_refl _⟩ fun depth rest hdepth hrest => ?_
  have hvalue := h.part .primary rfl nofun hdepth (hrest.mono (by decide))
  change (Within.ofDepth depth).powerBase (.keyword "await" :: (ts ++ rest)) = _
  unfold Within.powerBase acceptKeyword
  rw [accept_bind_cons, if_pos rfl, bind_of_eq hvalue]
  rfl

theorem reads_conditional (hb : Reads Level.or bs b) (ht : Reads Level.or ts t)
    (ho : Reads Level.test os o) :
    Reads Level.test (bs ++ .keyword "if" :: (ts ++ .keyword "else" :: os))
      (.conditional t b o) := by
  refine .of_read rfl (hb.head_append (by decide) _) fun depth rest hdepth hrest => ?_
  simp only [List.length_append, List.length_cons] at hdepth
  have hif : Stops Level.or (.keyword "if" :: (ts ++ .keyword "else" :: (os ++ rest))) :=
    stops_cons (by decide)
  have hbody := hb.read (show _ ≤ depth by omega) hif
  have hafter : Stops Level.or (.keyword "else" :: (os ++ rest)) := stops_cons (by decide)
  have htest := ht.read (show _ ≤ depth by omega) hafter
  have helse := ho.expression (show _ < depth by omega) hrest
  change (Within.ofDepth depth).expression _ = _
  simp only [List.append_assoc, List.cons_append]
  unfold Within.expression isKeywordNext acceptKeyword expectKeyword
  rw [isNext_bind (hb.head_ne (by decide) _), if_neg (by decide)]
  change ((Within.ofDepth depth).atLevel Level.or >>= _) _ = _
  rw [bind_of_eq hbody, accept_bind_cons, if_pos rfl]
  change ((Within.ofDepth depth).atLevel Level.or >>= _) _ = _
  rw [bind_of_eq htest, expect_bind_cons, bind_of_eq helse]
  rfl

/-! ### Comparisons -/

theorem compareOp_tokens (op : CompareOp) (hnot : us.head? ≠ some (.keyword "not")) :
    compareOp (op.tokens ++ us) = some (some op, us) := by
  cases op with
  | same =>
    change (acceptKeyword "not" >>= fun negated =>
      if negated then return some .notSame else return some .same : Reader (Option CompareOp))
        us = _
    unfold acceptKeyword
    rw [accept_bind hnot]
    rfl
  | _ => rfl

theorem joins_compareOp (op : CompareOp) (us : List Token) :
    Stops Level.bitOr (op.tokens ++ us) := by
  cases op <;> exact stops_cons (by decide)

theorem gather_comparisons {cs : List Comparison} (h : ∀ op v, .step op v ∈ cs → v.Rereads)
    {depth rounds : Nat} (hdepth : (comparisonTokens cs).length ≤ depth)
    (hrounds : (comparisonTokens cs).length ≤ rounds) (hrest : Stops Level.compare rest) :
    gather (Within.ofDepth depth).comparison rounds (comparisonTokens cs ++ rest) =
      some (comparisonsReread cs, rest) := by
  induction cs generalizing rounds with
  | nil =>
    rw [comparisonTokens, comparisonsReread]
    exact gather_of_none (comparison_of_stops hrest) rounds
  | cons c cs ih =>
    obtain ⟨op, v⟩ := c
    have hv : Reads Level.bitOr (v.tokens (Level.next Level.compare)) v.reread :=
      h op v List.mem_cons_self Level.bitOr (by decide) (by decide)
    rw [comparisonTokens, List.length_append, List.length_append] at hdepth hrounds
    have hop : 0 < op.tokens.length := by cases op <;> decide
    have hnext : Stops Level.bitOr (comparisonTokens cs ++ rest) := by
      cases cs with
      | nil =>
        rw [comparisonTokens]
        exact hrest.mono (by decide)
      | cons c cs =>
        obtain ⟨op, w⟩ := c
        rw [comparisonTokens, List.append_assoc, List.append_assoc]
        exact joins_compareOp op _
    have hvalue := hv.read (show _ ≤ depth by omega) hnext
    have hcomparison : (Within.ofDepth depth).comparison
        (op.tokens ++ (v.tokens (Level.next Level.compare) ++ (comparisonTokens cs ++ rest))) =
        some (some (.step op v.reread), comparisonTokens cs ++ rest) := by
      unfold Within.comparison
      rw [bind_of_eq (compareOp_tokens op (hv.head_ne (by decide) _))]
      change ((Within.ofDepth depth).atLevel Level.bitOr >>= _) _ = _
      rw [bind_of_eq hvalue]
      rfl
    obtain ⟨rounds, rfl⟩ : ∃ n, rounds = n + 1 := ⟨rounds - 1, by omega⟩
    rw [comparisonTokens, comparisonsReread, List.append_assoc, List.append_assoc, gather,
      bind_of_eq hcomparison]
    dsimp only
    rw [bind_of_eq (ih (fun op v hmem => h op v (List.mem_cons_of_mem _ hmem)) (by omega)
      (by omega))]
    rfl

theorem reads_compare {cs : List Comparison} (hl : Reads Level.bitOr ls l) (hne : cs ≠ [])
    (h : ∀ op v, .step op v ∈ cs → v.Rereads) :
    Reads Level.compare (ls ++ comparisonTokens cs) (.compare l (comparisonsReread cs)) := by
  refine .of_read rfl (hl.head_append (by decide) _) fun depth rest hdepth hrest => ?_
  rw [List.length_append] at hdepth
  obtain ⟨⟨op, v⟩, cs, rfl⟩ := List.exists_cons_of_ne_nil hne
  have hnext : Stops Level.bitOr (comparisonTokens (.step op v :: cs) ++ rest) := by
    rw [comparisonTokens, List.append_assoc, List.append_assoc]
    exact joins_compareOp op _
  have hfirst := hl.read (show _ ≤ depth by omega) hnext
  have hlength : (comparisonTokens (.step op v :: cs)).length ≤ depth := by omega
  have hothers := gather_comparisons h hlength hlength hrest
  rw [atLevel_compare, List.append_assoc, bind_of_eq hfirst]
  change (gather _ depth >>= _) _ = _
  rw [bind_of_eq hothers, comparisonsReread]
  rfl

/-! ### Chains -/

/-- What stands behind an operand of a chain. -/
def moreOperands (op : BoolOp) (level : Nat) (es : List Expr) : List Token :=
  if es.isEmpty then [] else .keyword op.keyword :: chainTokens op level es

theorem chainTokens_cons (op : BoolOp) (level : Nat) (e : Expr) (es : List Expr) :
    chainTokens op level (e :: es) =
      e.tokens (Level.next level) ++ moreOperands op (Level.next level) es := by
  rw [chainTokens, moreOperands]

theorem stops_moreOperands {op : BoolOp} (level : Nat) (es : List Expr)
    (hrest : Stops op.level rest) : Stops (op.level + 1) (moreOperands op level es ++ rest) := by
  unfold moreOperands
  split
  · exact hrest.mono (Nat.le_succ _)
  · exact stops_cons (by cases op <;> decide)

theorem level_next_spec {op : BoolOp} {level : Nat} (h : op.level ≤ level) :
    op.level + 1 ≤ Level.next level ∧ Level.next level ≤ Level.atom ∧ Level.test ≤ op.level := by
  have hop : op.level + 1 ≤ Level.atom ∧ Level.test ≤ op.level := by cases op <;> decide
  exact ⟨Nat.le_min.mpr ⟨Nat.succ_le_succ h, hop.1⟩, Nat.min_le_right _ _, hop.2⟩

/-- The operands bind more and more tightly, so the reader of the first one reads them all. -/
theorem Expr.Rereads.operand {op : BoolOp} {level : Nat} (h : v.Rereads)
    (hlevel : op.level ≤ level) :
    Reads (op.level + 1) (v.tokens (Level.next level)) v.reread := by
  obtain ⟨hnext, hatom, htest⟩ := level_next_spec hlevel
  exact (h _ (by omega) hatom).widen (by omega) hnext hatom

/-- One more operand of a chain, if its keyword comes next. -/
def nextOperand (op : BoolOp) (operand : Reader Expr) : Reader (Option Expr) := do
  if ← acceptKeyword op.keyword then return some (← operand) else return none

theorem gather_operands {op : BoolOp} {es : List Expr} (h : ∀ e ∈ es, e.Rereads)
    {level depth rounds : Nat} (hlevel : op.level ≤ level)
    (hdepth : (moreOperands op level es).length ≤ depth)
    (hrounds : (moreOperands op level es).length ≤ rounds) (hrest : Stops op.level rest) :
    gather (nextOperand op ((Within.ofDepth depth).atLevel (op.level + 1))) rounds
      (moreOperands op level es ++ rest) = some (listReread es, rest) := by
  induction es generalizing level rounds with
  | nil =>
    refine gather_of_none ?_ rounds
    unfold nextOperand acceptKeyword
    have hkeyword : op.level ≤ (Token.keyword op.keyword).joins := by cases op <;> decide
    have hhead : rest.head? ≠ some (.keyword op.keyword) := hrest.head_ne hkeyword
    change (accept (.keyword op.keyword) >>= _) rest = _
    rw [accept_bind hhead]
    rfl
  | cons e es ih =>
    have he := (h e List.mem_cons_self).operand hlevel
    have htokens : moreOperands op level (e :: es) =
        .keyword op.keyword ::
          (e.tokens (Level.next level) ++ moreOperands op (Level.next level) es) := by
      rw [moreOperands, List.isEmpty_cons, if_neg Bool.false_ne_true, chainTokens_cons]
    rw [htokens, List.length_cons, List.length_append] at hdepth hrounds
    have hoperand := he.read (show _ ≤ depth by omega)
      (stops_moreOperands (Level.next level) es hrest)
    have hnext : nextOperand op ((Within.ofDepth depth).atLevel (op.level + 1))
        (.keyword op.keyword :: (e.tokens (Level.next level) ++
          (moreOperands op (Level.next level) es ++ rest))) =
        some (some e.reread, moreOperands op (Level.next level) es ++ rest) := by
      unfold nextOperand acceptKeyword
      rw [accept_bind_cons, if_pos rfl, bind_of_eq hoperand]
      rfl
    have hgrow := (level_next_spec hlevel).1
    obtain ⟨rounds, rfl⟩ : ∃ n, rounds = n + 1 := ⟨rounds - 1, by omega⟩
    rw [htokens, List.cons_append, List.append_assoc, gather, bind_of_eq hnext]
    dsimp only
    rw [bind_of_eq (ih (fun e he => h e (List.mem_cons_of_mem _ he)) (by omega) (by omega)
      (by omega)), listReread]
    rfl

theorem atLevel_boolean (w : Within) (op : BoolOp) :
    w.atLevel op.level = (do
      let first ← w.atLevel (op.level + 1)
      match ← gather (nextOperand op (w.atLevel (op.level + 1))) w.bound with
      | [] => return first
      | rest => return .boolean op (first :: rest)) := by
  cases op <;> rfl

theorem reads_boolean {op : BoolOp} {es : List Expr} (hes : 2 ≤ es.length)
    (h : ∀ e ∈ es, e.Rereads) :
    Reads op.level (chainTokens op op.level es) (.boolean op (listReread es)) := by
  obtain ⟨e, es, rfl⟩ := List.exists_cons_of_length_pos (Nat.lt_of_lt_of_le Nat.zero_lt_two hes)
  have he := (h e List.mem_cons_self).operand (Nat.le_refl op.level)
  rw [chainTokens_cons]
  refine .of_read (by cases op <;> rfl) (he.head_append (Nat.le_succ _) _)
    fun depth rest hdepth hrest => ?_
  rw [List.length_append] at hdepth
  have hfirst := he.read (show _ ≤ depth by omega)
    (stops_moreOperands (Level.next op.level) es hrest)
  have hgrow := (level_next_spec (Nat.le_refl op.level)).1
  have hlength : (moreOperands op (Level.next op.level) es).length ≤ depth := by omega
  have hothers := gather_operands (fun e he => h e (List.mem_cons_of_mem _ he))
    (Nat.le_of_succ_le hgrow) hlength hlength hrest
  obtain ⟨e', es, rfl⟩ := List.exists_cons_of_length_pos (Nat.lt_of_succ_lt_succ hes)
  rw [atLevel_boolean, List.append_assoc, bind_of_eq hfirst]
  change (gather _ depth >>= _) _ = _
  rw [bind_of_eq hothers, listReread, listReread]
  rfl

end Operators

end LivePreview.Code
