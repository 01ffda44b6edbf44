import LivePreview.Proofs.Spelling

/-!
# Levels of binding as readers see them

For every level of binding there is a reader, and for every token the level at which it goes on with
an expression and that of the expressions it begins. Tokens that are read as an expression at one
level are read so at all wider ones. Where operators join to the left, reading goes on from what was
read, and this is what is kept while an expression grows to the right.
-/

namespace LivePreview.Code

open Reader
open LivePreview.Text (normalForm)

/-! ## Steps of readers -/

section Steps

variable {α β : Type} {ts rest : List Token}

theorem bind_of_eq {r : Reader α} {a : α} (h : r ts = some (a, rest)) (f : α → Reader β) :
    (r >>= f) ts = f a rest := by
  change (r ts).bind (fun read => f read.1 read.2) = f a rest
  rw [h, Option.bind_some]

theorem accept_bind_cons (t : Token) (f : Bool → Reader β) :
    (accept t >>= f) (t :: ts) = f true ts := bind_of_eq (if_pos rfl) f

theorem isNext_bind_cons (t : Token) (f : Bool → Reader β) :
    (isNext t >>= f) (t :: ts) = f true (t :: ts) :=
  bind_of_eq (congrArg (fun b => some (b, t :: ts)) (decide_eq_true rfl)) f

theorem expect_bind_cons (t : Token) (f : Unit → Reader β) :
    (expect t >>= f) (t :: ts) = f () ts := bind_of_eq (if_pos rfl) f

end Steps

/-! ## Tokens and levels -/

/-- The level at which the token goes on with an expression before it. -/
def Token.joins : Token → Nat
  | .symbol s =>
    if s = "." ∨ s = "(" ∨ s = "[" then Level.atom
    else if s = "**" then Level.power
    else if s = "*" ∨ s = "/" ∨ s = "//" ∨ s = "%" ∨ s = "@" then Level.product
    else if s = "+" ∨ s = "-" then Level.sum
    else if s = "<<" ∨ s = ">>" then Level.shift
    else if s = "&" then Level.bitAnd
    else if s = "^" then Level.bitXor
    else if s = "|" then Level.bitOr
    else if s = "==" ∨ s = "!=" ∨ s = "<" ∨ s = "<=" ∨ s = ">" ∨ s = ">=" then Level.compare
    else 0
  | .keyword s =>
    if s = "in" ∨ s = "is" ∨ s = "not" then Level.compare
    else if s = "and" then Level.and
    else if s = "or" then Level.or
    else if s = "if" then Level.test
    else 0
  | .literal _ _ => Level.atom + 1
  | _ => 0

/-- The tightest level of the expressions that the token begins. -/
def Token.opens : Token → Nat
  | .name _ | .constant _ | .literal _ _ => Level.atom
  | .keyword s =>
    if s = "None" ∨ s = "True" ∨ s = "False" then Level.atom
    else if s = "await" then Level.await
    else if s = "not" then Level.not
    else if s = "lambda" then Level.test
    else 0
  | .symbol s =>
    if s = "(" ∨ s = "[" ∨ s = "\x7b" ∨ s = "..." then Level.atom
    else if s = "+" ∨ s = "-" ∨ s = "~" then Level.sign
    else 0
  | _ => 0

/-- Nothing comes next, or a token that goes on with nothing at this level. -/
def Stops (level : Nat) (rest : List Token) : Prop := ∀ t ∈ rest.head?, t.joins < level

/-! ## Readers -/

/-- What comes before a power: something awaited, or a primary expression. -/
def Within.powerBase (w : Within) : Reader Expr := do
  if ← acceptKeyword "await" then return .await (← w.read .primary) else w.primary

theorem Within.power_eq (w : Within) : w.power = do
    let base ← w.powerBase
    if ← acceptSymbol "**" then return .binary base .pow (← w.read .factor) else return base := by
  unfold Within.power Within.powerBase
  rw [bind_assoc]
  refine congrArg _ (funext fun awaits => ?_)
  cases awaits
  · rfl
  · simp only [if_true, bind_assoc]

/-- The reader of a level. -/
def Within.atLevel (w : Within) : (level : Nat) → Reader Expr
  | 4 => w.expression
  | 5 => w.disjunction
  | 6 => w.conjunction
  | 7 => w.inversion
  | 8 => w.compare
  | 9 => w.union
  | 10 => w.exclusive
  | 11 => w.meet
  | 12 => w.shift
  | 13 => w.sum
  | 14 => w.product
  | 15 => w.factor
  | 16 => w.power
  | 17 => w.powerBase
  | _ => w.primary

/-- The operators of a level that join to the left. -/
def operators : (level : Nat) → List (String × BinaryOp)
  | 9 => [("|", .bitOr)]
  | 10 => [("^", .bitXor)]
  | 11 => [("&", .bitAnd)]
  | 12 => shiftOps
  | 13 => sumOps
  | 14 => productOps
  | _ => []

/-- Whether expressions of a level grow to the right. -/
def grows (level : Nat) : Bool := level = Level.atom || !(operators level).isEmpty

/-- One step of growing to the right. -/
def Within.grow (w : Within) (level : Nat) (left : Expr) : Reader (Option Expr) :=
  if level = Level.atom then w.trailer left
  else do
    match ← binaryOpIn (operators level) with
    | some op => return some (.binary left op (← w.atLevel (level + 1)))
    | none => return none

/-- How parts are read at a depth. -/
def Within.ofDepth (depth : Nat) : Within := ⟨depth, readAt depth⟩

/-- The tokens are read as the expression at a level, as far as it can be told from them: where the
level grows to the right, what follows may go on from there. -/
structure Reads (level : Nat) (ts : List Token) (e : Expr) : Prop where
  head : ∃ t ∈ ts.head?, level ≤ t.opens
  reads (depth : Nat) (rest : List Token) : ts.length ≤ depth →
    Stops (if grows level then level + 1 else level) rest →
      ∃ rounds, depth ≤ rounds + ts.length ∧
        (Within.ofDepth depth).atLevel level (ts ++ rest) =
          extend ((Within.ofDepth depth).grow level) rounds e rest

/-! ## Where reading stops -/

section Stopping

variable {w : Within} {level : Nat} {e : Expr} {rest : List Token}

theorem Stops.mono {wider : Nat} (h : Stops wider rest) (hlevel : wider ≤ level) :
    Stops level rest := fun t ht => Nat.lt_of_lt_of_le (h t ht) hlevel

theorem stops_nil : Stops level [] := nofun

theorem stops_cons {t : Token} (h : t.joins < level) : Stops level (t :: rest) := by
  rintro u hu
  cases hu
  exact h

theorem Stops.head_ne {t : Token} (h : Stops level rest) (ht : level ≤ t.joins) :
    rest.head? ≠ some t := fun hhead => absurd (h t hhead) (Nat.not_lt.mpr ht)

/-- An operator goes on at its own level. -/
theorem joins_of_mem_operators {entry : String × BinaryOp} (h : entry ∈ operators level) :
    (Token.symbol entry.1).joins = level := by
  unfold operators at h
  split at h
  · have hall : ∀ x ∈ [("|", BinaryOp.bitOr)], (Token.symbol x.1).joins = 9 := by decide
    exact hall entry h
  · have hall : ∀ x ∈ [("^", BinaryOp.bitXor)], (Token.symbol x.1).joins = 10 := by decide
    exact hall entry h
  · have hall : ∀ x ∈ [("&", BinaryOp.bitAnd)], (Token.symbol x.1).joins = 11 := by decide
    exact hall entry h
  · have hall : ∀ x ∈ shiftOps, (Token.symbol x.1).joins = 12 := by decide
    exact hall entry h
  · have hall : ∀ x ∈ sumOps, (Token.symbol x.1).joins = 13 := by decide
    exact hall entry h
  · have hall : ∀ x ∈ productOps, (Token.symbol x.1).joins = 14 := by decide
    exact hall entry h
  · cases h

theorem binaryOpIn_of_stops (h : Stops level rest) :
    binaryOpIn (operators level) rest = some (none, rest) := by
  cases rest with
  | nil => rfl
  | cons t rest =>
    cases t with
    | symbol s =>
      have hnone : ((operators level).find? fun entry => entry.1 = s) = none := by
        rw [List.find?_eq_none]
        intro entry hentry hs
        have hjoins := joins_of_mem_operators hentry
        rw [of_decide_eq_true hs] at hjoins
        exact absurd (h _ rfl) (by omega)
      unfold binaryOpIn
      rw [bind_of_eq (r := peek) rfl]
      dsimp only [List.head?_cons]
      rw [hnone]
      rfl
    | _ => rfl

theorem trailer_of_stops (h : Stops Level.atom rest) : w.trailer e rest = some (none, rest) := by
  unfold Within.trailer acceptSymbol
  rw [accept_bind (h.head_ne (by decide)), if_neg (by decide),
    accept_bind (h.head_ne (by decide)), if_neg (by decide),
    accept_bind (h.head_ne (by decide))]
  rfl

theorem grow_of_stops (h : Stops level rest) : w.grow level e rest = some (none, rest) := by
  unfold Within.grow
  split
  · next hatom =>
    rw [hatom] at h
    exact trailer_of_stops h
  · rw [bind_of_eq (binaryOpIn_of_stops h)]
    rfl

theorem extend_of_none {α : Type} {step : α → Reader (Option α)} {a : α} {ts : List Token}
    (h : step a ts = some (none, ts)) (rounds : Nat) :
    extend step rounds a ts = some (a, ts) := by
  cases rounds with
  | zero => rfl
  | succ rounds =>
    rw [extend, bind_of_eq h]
    rfl

theorem gather_of_none {α : Type} {item : Reader (Option α)} {ts : List Token}
    (h : item ts = some (none, ts)) (rounds : Nat) : gather item rounds ts = some ([], ts) := by
  cases rounds with
  | zero => rfl
  | succ rounds =>
    rw [gather, bind_of_eq h]
    rfl

theorem atLevel_compare (w : Within) :
    w.atLevel Level.compare = (do
      let first ← w.atLevel Level.bitOr
      match ← gather w.comparison w.bound with
      | [] => return first
      | rest => return .compare first rest) := rfl

theorem comparison_of_stops (h : Stops Level.compare rest) :
    w.comparison rest = some (none, rest) := by
  have hop : compareOp rest = some (none, rest) := by
    cases rest with
    | nil => rfl
    | cons t rest =>
      have ht := h t rfl
      cases t with
      | symbol s =>
        have hnone : (compareSymbols.find? fun entry => entry.1 = s) = none := by
          have hall : ∀ x ∈ compareSymbols, Level.compare ≤ (Token.symbol x.1).joins := by decide
          rw [List.find?_eq_none]
          intro entry hentry hs
          have hjoins := hall entry hentry
          rw [of_decide_eq_true hs] at hjoins
          exact absurd ht (Nat.not_lt.mpr hjoins)
        unfold compareOp
        rw [bind_of_eq (r := peek) rfl]
        dsimp only [List.head?_cons]
        rw [hnone]
        rfl
      | keyword s =>
        have hword : s ≠ "in" ∧ s ≠ "is" ∧ s ≠ "not" := by
          refine ⟨?_, ?_, ?_⟩ <;> rintro rfl <;> exact absurd ht (by decide)
        unfold compareOp
        rw [bind_of_eq (r := peek) rfl]
        dsimp only [List.head?_cons]
        rw [if_neg hword.1, if_neg hword.2.1, bind_of_eq (r := peekSecond) rfl,
          decide_eq_false hword.2.2, Bool.false_and]
        rfl
      | _ => rfl
  unfold Within.comparison
  rw [bind_of_eq hop]
  rfl

end Stopping

/-! ## From one level to the next -/

namespace Reads

variable {level : Nat} {ts us : List Token} {e : Expr}

/-- Tokens that nothing goes on with are read to their end. -/
theorem read (h : Reads level ts e) {depth : Nat} (hdepth : ts.length ≤ depth)
    {rest : List Token} (hrest : Stops level rest) :
    (Within.ofDepth depth).atLevel level (ts ++ rest) = some (e, rest) := by
  obtain ⟨rounds, -, hread⟩ := h.reads depth rest hdepth
    (hrest.mono (by split <;> omega))
  rw [hread, extend_of_none (grow_of_stops hrest)]

/-- A level that does not grow is read in one go. -/
theorem of_read (hgrows : grows level = false) (hhead : ∃ t ∈ ts.head?, level ≤ t.opens)
    (h : ∀ (depth : Nat) (rest : List Token), ts.length ≤ depth → Stops level rest →
      (Within.ofDepth depth).atLevel level (ts ++ rest) = some (e, rest)) :
    Reads level ts e := by
  refine ⟨hhead, fun depth rest hdepth hrest => ⟨depth, Nat.le_add_right _ _, ?_⟩⟩
  rw [hgrows, if_neg Bool.false_ne_true] at hrest
  rw [h depth rest hdepth hrest, extend_of_none (grow_of_stops hrest)]

/-- What begins no expression of the level does not begin the tokens. -/
theorem head_ne (h : Reads level ts e) {t : Token} (ht : t.opens < level) (rest : List Token) :
    (ts ++ rest).head? ≠ some t := by
  obtain ⟨u, hu, hopens⟩ := h.head
  intro hhead
  cases ts with
  | nil => cases hu
  | cons v ts =>
    cases hu
    cases hhead
    exact absurd ht (Nat.not_lt.mpr hopens)

theorem atLevel_grows {w : Within} (hgrows : grows level = true) (hlevel : level < Level.atom) :
    w.atLevel level = (do
      let first ← w.atLevel (level + 1)
      extend (w.grow level) w.bound first) := by
  have hlevels : ∀ l < Level.atom, grows l = true → l ∈ [9, 10, 11, 12, 13, 14] := by decide
  have hmem := hlevels level hlevel hgrows
  simp only [List.mem_cons, List.not_mem_nil, or_false] at hmem
  rcases hmem with rfl | rfl | rfl | rfl | rfl | rfl <;> rfl

/-- A level that grows has the operands of the next one. -/
theorem widen_grows (hgrows : grows level = true) (hlevel : level < Level.atom)
    (h : Reads (level + 1) ts e) : Reads level ts e := by
  obtain ⟨t, ht, hopens⟩ := h.head
  refine ⟨⟨t, ht, Nat.le_of_succ_le hopens⟩, fun depth rest hdepth hrest => ?_⟩
  rw [if_pos hgrows] at hrest
  refine ⟨depth, Nat.le_add_right _ _, ?_⟩
  rw [atLevel_grows hgrows hlevel, bind_of_eq (h.read hdepth hrest)]
  rfl

theorem widen_await (h : Reads Level.atom ts e) : Reads Level.await ts e := by
  obtain ⟨t, ht, hopens⟩ := h.head
  refine of_read rfl ⟨t, ht, Nat.le_of_succ_le hopens⟩ fun depth rest hdepth hrest => ?_
  change (Within.ofDepth depth).powerBase (ts ++ rest) = _
  unfold Within.powerBase acceptKeyword
  rw [accept_bind (h.head_ne (by decide) rest), if_neg (by decide)]
  exact h.read hdepth (hrest.mono (by decide))

theorem widen_power (h : Reads Level.await ts e) : Reads Level.power ts e := by
  obtain ⟨t, ht, hopens⟩ := h.head
  refine of_read rfl ⟨t, ht, Nat.le_of_succ_le hopens⟩ fun depth rest hdepth hrest => ?_
  have hread := h.read hdepth (hrest.mono (by decide))
  change (Within.ofDepth depth).power (ts ++ rest) = _
  rw [Within.power_eq]
  change ((Within.ofDepth depth).atLevel Level.await >>= _) (ts ++ rest) = _
  rw [bind_of_eq hread]
  unfold acceptSymbol
  rw [accept_bind (hrest.head_ne (by decide))]
  rfl

theorem widen_sign (h : Reads Level.power ts e) : Reads Level.sign ts e := by
  obtain ⟨t, ht, hopens⟩ := h.head
  refine of_read rfl ⟨t, ht, Nat.le_of_succ_le hopens⟩ fun depth rest hdepth hrest => ?_
  change (Within.ofDepth depth).factor (ts ++ rest) = _
  unfold Within.factor acceptSymbol
  rw [accept_bind (h.head_ne (by decide) rest), if_neg (by decide),
    accept_bind (h.head_ne (by decide) rest), if_neg (by decide),
    accept_bind (h.head_ne (by decide) rest)]
  exact h.read hdepth (hrest.mono (by decide))

theorem widen_compare (h : Reads Level.bitOr ts e) : Reads Level.compare ts e := by
  obtain ⟨t, ht, hopens⟩ := h.head
  refine of_read rfl ⟨t, ht, Nat.le_of_succ_le hopens⟩ fun depth rest hdepth hrest => ?_
  have hread := h.read hdepth (hrest.mono (by decide))
  rw [atLevel_compare, bind_of_eq hread, bind_of_eq (gather_of_none (comparison_of_stops hrest) _)]
  rfl

theorem widen_not (h : Reads Level.compare ts e) : Reads Level.not ts e := by
  obtain ⟨t, ht, hopens⟩ := h.head
  refine of_read rfl ⟨t, ht, Nat.le_of_succ_le hopens⟩ fun depth rest hdepth hrest => ?_
  change (Within.ofDepth depth).inversion (ts ++ rest) = _
  unfold Within.inversion acceptKeyword
  rw [accept_bind (h.head_ne (by decide) rest)]
  exact h.read hdepth (hrest.mono (by decide))

theorem chain_of_stops {w : Within} {keyword : String} {op : BoolOp} {operand : Reader Expr}
    {rest : List Token} (hread : operand ts = some (e, rest))
    (hrest : rest.head? ≠ some (.keyword keyword)) :
    w.chain keyword op operand ts = some (e, rest) := by
  unfold Within.chain
  rw [bind_of_eq hread, bind_of_eq (gather_of_none ?_ _)]
  · rfl
  · unfold acceptKeyword
    rw [accept_bind hrest]
    rfl

theorem widen_and (h : Reads Level.not ts e) : Reads Level.and ts e := by
  obtain ⟨t, ht, hopens⟩ := h.head
  refine of_read rfl ⟨t, ht, Nat.le_of_succ_le hopens⟩ fun depth rest hdepth hrest => ?_
  exact chain_of_stops (h.read hdepth (hrest.mono (by decide))) (hrest.head_ne (by decide))

theorem widen_or (h : Reads Level.and ts e) : Reads Level.or ts e := by
  obtain ⟨t, ht, hopens⟩ := h.head
  refine of_read rfl ⟨t, ht, Nat.le_of_succ_le hopens⟩ fun depth rest hdepth hrest => ?_
  exact chain_of_stops (h.read hdepth (hrest.mono (by decide))) (hrest.head_ne (by decide))

theorem widen_test (h : Reads Level.or ts e) : Reads Level.test ts e := by
  obtain ⟨t, ht, hopens⟩ := h.head
  refine of_read rfl ⟨t, ht, Nat.le_of_succ_le hopens⟩ fun depth rest hdepth hrest => ?_
  have hread := h.read hdepth (hrest.mono (by decide))
  change (Within.ofDepth depth).expression (ts ++ rest) = _
  unfold Within.expression isKeywordNext
  rw [isNext_bind (h.head_ne (by decide) rest), if_neg (by decide)]
  change ((Within.ofDepth depth).atLevel Level.or >>= _) (ts ++ rest) = _
  rw [bind_of_eq hread]
  unfold acceptKeyword
  rw [accept_bind (hrest.head_ne (by decide))]
  rfl

theorem widen_one (hlow : Level.test ≤ level) (hhigh : level < Level.atom)
    (h : Reads (level + 1) ts e) : Reads level ts e := by
  by_cases hgrows : grows level = true
  · exact h.widen_grows hgrows hhigh
  · have hlevels : ∀ l < Level.atom, Level.test ≤ l → grows l ≠ true →
        l ∈ [4, 5, 6, 7, 8, 15, 16, 17] := by decide
    have hmem := hlevels level hhigh hlow hgrows
    simp only [List.mem_cons, List.not_mem_nil, or_false] at hmem
    rcases hmem with rfl | rfl | rfl | rfl | rfl | rfl | rfl | rfl
    · exact widen_test h
    · exact widen_or h
    · exact widen_and h
    · exact widen_not h
    · exact widen_compare h
    · exact widen_sign h
    · exact widen_power h
    · exact widen_await h

/-- What is read at a level is read at every wider one up to that of conditional expressions. -/
theorem widen {wide : Nat} (hwide : Level.test ≤ wide) (hlevel : wide ≤ level)
    (hatom : level ≤ Level.atom) (h : Reads level ts e) : Reads wide ts e := by
  induction level with
  | zero => exact absurd (Nat.le_trans hwide hlevel) (by decide)
  | succ level ih =>
    rcases Nat.lt_or_ge level wide with hlt | hge
    · obtain rfl : wide = level + 1 := by omega
      exact h
    · exact ih hge (Nat.le_of_succ_le hatom)
        (widen_one (Nat.le_trans hwide hge) hatom h)

end Reads

end LivePreview.Code
