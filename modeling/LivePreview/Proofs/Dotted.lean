import LivePreview.Code.Grammar
import LivePreview.Proofs.Files

/-!
# Reading dotted names

The text of a dotted name is cut at its points, and each segment becomes one token. Read as an
expression, it is the chain of attributes that its segments spell, unless one of them is a reserved
word: no attribute is a reserved word, and only three reserved words begin an expression, as the
constants that they are.
-/

namespace LivePreview.Code

open LivePreview.Text (isIdentifier isIdentifierContinue isIdentifierStart isKeyword normalForm)

/-! ## Characters of identifiers -/

theorem ascii_cases {p : Char → Prop} (hascii : ∀ n < 128, p (Char.ofNat n))
    (hother : ∀ c : Char, 128 ≤ c.toNat → p c) (c : Char) : p c := by
  rcases Nat.lt_or_ge c.toNat 128 with hc | hc
  · rw [← Char.ofNat_toNat c]
    exact hascii c.toNat hc
  · exact hother c hc

theorem isNameStart_of_not_ascii {c : Char} (hc : 128 ≤ c.toNat) : isNameStart c = true := by
  have hnine : ¬ c ≤ '9' := fun h => absurd (Nat.le_trans hc h) (by decide)
  simp [isNameStart, isNameChar, isDecimal, hnine, hc]

theorem isNameChar_of_isNameStart {c : Char} (h : isNameStart c = true) : isNameChar c = true :=
  (Bool.and_eq_true_iff.mp h).1

theorem isNameStart_of_isIdentifierStart (c : Char) :
    isIdentifierStart c = true → isNameStart c = true := by
  refine ascii_cases (p := fun c => isIdentifierStart c = true → isNameStart c = true) ?_
    (fun c hc _ => isNameStart_of_not_ascii hc) c
  decide +kernel

theorem isNameChar_of_isIdentifierContinue (c : Char) :
    isIdentifierContinue c = true → isNameChar c = true := by
  refine ascii_cases (p := fun c => isIdentifierContinue c = true → isNameChar c = true) ?_
    (fun c hc _ => isNameChar_of_isNameStart (isNameStart_of_not_ascii hc)) c
  decide +kernel

/-- An identifier as the cutting of a text into tokens sees it. -/
theorem exists_cons_of_isIdentifier {cs : List Char} (h : isIdentifier cs = true) :
    ∃ c rest, cs = c :: rest ∧ isNameStart c = true ∧ ∀ d ∈ cs, isNameChar d = true := by
  cases cs with
  | nil => cases h
  | cons c rest =>
    obtain ⟨hstart, hrest⟩ := Bool.and_eq_true_iff.mp h
    have hc := isNameStart_of_isIdentifierStart c hstart
    refine ⟨c, rest, rfl, hc, List.forall_mem_cons.mpr ⟨isNameChar_of_isNameStart hc, ?_⟩⟩
    exact fun d hd => isNameChar_of_isIdentifierContinue d (List.all_eq_true.mp hrest d hd)

theorem ne_of_isNameChar {c : Char} (h : isNameChar c = true) : c ≠ '\'' ∧ c ≠ '"' ∧ c ≠ '#' ∧
    c ≠ '\n' ∧ c ≠ '\r' ∧ c ≠ '\\' ∧ c ≠ '.' ∧ isSpace c = false := by
  have hchars : (['\'', '"', '#', '\n', '\r', '\\', '.', ' ', '\t', '\x0c'].all
      fun d => !isNameChar d) = true := by
    decide
  have hne (d : Char) (hd : d ∈ ['\'', '"', '#', '\n', '\r', '\\', '.', ' ', '\t', '\x0c']) :
      c ≠ d := by
    rintro rfl
    have hother := List.all_eq_true.mp hchars c hd
    rw [h] at hother
    cases hother
  refine ⟨hne _ (by decide), hne _ (by decide), hne _ (by decide), hne _ (by decide),
    hne _ (by decide), hne _ (by decide), hne _ (by decide), ?_⟩
  simp [isSpace, hne ' ' (by decide), hne '\t' (by decide), hne '\x0c' (by decide)]

/-! ## Tokens of dotted names -/

/-- The token of a word. -/
def wordToken (s : String) : Token := if isKeyword s then .keyword s else .name s

/-- Names with a point before each. -/
def pointedText (names : List String) : List Char := names.flatMap fun s => '.' :: s.toList

def pointedTokens (names : List String) : List Token :=
  names.flatMap fun s => [.symbol ".", wordToken s]

theorem toList_intercalate_cons (s : String) (names : List String) :
    (".".intercalate (s :: names)).toList = s.toList ++ pointedText names := by
  induction names generalizing s with
  | nil => rw [String.intercalate_singleton]; simp [pointedText]
  | cons t names ih =>
    rw [String.intercalate_cons_cons, String.toList_append, String.toList_append, ih]
    simp [pointedText]

/-- What follows a word in a dotted name: nothing, or a point. -/
def EndsWord (cs : List Char) : Prop := ∀ c ∈ cs.head?, c = '.'

theorem endsWord_pointedText (names : List String) : EndsWord (pointedText names) := by
  cases names with
  | nil => simp [EndsWord, pointedText]
  | cons s names => simp [EndsWord, pointedText]

theorem takeWhile_word {cs rest : List Char} (hcs : ∀ d ∈ cs, isNameChar d = true)
    (hrest : EndsWord rest) : (cs ++ rest).takeWhile isNameChar = cs := by
  rw [List.takeWhile_append_of_pos hcs]
  cases rest with
  | nil => simp
  | cons c rest =>
    rw [hrest c (by simp)]
    simp [show isNameChar '.' = false by decide]

theorem literalStart_of_unquoted {cs : List Char} (h : ∀ c ∈ cs, c ≠ '\'' ∧ c ≠ '"') :
    literalStart cs = none := by
  unfold literalStart
  extract_lets marks
  split
  · next c rest hdrop =>
    have hc : c ∈ cs := List.mem_of_mem_drop (hdrop ▸ List.mem_cons_self)
    rw [if_neg]
    rintro ⟨rfl | rfl, -⟩
    · exact (h _ hc).1 rfl
    · exact (h _ hc).2 rfl
  · rfl

theorem unquoted_of_dotted {cs : List Char} (h : ∀ c ∈ cs, isNameChar c = true ∨ c = '.') :
    ∀ c ∈ cs, c ≠ '\'' ∧ c ≠ '"' := by
  intro c hc
  rcases h c hc with hname | rfl
  · exact ⟨(ne_of_isNameChar hname).1, (ne_of_isNameChar hname).2.1⟩
  · decide

theorem nextToken_word {s : String} (hs : isIdentifier s.toList = true) {rest : List Char}
    (hrest : EndsWord rest) (hunquoted : ∀ c ∈ s.toList ++ rest, c ≠ '\'' ∧ c ≠ '"') :
    nextToken (s.toList ++ rest) = some (wordToken s, rest) := by
  obtain ⟨c, others, hcons, hc, hname⟩ := exists_cons_of_isIdentifier hs
  have htoken : nameToken (s.toList ++ rest) = some (wordToken s, rest) := by
    rw [nameToken, takeWhile_word hname hrest, List.drop_left, String.ofList_toList, wordToken, hs]
    simp only [Bool.or_true, if_true]
    split <;> rfl
  rw [nextToken, literalStart_of_unquoted hunquoted]
  dsimp only
  rw [if_pos (by rw [hcons]; exact hc), htoken]

theorem nextToken_point {s : String} (hs : isIdentifier s.toList = true) {rest : List Char}
    (hunquoted : ∀ c ∈ '.' :: (s.toList ++ rest), c ≠ '\'' ∧ c ≠ '"') :
    nextToken ('.' :: (s.toList ++ rest)) = some (.symbol ".", s.toList ++ rest) := by
  obtain ⟨c, others, hcons, hc, hname⟩ := exists_cons_of_isIdentifier hs
  have hdecimal : isDecimal c = false := by
    simpa using (Bool.and_eq_true_iff.mp hc).2
  have hpoint : c ≠ '.' := (ne_of_isNameChar (isNameChar_of_isNameStart hc)).2.2.2.2.2.2.1
  have hsymbol : symbolStart ('.' :: c :: (others ++ rest)) =
      some (".", c :: (others ++ rest)) := by
    simp [symbolStart, symbols, hpoint.symm, show ".".length = 1 by rfl]
  rw [nextToken, literalStart_of_unquoted hunquoted, hcons]
  dsimp only [List.headD_cons, List.drop_succ_cons, List.drop_zero, List.cons_append,
    List.head?_cons]
  rw [hsymbol]
  simp [hdecimal, show isNameStart '.' = false by decide, show isDecimal '.' = false by decide]

/-- Characters of words and points are the tokens that begin with them, and nothing is left out. -/
theorem tokensFrom_token {c : Char} {cs rest : List Char} {token : Token} (rounds : Nat)
    (found : List Token) (hc : isNameChar c = true ∨ c = '.')
    (htoken : nextToken (c :: cs) = some (token, rest))
    (hplain : ∀ s, token = .symbol s → s = ".") :
    tokensFrom (rounds + 1) .start false found (c :: cs) =
      tokensFrom rounds .start false (token :: found) rest := by
  have hne : c ≠ '\n' ∧ c ≠ '#' ∧ c ≠ '\\' ∧ isSpace c = false := by
    rcases hc with hname | rfl
    · obtain ⟨-, -, hhash, hline, -, hslash, -, hspace⟩ := ne_of_isNameChar hname
      exact ⟨hline, hhash, hslash, hspace⟩
    · decide
  obtain ⟨hline, hhash, hslash, hspace⟩ := hne
  rw [tokensFrom, List.dropWhile_cons_of_neg (by simp [hspace])]
  split
  · next h => cases h
  · next h => exact absurd (List.cons.inj h).1 hline
  · next h => exact absurd (List.cons.inj h).1 hhash
  · next h => exact absurd (List.cons.inj h).1 hslash
  · next h => exact absurd (List.cons.inj h).1 hslash
  · simp only [htoken, Option.bind_eq_bind, Option.bind_some]
    cases token with
    | symbol s =>
      rw [hplain s rfl]
      rfl
    | _ => rfl

theorem dotted_pointedText {names : List String}
    (h : ∀ s ∈ names, isIdentifier s.toList = true) :
    ∀ c ∈ pointedText names, isNameChar c = true ∨ c = '.' := by
  intro c hc
  obtain ⟨s, hs, hcs⟩ := List.mem_flatMap.mp hc
  rcases List.mem_cons.mp hcs with rfl | hcs
  · exact .inr rfl
  · obtain ⟨-, -, -, -, hname⟩ := exists_cons_of_isIdentifier (h s hs)
    exact .inl (hname c hcs)

theorem dotted_name {s : String} {names : List String}
    (h : ∀ t ∈ s :: names, isIdentifier t.toList = true) :
    ∀ c ∈ s.toList ++ pointedText names, isNameChar c = true ∨ c = '.' := by
  have hdotted := dotted_pointedText h
  rw [pointedText, List.flatMap_cons] at hdotted
  exact fun c hc => hdotted c (List.mem_cons_of_mem _ hc)

theorem wordToken_ne_symbol (s t : String) : wordToken s ≠ .symbol t := by
  unfold wordToken
  split <;> exact nofun

/-- A word takes one round. -/
theorem tokensFrom_name {s : String} {names : List String}
    (h : ∀ t ∈ s :: names, isIdentifier t.toList = true) (rounds : Nat) (found : List Token) :
    tokensFrom (rounds + 1) .start false found (s.toList ++ pointedText names) =
      tokensFrom rounds .start false (wordToken s :: found) (pointedText names) := by
  have htoken := nextToken_word (h s List.mem_cons_self) (endsWord_pointedText names)
    (unquoted_of_dotted (dotted_name h))
  obtain ⟨c, others, hcons, -, hname⟩ := exists_cons_of_isIdentifier (h s List.mem_cons_self)
  rw [hcons, List.cons_append] at htoken ⊢
  exact tokensFrom_token rounds found (.inl (hname c (hcons ▸ List.mem_cons_self))) htoken
    fun t ht => absurd ht (wordToken_ne_symbol s t)

/-- A point and a word take two. -/
theorem tokensFrom_pointedText (names : List String) :
    (∀ s ∈ names, isIdentifier s.toList = true) → ∀ (rounds : Nat) (found : List Token),
      2 * names.length < rounds → tokensFrom rounds .start false found (pointedText names) =
        some (found.reverse ++ pointedTokens names) := by
  induction names with
  | nil =>
    intro _ rounds found hrounds
    cases rounds with
    | zero => exact absurd hrounds (Nat.not_lt_zero _)
    | succ rounds => simp [tokensFrom, pointedText, pointedTokens, Layout.start]
  | cons s names ih =>
    intro h rounds found hrounds
    rw [List.length_cons] at hrounds
    obtain ⟨rounds, rfl⟩ : ∃ n, rounds = n + 2 := ⟨rounds - 2, by omega⟩
    have hpoint : pointedText (s :: names) = '.' :: (s.toList ++ pointedText names) := rfl
    have hdotted := dotted_pointedText h
    rw [hpoint] at hdotted ⊢
    rw [tokensFrom_token (rounds + 1) found (.inr rfl)
        (nextToken_point (h s List.mem_cons_self) (unquoted_of_dotted hdotted))
        (fun t ht => (Token.symbol.inj ht).symm),
      tokensFrom_name h, ih (fun t ht => h t (List.mem_cons_of_mem s ht)) rounds _ (by omega)]
    simp [pointedTokens]

theorem length_le_length_pointedText (names : List String) :
    names.length ≤ (pointedText names).length := by
  induction names with
  | nil => exact Nat.le_refl 0
  | cons s names ih =>
    rw [pointedText, List.flatMap_cons, ← pointedText]
    simp only [List.length_cons, List.length_append]
    omega

theorem unifyNewlines_of_dotted {cs : List Char} (h : ∀ c ∈ cs, isNameChar c = true ∨ c = '.') :
    unifyNewlines cs = cs := by
  induction cs with
  | nil => rfl
  | cons c cs ih =>
    obtain ⟨hc, hcs⟩ := List.forall_mem_cons.mp h
    have hreturn : c ≠ '\r' := by
      rcases hc with hname | rfl
      · exact (ne_of_isNameChar hname).2.2.2.2.1
      · decide
    rw [unifyNewlines, ih hcs]
    · exact fun _ h _ => hreturn h
    · exact hreturn

theorem measure_name {c : Char} (cs : List Char) (hc : isNameChar c = true) :
    measure none ⟨0, 0⟩ (c :: cs) = some (⟨0, 0⟩, c :: cs) := by
  obtain ⟨-, -, -, -, -, hslash, -, hspace⟩ := ne_of_isNameChar hc
  simp only [isSpace, Bool.or_eq_false_iff, decide_eq_false_iff_not] at hspace
  unfold measure
  split
  · next h => exact absurd (List.cons.inj h).1 hspace.1.1
  · next h => exact absurd (List.cons.inj h).1 hspace.1.2
  · next h => exact absurd (List.cons.inj h).1 hspace.2
  · next h => exact absurd (List.cons.inj h).1 hslash
  · next h => exact absurd (List.cons.inj h).1 hslash
  · rfl

/-- The tokens of a dotted name. -/
theorem tokens_dotted {s : String} {names : List String}
    (h : ∀ t ∈ s :: names, isIdentifier t.toList = true) :
    tokens (unifyNewlines (s.toList ++ pointedText names)) =
      some (wordToken s :: pointedTokens names) := by
  rw [unifyNewlines_of_dotted (dotted_name h), tokens]
  obtain ⟨c, others, hcons, -, hname⟩ := exists_cons_of_isIdentifier (h s List.mem_cons_self)
  have hc : isNameChar c = true := hname c (hcons ▸ List.mem_cons_self)
  obtain ⟨-, -, hhash, hline, -⟩ := ne_of_isNameChar hc
  have hlength : 2 * names.length < 2 * (s.toList ++ pointedText names).length + 1 := by
    have := length_le_length_pointedText names
    rw [List.length_append]
    omega
  have hstart : tokensFrom (2 * (s.toList ++ pointedText names).length + 3) .start true []
      (s.toList ++ pointedText names) =
        tokensFrom (2 * (s.toList ++ pointedText names).length + 2) .start false []
          (s.toList ++ pointedText names) := by
    rw [tokensFrom]
    simp only [hcons, List.cons_append, measure_name _ hc]
    simp [hhash, hline, Layout.start, Layout.settle, Layout.margin]
  rw [hstart, tokensFrom_name h,
    tokensFrom_pointedText names (fun t ht => h t (List.mem_cons_of_mem s ht)) _ _ hlength]
  rfl

/-! ## From tokens to a chain of attributes -/

/-- A reading that fails or leaves nothing. -/
def Ends (read : Option (Expr × List Token)) : Prop :=
  ∀ e rest, read = some (e, rest) → rest = []

section Levels

open Reader

variable {w : Within} {ts : List Token}

theorem accept_bind {α : Type} {t : Token} (h : ts.head? ≠ some t) (f : Bool → Reader α) :
    (accept t >>= f) ts = f false ts := by
  change (if ts.head? = some t then some (true, ts.tail) else some (false, ts)).bind
    (fun read => f read.1 read.2) = f false ts
  rw [if_neg h]
  rfl

theorem isNext_bind {α : Type} {t : Token} (h : ts.head? ≠ some t) (f : Bool → Reader α) :
    (isNext t >>= f) ts = f false ts := by
  change f (decide (ts.head? = some t)) ts = f false ts
  rw [decide_eq_false h]

/-- What is done after a reading that leaves nothing can only keep it. -/
theorem bind_of_ends {r : Reader Expr} {f : Expr → Reader Expr} (h : Ends (r ts))
    (hf : ∀ e, f e [] = some (e, [])) : (r >>= f) ts = r ts := by
  change (r ts).bind (fun read => f read.1 read.2) = r ts
  cases hread : r ts with
  | none => rfl
  | some read =>
    obtain ⟨e, rest⟩ := read
    rw [h e rest hread]
    exact hf e

theorem binaryChain_of_ends (table : List (String × BinaryOp)) {operand : Reader Expr}
    (h : Ends (operand ts)) : binaryChain w table operand ts = operand ts := by
  refine bind_of_ends h fun e => ?_
  cases w.bound with
  | zero => rfl
  | succ bound => rfl

theorem chain_of_ends (keyword : String) (op : BoolOp) {operand : Reader Expr}
    (h : Ends (operand ts)) : w.chain keyword op operand ts = operand ts := by
  refine bind_of_ends h fun e => ?_
  cases w.bound with
  | zero => rfl
  | succ bound => rfl

/-- What stands in front of the operand of a unary operator. -/
def unaryOpeners : List Token := [.symbol "+", .symbol "-", .symbol "~", .keyword "not"]

theorem power_of_ends (hawait : ts.head? ≠ some (.keyword "await")) (h : Ends (w.primary ts)) :
    w.power ts = w.primary ts := by
  unfold Within.power acceptKeyword
  rw [accept_bind hawait]
  exact bind_of_ends (r := w.primary) h fun e => rfl

/-- The levels from that of powers up to that of negations add nothing of their own. -/
theorem inversion_of_ends (hhead : ∀ t ∈ unaryOpeners, ts.head? ≠ some t)
    (h : Ends (w.power ts)) : w.inversion ts = w.power ts := by
  have hfactor : w.factor ts = w.power ts := by
    unfold Within.factor acceptSymbol
    rw [accept_bind (hhead _ (by decide)), if_neg (by decide), accept_bind (hhead _ (by decide)),
      if_neg (by decide), accept_bind (hhead _ (by decide))]
    rfl
  have hproduct : w.product ts = w.power ts :=
    (binaryChain_of_ends productOps (hfactor ▸ h)).trans hfactor
  have hsum : w.sum ts = w.power ts :=
    (binaryChain_of_ends sumOps (hproduct ▸ h)).trans hproduct
  have hshift : w.shift ts = w.power ts :=
    (binaryChain_of_ends shiftOps (hsum ▸ h)).trans hsum
  have hmeet : w.meet ts = w.power ts := (binaryChain_of_ends _ (hshift ▸ h)).trans hshift
  have hexclusive : w.exclusive ts = w.power ts :=
    (binaryChain_of_ends _ (hmeet ▸ h)).trans hmeet
  have hunion : w.union ts = w.power ts :=
    (binaryChain_of_ends _ (hexclusive ▸ h)).trans hexclusive
  have hcompare : w.compare ts = w.power ts := by
    rw [← hunion] at h ⊢
    refine bind_of_ends h fun e => ?_
    cases w.bound with
    | zero => rfl
    | succ bound => rfl
  unfold Within.inversion acceptKeyword
  rw [accept_bind (hhead _ (by decide))]
  exact hcompare

/-- Nor do the levels above. -/
theorem whole_of_inversion_ends (hlambda : ts.head? ≠ some (.keyword "lambda"))
    (h : Ends (w.inversion ts)) : w.tupleOf w.expression ts = w.inversion ts := by
  have hconjunction : w.conjunction ts = w.inversion ts := chain_of_ends _ _ h
  have hdisjunction : w.disjunction ts = w.inversion ts :=
    (chain_of_ends _ _ (hconjunction ▸ h)).trans hconjunction
  have hexpression : w.expression ts = w.inversion ts := by
    unfold Within.expression isKeywordNext
    rw [isNext_bind hlambda, if_neg (by decide)]
    rw [← hdisjunction] at h ⊢
    exact bind_of_ends h fun e => rfl
  rw [← hexpression] at h ⊢
  exact bind_of_ends h fun e => rfl

theorem ends_none : Ends none := nofun

theorem ends_map (read : Option Expr) : Ends (read.map fun e => (e, [])) := by
  intro e rest h
  obtain ⟨_, -, h⟩ := Option.map_eq_some_iff.mp h
  exact (Prod.mk.inj h).2.symm

end Levels

/-- The expression that a word begins as: reserved words are no names, and three of them are
constants. -/
def wordAtom? (s : String) : Option Expr :=
  if isKeyword s then
    if s = "None" then some (.constant .none)
    else if s = "True" then some (.constant .true)
    else if s = "False" then some (.constant .false)
    else none
  else some (.name (normalForm s))

/-- The attributes that names spell, one of another. -/
def attributes (e : Expr) (names : List String) : Expr :=
  names.foldl (fun e s => .attribute e (normalForm s)) e

/-- The expression that the segments of a dotted name spell. -/
def dotted? : List String → Option Expr
  | [] => none
  | s :: names => if names.any isKeyword then none else (wordAtom? s).map (attributes · names)

theorem atom_word (w : Within) (s : String) (ts : List Token) :
    w.atom (wordToken s :: ts) = (wordAtom? s).map fun e => (e, ts) := by
  unfold wordToken wordAtom?
  split
  · change (if s = "None" then (pure (.constant .none) : Reader Expr)
      else if s = "True" then pure (.constant .true)
      else if s = "False" then pure (.constant .false)
      else failure) ts = _
    by_cases hnone : s = "None"
    · rw [if_pos hnone, if_pos hnone]
      rfl
    · rw [if_neg hnone, if_neg hnone]
      by_cases htrue : s = "True"
      · rw [if_pos htrue, if_pos htrue]
        rfl
      · rw [if_neg htrue, if_neg htrue]
        split <;> rfl
  · rfl

theorem atom_pointedTokens (w : Within) (names : List String) :
    w.atom (pointedTokens names) = none := by
  cases names with
  | nil => rfl
  | cons s names => rfl

theorem extend_trailer (w : Within) (names : List String) : ∀ (rounds : Nat) (e : Expr),
    names.length ≤ rounds → Reader.extend w.trailer rounds e (pointedTokens names) =
      if names.any isKeyword then none else some (attributes e names, []) := by
  induction names with
  | nil =>
    intro rounds e _
    cases rounds with
    | zero => rfl
    | succ rounds => rfl
  | cons s names ih =>
    intro rounds e hrounds
    obtain ⟨rounds, rfl⟩ : ∃ n, rounds = n + 1 := ⟨rounds - 1, by simp at hrounds; omega⟩
    have htokens : pointedTokens (s :: names) =
        .symbol "." :: wordToken s :: pointedTokens names := rfl
    rw [htokens, List.any_cons]
    cases hs : isKeyword s with
    | true =>
      rw [wordToken, if_pos hs]
      rfl
    | false =>
      rw [wordToken, if_neg (by rw [hs]; decide), Bool.false_or]
      exact ih rounds (.attribute e (normalForm s)) (Nat.le_of_succ_le_succ hrounds)

theorem primary_dotted {w : Within} {s : String} {names : List String}
    (hbound : names.length ≤ w.bound) :
    w.primary (wordToken s :: pointedTokens names) =
      (dotted? (s :: names)).map fun e => (e, []) := by
  change (w.atom (wordToken s :: pointedTokens names)).bind
    (fun read => Reader.extend w.trailer w.bound read.1 read.2) = _
  rw [atom_word, dotted?]
  cases wordAtom? s with
  | none => split <;> rfl
  | some e =>
    rw [Option.map_some, Option.bind_some, extend_trailer w names _ e hbound]
    split <;> rfl

theorem primary_pointedTokens (w : Within) (names : List String) :
    w.primary (pointedTokens names) = none := by
  change (w.atom (pointedTokens names)).bind _ = none
  rw [atom_pointedTokens]
  rfl

theorem head_pointedTokens (names : List String) :
    ∀ t ∈ unaryOpeners ++ [.keyword "await", .keyword "lambda"],
      (pointedTokens names).head? ≠ some t := by
  cases names with
  | nil => exact fun t _ => nofun
  | cons s names =>
    change ∀ t ∈ unaryOpeners ++ [.keyword "await", .keyword "lambda"],
      some (Token.symbol ".") ≠ some t
    decide

theorem inversion_pointedTokens (w : Within) (names : List String) :
    w.inversion (pointedTokens names) = none := by
  have hpower : w.power (pointedTokens names) = none := by
    have hprimary := primary_pointedTokens w names
    rw [power_of_ends (head_pointedTokens names _ (by decide)) (hprimary ▸ ends_none), hprimary]
  rw [inversion_of_ends (fun t ht => head_pointedTokens names t (List.mem_append_left _ ht))
    (hpower ▸ ends_none), hpower]

theorem lambda_pointedTokens {w : Within} (hbound : 0 < w.bound) (names : List String) :
    w.lambda (.keyword "lambda" :: pointedTokens names) = none := by
  obtain ⟨bound, read⟩ := w
  cases bound with
  | zero => exact absurd hbound (Nat.lt_irrefl 0)
  | succ bound =>
    cases names with
    | nil => rfl
    | cons s names => rfl

theorem head_wordToken {s k : String} (ts : List Token) (h : s ≠ k) :
    (wordToken s :: ts).head? ≠ some (.keyword k) := by
  intro hhead
  have htoken : wordToken s = .keyword k := Option.some.inj hhead
  unfold wordToken at htoken
  split at htoken
  · exact h (Token.keyword.inj htoken)
  · cases htoken

section Words

variable (length : Nat) {s : String} {names : List String}

/-- A word that stands in front of an operand needs one behind it, and a point is none. -/
theorem power_dotted (hlength : names.length ≤ length) :
    (Within.ofLength length).power (wordToken s :: pointedTokens names) =
      (dotted? (s :: names)).map fun e => (e, []) := by
  by_cases hawait : s = "await"
  · subst hawait
    have hnone : dotted? ("await" :: names) = none := by
      rw [dotted?]
      split <;> rfl
    have hprimary := primary_pointedTokens ⟨length + 1, readAt (length + 1)⟩ names
    change ((Within.mk (length + 1) (readAt (length + 1))).primary (pointedTokens names)).bind _ = _
    rw [hprimary, hnone]
    rfl
  · have hprimary := primary_dotted (w := Within.ofLength length) (s := s)
      (Nat.le_trans hlength (Nat.le_add_right length 2))
    rw [power_of_ends (head_wordToken _ hawait) (hprimary ▸ ends_map _), hprimary]

theorem inversion_dotted (hlength : names.length ≤ length) :
    (Within.ofLength length).inversion (wordToken s :: pointedTokens names) =
      (dotted? (s :: names)).map fun e => (e, []) := by
  by_cases hnot : s = "not"
  · subst hnot
    have hnone : dotted? ("not" :: names) = none := by
      rw [dotted?]
      split <;> rfl
    have hinversion := inversion_pointedTokens ⟨length + 1, readAt (length + 1)⟩ names
    change ((Within.mk (length + 1) (readAt (length + 1))).inversion
      (pointedTokens names)).bind _ = _
    rw [hinversion, hnone]
    rfl
  · have hpower := power_dotted length (s := s) hlength
    have hhead : ∀ t ∈ unaryOpeners, (wordToken s :: pointedTokens names).head? ≠ some t := by
      have hsymbol (t : String) : (wordToken s :: pointedTokens names).head? ≠ some (.symbol t) :=
        fun h => wordToken_ne_symbol s t (Option.some.inj h)
      simp only [unaryOpeners, List.forall_mem_cons]
      exact ⟨hsymbol _, hsymbol _, hsymbol _, head_wordToken _ hnot, fun t ht => nomatch ht⟩
    rw [inversion_of_ends hhead (hpower ▸ ends_map _), hpower]

/-- A dotted name as a whole text. -/
theorem whole_dotted (hlength : names.length ≤ length) :
    ((Within.ofLength length).tupleOf (Within.ofLength length).expression)
      (wordToken s :: pointedTokens names) = (dotted? (s :: names)).map fun e => (e, []) := by
  by_cases hlambda : s = "lambda"
  · subst hlambda
    have hnone : dotted? ("lambda" :: names) = none := by
      rw [dotted?]
      split <;> rfl
    have hread := lambda_pointedTokens (w := Within.ofLength length) (Nat.succ_pos _) names
    change ((Within.ofLength length).lambda
      (.keyword "lambda" :: pointedTokens names)).bind _ = _
    rw [hread, hnone]
    rfl
  · have hinversion := inversion_dotted length (s := s) hlength
    rw [whole_of_inversion_ends (head_wordToken _ hlambda) (hinversion ▸ ends_map _), hinversion]

end Words

theorem ofChars?_dotted {s : String} {names : List String}
    (h : ∀ t ∈ s :: names, isIdentifier t.toList = true) :
    Expr.ofChars? (s.toList ++ pointedText names) = dotted? (s :: names) := by
  have hlength : names.length ≤ (s.toList ++ pointedText names).length := by
    have := length_le_length_pointedText names
    rw [List.length_append]
    omega
  unfold Expr.ofChars?
  simp only [tokens_dotted h, Option.bind_eq_bind, Option.bind_some, StateT.run,
    whole_dotted _ hlength]
  cases dotted? (s :: names) with
  | none => rfl
  | some e => rfl

/-- A dotted name of identifiers is read as what its segments spell. -/
theorem read_dotted {name : String}
    (h : ∀ s ∈ Module.dottedParts name, isIdentifier s.toList = true) :
    Expr.read name = match dotted? (Module.dottedParts name) with
      | some e => .ok e
      | none => .error .unreadableCode := by
  obtain ⟨s, names, hparts⟩ := List.exists_cons_of_ne_nil (Module.dottedParts_ne_nil name)
  have htext : name.toList = s.toList ++ pointedText names := by
    rw [← toList_intercalate_cons, ← hparts, Module.intercalate_dottedParts]
  rw [hparts] at h ⊢
  have hnull : '\x00' ∉ name.toList := by
    rw [htext]
    intro hmem
    rcases dotted_name h _ hmem with hname | hpoint
    · exact absurd hname (by decide)
    · exact absurd hpoint (by decide)
  have hread := ofChars?_dotted h
  rw [← htext] at hread
  rw [Expr.read, if_neg (by rwa [List.contains_iff_mem])]
  cases hspelled : dotted? (s :: names) with
  | none => simp only [hread, hspelled]
  | some e => simp only [hread, hspelled]

theorem read_dotted_eq_ok {name : String} {e : Expr}
    (h : ∀ s ∈ Module.dottedParts name, isIdentifier s.toList = true)
    (hread : Expr.read name = .ok e) : dotted? (Module.dottedParts name) = some e := by
  rw [read_dotted h] at hread
  split at hread
  · next e' hspelled =>
    cases hread
    exact hspelled
  · cases hread

theorem dotted?_eq_some {s : String} {names : List String} {e : Expr}
    (h : dotted? (s :: names) = some e) :
    names.any isKeyword = false ∧ ∃ root, wordAtom? s = some root ∧ attributes root names = e := by
  rw [dotted?] at h
  split at h
  · cases h
  · next hnames => exact ⟨Bool.eq_false_iff.mpr hnames, Option.map_eq_some_iff.mp h⟩

end LivePreview.Code
