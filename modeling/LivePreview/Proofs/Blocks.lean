import LivePreview.Code.Outline
import LivePreview.Proofs.Statements

/-!
# Statements are read back

The tokens of a statement are read as its outline: the imports of a module in normal form, and a block
for each class and function. What a statement is can be told from its first tokens, and its
expressions are read back. An import that names a reserved word is not read, and neither are the
statements of which it is one.
-/

namespace LivePreview.Code

open Reader Outline
open LivePreview.Text (normalForm isKeyword)

/-! ## Outlines of statements -/

/-- The name of a module as it is read. -/
def rereadPath (m : String) : String := dotted ((Module.dottedParts m).map normalForm)

namespace Statement

mutual

def outline : Statement → List Part
  | .importModule m => [.imports [rereadPath m]]
  | .importFrom m _ => [.importFrom 0 (some (rereadPath m))]
  | .classDef _ _ _ body => [.block (listOutline body)]
  | .function _ _ body => [.block (listOutline body)]
  | .assign _ _ | .expression _ | .return _ | .pass => []

def listOutline : List Statement → List Part
  | [] => []
  | s :: ss => outline s ++ listOutline ss

end

/-- Whether the statement imports from a module whose name holds a reserved word. -/
def importsKeyword : Statement → Bool
  | .importModule m | .importFrom m _ => (Module.dottedParts m).any isKeyword
  | .classDef _ _ _ _ | .function _ _ _ | .assign _ _ | .expression _ | .return _ | .pass => false

end Statement

/-! ## Names of modules -/

section Names

variable {m : String} {rest ts : List Token}

theorem bind_of_none {α β : Type} {r : Reader α} (h : r ts = none) (f : α → Reader β) :
    (r >>= f) ts = none := by
  change (r ts).bind (fun read => f read.1 read.2) = none
  rw [h, Option.bind_none]

theorem map_of_eq {α β : Type} {r : Reader α} {a : α} (h : r ts = some (a, rest)) (f : α → β) :
    (f <$> r) ts = some (f a, rest) := by
  change (r ts).bind (fun read => some (f read.1, read.2)) = _
  rw [h, Option.bind_some]

theorem discard_of_eq {α : Type} {r : Reader α} {a : α} (h : r ts = some (a, rest)) :
    discard r ts = some ((), rest) := map_of_eq h _

theorem map_of_none {α β : Type} {r : Reader α} (h : r ts = none) (f : α → β) :
    (f <$> r) ts = none := by
  change (r ts).bind (fun read => some (f read.1, read.2)) = none
  rw [h, Option.bind_none]

/-- A point and the next name of a dotted name. -/
def nextSegment : Reader (Option String) := do
  if ← acceptSymbol "." then return some (← name) else return none

theorem nextSegment_word (s : String) :
    nextSegment (.symbol "." :: wordToken s :: rest) =
      if isKeyword s then none else some (some (normalForm s), rest) := by
  unfold nextSegment acceptSymbol wordToken
  rw [accept_bind_cons, if_pos rfl]
  cases isKeyword s <;> rfl

/-- The names behind the first one, none of which may be a reserved word. -/
theorem gather_segments (names : List String) (hrest : rest.head? ≠ some (.symbol "."))
    {rounds : Nat} (hrounds : names.length ≤ rounds) :
    gather nextSegment rounds (pointedTokens names ++ rest) =
      if names.any isKeyword then none else some (names.map normalForm, rest) := by
  induction names generalizing rounds with
  | nil =>
    refine gather_of_none ?_ rounds
    unfold nextSegment acceptSymbol
    change (accept (.symbol ".") >>= _) rest = _
    rw [accept_bind hrest]
    rfl
  | cons s names ih =>
    obtain ⟨rounds, rfl⟩ := Nat.exists_eq_add_one.mpr (Nat.lt_of_lt_of_le (Nat.succ_pos _) hrounds)
    have hnext : nextSegment (pointedTokens (s :: names) ++ rest) =
        if isKeyword s then none else some (some (normalForm s), pointedTokens names ++ rest) :=
      nextSegment_word s
    rw [gather, List.any_cons]
    cases hs : isKeyword s with
    | true =>
      rw [hs, if_pos rfl] at hnext
      rw [bind_of_none hnext, Bool.true_or, if_pos rfl]
    | false =>
      rw [hs, if_neg Bool.false_ne_true] at hnext
      have hothers := ih (Nat.le_of_succ_le_succ hrounds)
      rw [bind_of_eq hnext, Bool.false_or]
      cases hnames : names.any isKeyword with
      | true =>
        rw [hnames, if_pos rfl] at hothers
        exact bind_of_none hothers _
      | false =>
        rw [hnames, if_neg Bool.false_ne_true] at hothers
        exact bind_of_eq hothers _

theorem length_pointedTokens (names : List String) :
    (pointedTokens names).length = 2 * names.length := by
  induction names with
  | nil => rfl
  | cons s names ih =>
    change (pointedTokens names).length + 1 + 1 = _
    rw [ih, List.length_cons, Nat.mul_succ]

/-- The name of a module is read if it holds no reserved word. -/
theorem dottedName_path (m : String) (hrest : rest.head? ≠ some (.symbol ".")) {rounds : Nat}
    (hrounds : (pathTokens m).length ≤ rounds) :
    dottedName rounds (pathTokens m ++ rest) =
      if (Module.dottedParts m).any isKeyword then none else some (rereadPath m, rest) := by
  obtain ⟨s, names, hparts⟩ := List.exists_cons_of_ne_nil (Module.dottedParts_ne_nil m)
  have htokens : pathTokens m = wordToken s :: pointedTokens names := by rw [pathTokens, hparts]
  rw [htokens, List.length_cons, length_pointedTokens] at hrounds
  have hothers := gather_segments names hrest (show names.length ≤ rounds by omega)
  have hunfold : dottedName rounds = (name >>= fun first => gather nextSegment rounds >>=
      fun others => (pure (dotted (first :: others)) : Reader String)) := rfl
  rw [htokens, hunfold, rereadPath, hparts, List.any_cons, List.cons_append, wordToken]
  cases hs : isKeyword s with
  | true => rfl
  | false =>
    rw [if_neg Bool.false_ne_true, Bool.false_or, bind_of_eq (r := name) rfl]
    cases hnames : names.any isKeyword with
    | true =>
      rw [hnames, if_pos rfl] at hothers
      exact bind_of_none hothers _
    | false =>
      rw [hnames, if_neg Bool.false_ne_true] at hothers
      exact bind_of_eq hothers _

end Names

/-! ## Lines that are read -/

section Lines

variable {w : Within} {m : String} {parts : List Part} {ts rest : List Token}

/-- One statement on its line. -/
theorem simpleLine_of_simple (h : simple w ts = some (parts, .newline :: rest)) :
    simpleLine w ts = some (parts, rest) := by
  have hmore : gather (do
      if ← acceptSymbol ";" then
        if ← isNext .newline then return none else return some (← simple w)
      else return none : Reader (Option (List Part))) w.bound (.newline :: rest) =
      some ([], .newline :: rest) := gather_of_none rfl _
  unfold simpleLine
  rw [bind_of_eq h]
  change (gather _ w.bound >>= _) _ = _
  rw [bind_of_eq hmore, expect_bind_cons]
  change some (parts ++ [].flatten, rest) = _
  rw [List.flatten_nil, List.append_nil]

theorem commaList_single {α : Type} {item : Reader α} {a : α} (h : item ts = some (a, rest))
    (hrest : rest.head? ≠ some (.symbol ",")) (rounds : Nat) :
    commaList rounds item ts = some ([a], rest) := by
  have hmore : gather (do
      if ← acceptSymbol "," then return some (← item) else return none : Reader (Option α)) rounds
      rest = some ([], rest) := by
    refine gather_of_none ?_ rounds
    unfold acceptSymbol
    rw [accept_bind hrest]
    rfl
  unfold commaList
  rw [bind_of_eq h]
  change (gather _ rounds >>= _) _ = _
  rw [bind_of_eq hmore]
  rfl

/-- A module that is imported, perhaps by another name. -/
def importedModule (rounds : Nat) : Reader String := do
  let m ← dottedName rounds
  otherName
  return m

theorem simple_importModule (rest : List Token) (hbound : (pathTokens m).length ≤ w.bound) :
    simple w (.keyword "import" :: (pathTokens m ++ .newline :: rest)) =
      if (Module.dottedParts m).any isKeyword then none
      else some ([.imports [rereadPath m]], .newline :: rest) := by
  have hline : (Token.newline :: rest).head? ≠ some (.symbol ".") := by simp
  have hname := dottedName_path m hline hbound
  change (commaList w.bound (importedModule w.bound) >>= fun modules =>
    (pure [.imports modules] : Reader (List Part))) (pathTokens m ++ .newline :: rest) = _
  cases hkeyword : (Module.dottedParts m).any isKeyword with
  | true =>
    rw [hkeyword, if_pos rfl] at hname
    exact bind_of_none (bind_of_none (bind_of_none hname _) _) _
  | false =>
    rw [hkeyword, if_neg Bool.false_ne_true] at hname
    have hmodule : importedModule w.bound (pathTokens m ++ .newline :: rest) =
        some (rereadPath m, .newline :: rest) := bind_of_eq hname _
    rw [bind_of_eq (commaList_single hmodule (by simp) w.bound)]
    rfl

/-! ### Imported names -/

theorem importedItem_tokens {i : Imported} (hrest : rest.head? ≠ some (.keyword "as")) :
    importedItem (i.tokens ++ rest) = some ((), rest) := by
  obtain ⟨name, renamed⟩ := i
  cases renamed with
  | some other => rfl
  | none =>
    change (accept (.keyword "as") >>= fun found =>
      if found then discard Reader.name else pure () : Reader Unit) rest = _
    rw [accept_bind hrest]
    rfl

theorem head_moreTokens_newline (tss : List (List Token)) {t : Token} (hcomma : t ≠ .symbol ",")
    (hline : t ≠ .newline) : (moreTokens tss ++ .newline :: rest).head? ≠ some t := by
  cases tss with
  | nil => simpa [moreTokens] using Ne.symm hline
  | cons ts tss => simpa [moreTokens] using Ne.symm hcomma

/-- A comma and one more imported name. -/
def nextImported : Reader (Option Unit) := do
  if ← acceptSymbol "," then return some (← importedItem) else return none

theorem gather_imported (names : List Imported) (rest : List Token) {rounds : Nat}
    (hrounds : names.length ≤ rounds) :
    gather nextImported rounds (moreTokens (names.map Imported.tokens) ++ .newline :: rest) =
      some (names.map fun _ => (), .newline :: rest) := by
  induction names generalizing rounds with
  | nil => exact gather_of_none rfl rounds
  | cons i names ih =>
    obtain ⟨rounds, rfl⟩ := Nat.exists_eq_add_one.mpr (Nat.lt_of_lt_of_le (Nat.succ_pos _) hrounds)
    have hitem : importedItem
        (i.tokens ++ (moreTokens (names.map Imported.tokens) ++ .newline :: rest)) = some ((), _) :=
      importedItem_tokens (head_moreTokens_newline _ (by simp) (by simp))
    have hnext : nextImported
        (moreTokens ((i :: names).map Imported.tokens) ++ .newline :: rest) =
        some (some (), moreTokens (names.map Imported.tokens) ++ .newline :: rest) := by
      rw [List.map_cons, moreTokens, commaTokens_cons, List.cons_append, List.append_assoc]
      unfold nextImported acceptSymbol
      rw [accept_bind_cons, if_pos rfl, bind_of_eq hitem]
      rfl
    rw [gather, bind_of_eq hnext]
    exact bind_of_eq (ih (Nat.le_of_succ_le_succ hrounds)) _

theorem importTargets_tokens {names : List Imported} (hne : names ≠ []) {rounds : Nat}
    (hrounds : names.length ≤ rounds) :
    importTargets rounds (commaTokens (names.map Imported.tokens) ++ .newline :: rest) =
      some ((), .newline :: rest) := by
  obtain ⟨i, names, rfl⟩ := List.exists_cons_of_ne_nil hne
  have hitem : importedItem
      (i.tokens ++ (moreTokens (names.map Imported.tokens) ++ .newline :: rest)) = some ((), _) :=
    importedItem_tokens (head_moreTokens_newline _ (by simp) (by simp))
  have hmore := gather_imported names rest (Nat.le_of_succ_le hrounds)
  have hlist : commaList rounds importedItem
      (i.tokens ++ (moreTokens (names.map Imported.tokens) ++ .newline :: rest)) =
      some (() :: names.map fun _ => (), .newline :: rest) := by
    unfold commaList
    rw [bind_of_eq hitem]
    exact bind_of_eq hmore _
  rw [List.map_cons, commaTokens_cons, List.append_assoc]
  unfold importTargets acceptSymbol
  rw [accept_bind (by simp [Imported.tokens]), if_neg Bool.false_ne_true,
    accept_bind (by simp [Imported.tokens]), if_neg Bool.false_ne_true]
  exact discard_of_eq hlist

theorem isKeyword_of_wordToken {s t : String} (h : wordToken s = .keyword t) :
    isKeyword s = true := by
  unfold wordToken at h
  split at h
  · assumption
  · cases h

/-- Names are imported from a module whose own name is read. -/
theorem simple_importFrom {names : List Imported} (rest : List Token) (hne : names ≠ [])
    (hnames : names.length ≤ w.bound) (hbound : (pathTokens m).length ≤ w.bound) :
    simple w (.keyword "from" :: (pathTokens m ++ .keyword "import" ::
        (commaTokens (names.map Imported.tokens) ++ .newline :: rest))) =
      if (Module.dottedParts m).any isKeyword then none
      else some ([.importFrom 0 (some (rereadPath m))], .newline :: rest) := by
  have hline : (Token.keyword "import" ::
      (commaTokens (names.map Imported.tokens) ++ .newline :: rest)).head? ≠ some (.symbol ".") := by
    simp
  have hname := dottedName_path m hline hbound
  obtain ⟨s, others, hparts⟩ := List.exists_cons_of_ne_nil (Module.dottedParts_ne_nil m)
  have htokens : pathTokens m = wordToken s :: pointedTokens others := by rw [pathTokens, hparts]
  have hlevel (us : List Token) : gather levelMark w.bound (pathTokens m ++ us) =
      some ([], pathTokens m ++ us) := by
    have hsymbol (t : String) : (pathTokens m ++ us).head? ≠ some (.symbol t) := by
      rw [htokens]
      exact fun h => wordToken_ne_symbol s t (Option.some.inj h)
    refine gather_of_none ?_ w.bound
    unfold levelMark acceptSymbol
    rw [accept_bind (hsymbol _), if_neg Bool.false_ne_true, accept_bind (hsymbol _)]
    rfl
  unfold simple acceptKeyword
  rw [accept_bind (by simp), if_neg Bool.false_ne_true, accept_bind_cons, if_pos rfl]
  unfold importFrom isKeywordNext expectKeyword
  rw [bind_of_eq (hlevel _), htokens, List.cons_append]
  by_cases hfirst : wordToken s = .keyword "import"
  · -- The reserved word is taken for the one behind the name, and no name is there.
    rw [hparts, List.any_cons, isKeyword_of_wordToken hfirst, Bool.true_or, if_pos rfl, hfirst,
      isNext_bind_cons]
    rfl
  · rw [isNext_bind (by simpa using hfirst), if_neg Bool.false_ne_true, ← List.cons_append, ← htokens]
    cases hkeyword : (Module.dottedParts m).any isKeyword with
    | true =>
      rw [hkeyword, if_pos rfl] at hname
      exact bind_of_none (map_of_none hname some) _
    | false =>
      rw [hkeyword, if_neg Bool.false_ne_true] at hname
      rw [bind_of_eq (map_of_eq hname some)]
      dsimp only
      rw [Option.isSome_some, Bool.or_true, require_true_bind, expect_bind_cons,
        bind_of_eq (importTargets_tokens hne hnames)]
      rfl

end Lines

/-! ### Expressions and assignments -/

section Expressions

variable {b : Blocks} {t v : Expr} {ts vs rest : List Token} {depth : Nat}

/-- The tokens that a statement with a block begins with. -/
def blockOpeners : List Token :=
  .symbol "@" :: ["def", "class", "async", "if", "while", "for", "with", "try"].map .keyword

theorem compound_of_head (h : ∀ t ∈ blockOpeners, ts.head? ≠ some t) :
    b.compound ts = some (none, ts) := by
  simp only [blockOpeners, List.map_cons, List.map_nil, List.forall_mem_cons] at h
  obtain ⟨hmark, hdef, hclass, hasync, hif, hwhile, hfor, hwith, htry, -⟩ := h
  unfold Blocks.compound isSymbolNext isKeywordNext acceptKeyword
  rw [isNext_bind hmark, if_neg Bool.false_ne_true, isNext_bind hdef, isNext_bind hclass,
    Bool.or_false, if_neg Bool.false_ne_true, isNext_bind hasync, if_neg Bool.false_ne_true,
    accept_bind hif, if_neg Bool.false_ne_true, accept_bind hwhile, if_neg Bool.false_ne_true,
    accept_bind hfor, if_neg Bool.false_ne_true, accept_bind hwith, if_neg Bool.false_ne_true,
    accept_bind htry]
  rfl

/-- A statement without a block is a line. -/
theorem step_of_head (h : ∀ t ∈ blockOpeners, ts.head? ≠ some t)
    (hmatch : ts.head? ≠ some (.name "match")) : b.step ts = simpleLine b.within ts := by
  unfold Blocks.step
  rw [bind_of_eq (compound_of_head h)]
  dsimp only
  rw [isNext_bind hmatch, if_neg Bool.false_ne_true]

theorem orElse_of_none {α : Type} {r : Reader α} (h : r ts = none) (q : Reader α) :
    (r <|> q) ts = q ts := by
  change ((r ts).orElse fun _ => q ts) = q ts
  rw [h, Option.orElse_none]

/-- The name that opens a match statement may be assigned as any other. -/
theorem step_match (nested : Reader (List Part)) (ts : List Token) :
    Blocks.step ⟨.ofDepth (depth + 1), nested⟩ (.name "match" :: .symbol "=" :: ts) =
      simpleLine (.ofDepth (depth + 1)) (.name "match" :: .symbol "=" :: ts) := by
  have hsubject : matchSubject (.ofDepth (depth + 1)) (.symbol "=" :: ts) = none := rfl
  have hmatch : Blocks.matchBlock ⟨.ofDepth (depth + 1), nested⟩
      (.name "match" :: .symbol "=" :: ts) = none := by
    unfold Blocks.matchBlock
    rw [expect_bind_cons]
    exact bind_of_none hsubject _
  unfold Blocks.step
  rw [bind_of_eq (compound_of_head (by simp [blockOpeners]))]
  dsimp only
  rw [isNext_bind_cons, if_pos rfl, orElse_of_none (bind_of_none hmatch _)]

/-- What begins an expression begins no other statement without a block. -/
theorem simple_of_reads (h : Reads Level.test ts v) (w : Within) (us rest : List Token)
    (hread : expressionStatement w (ts ++ us) = some ((), rest)) :
    simple w (ts ++ us) = some ([], rest) := by
  have hkeyword (s : String) (hs : (Token.keyword s).opens = 0) :
      (ts ++ us).head? ≠ some (.keyword s) := h.head_ne (by rw [hs]; decide) us
  have hplain : plain w (ts ++ us) = some ((), rest) := by
    unfold plain acceptKeyword isKeywordNext
    rw [accept_bind (hkeyword _ rfl), if_neg Bool.false_ne_true,
      accept_bind (hkeyword _ rfl), if_neg Bool.false_ne_true,
      accept_bind (hkeyword _ rfl), if_neg Bool.false_ne_true,
      accept_bind (hkeyword _ rfl), if_neg Bool.false_ne_true,
      accept_bind (hkeyword _ rfl), if_neg Bool.false_ne_true,
      accept_bind (hkeyword _ rfl), if_neg Bool.false_ne_true,
      accept_bind (hkeyword _ rfl), if_neg Bool.false_ne_true,
      accept_bind (hkeyword _ rfl), if_neg Bool.false_ne_true,
      isNext_bind (hkeyword _ rfl), if_neg Bool.false_ne_true]
    exact hread
  unfold simple acceptKeyword
  rw [accept_bind (hkeyword _ rfl), if_neg Bool.false_ne_true,
    accept_bind (hkeyword _ rfl), if_neg Bool.false_ne_true,
    accept_bind (hkeyword _ rfl), if_neg Bool.false_ne_true]
  exact bind_of_eq hplain _

theorem stops_newline : Stops Level.test (.newline :: rest) := stops_cons (by decide)

theorem Reads.items_newline (h : Reads Level.test ts v) (hdepth : ts.length ≤ depth)
    (rest : List Token) :
    (Within.ofDepth depth).items (ts ++ .newline :: rest) = some (v, .newline :: rest) :=
  h.items_ofDepth (Nat.le_refl _) (by decide) hdepth stops_newline (by simp)

/-- An expression that stands alone. -/
theorem expressionStatement_alone (h : Reads Level.test ts v) (hdepth : ts.length ≤ depth)
    (rest : List Token) :
    expressionStatement (.ofDepth depth) (ts ++ .newline :: rest) = some ((), .newline :: rest) := by
  unfold expressionStatement acceptSymbol
  rw [bind_of_eq (h.items_newline hdepth rest), accept_bind (by simp), if_neg Bool.false_ne_true]
  rfl

/-- One value is assigned to a target. -/
theorem extend_assignments (htarget : isTarget t = true) (hv : Reads Level.test vs v)
    (hdepth : vs.length ≤ depth) (rest : List Token) (rounds : Nat) :
    extend (assignments (.ofDepth depth)) (rounds + 1) t
      (.symbol "=" :: (vs ++ .newline :: rest)) = some (v, .newline :: rest) := by
  have hvalue : assigned (.ofDepth depth) (vs ++ .newline :: rest) = some (v, .newline :: rest) := by
    unfold assigned isKeywordNext
    rw [isNext_bind (hv.head_ne (by decide) _), if_neg Bool.false_ne_true]
    exact hv.items_newline hdepth rest
  have hnext : assignments (.ofDepth depth) t (.symbol "=" :: (vs ++ .newline :: rest)) =
      some (some v, .newline :: rest) := by
    unfold assignments acceptSymbol
    rw [accept_bind_cons, if_pos rfl, htarget, require_true_bind, bind_of_eq hvalue]
    rfl
  rw [extend, bind_of_eq hnext]
  exact extend_of_none rfl rounds

theorem expressionStatement_assign (ht : Reads Level.test ts t) (htarget : isTarget t = true)
    (hv : Reads Level.test vs v) (hdepth : ts.length + vs.length < depth) (rest : List Token) :
    expressionStatement (.ofDepth depth) (ts ++ .symbol "=" :: (vs ++ .newline :: rest)) =
      some ((), .newline :: rest) := by
  have hstops : Stops Level.test (.symbol "=" :: (vs ++ .newline :: rest)) :=
    stops_cons (by decide)
  have hread := ht.items_ofDepth (Nat.le_refl _) (by decide) (show ts.length ≤ depth by omega)
    hstops (by simp)
  obtain ⟨depth, rfl⟩ : ∃ d, depth = d + 1 := ⟨depth - 1, by omega⟩
  have hextend := extend_assignments htarget hv (show vs.length ≤ depth + 1 by omega) rest depth
  unfold expressionStatement acceptSymbol
  rw [bind_of_eq hread, accept_bind (by simp), if_neg Bool.false_ne_true,
    bind_of_eq (r := peek) rfl]
  dsimp only [List.head?_cons]
  rw [if_neg (by decide)]
  exact discard_of_eq hextend

/-! ### Statements on one line -/

/-- What begins an expression begins no block. -/
theorem Reads.ne_blockOpener (h : Reads Level.test ts v) (us : List Token) :
    ∀ t ∈ blockOpeners, (ts ++ us).head? ≠ some t := by
  have hopens : ∀ t ∈ blockOpeners, t.opens < Level.test := by decide
  exact fun t ht => h.head_ne (hopens t ht) us

/-- A line that is read under a condition. -/
theorem step_of_simple {refused : Bool} {parts : List Part}
    (hhead : ∀ t ∈ blockOpeners, ts.head? ≠ some t) (hmatch : ts.head? ≠ some (.name "match"))
    (h : simple b.within ts = if refused then none else some (parts, .newline :: rest)) :
    b.step ts = if refused then none else some (parts, rest) := by
  rw [step_of_head hhead hmatch]
  cases refused with
  | true => exact bind_of_none h _
  | false => exact simpleLine_of_simple h

theorem step_importModule {m : String} (rest : List Token)
    (hbound : (pathTokens m).length ≤ b.within.bound) :
    b.step (.keyword "import" :: (pathTokens m ++ .newline :: rest)) =
      if (Module.dottedParts m).any isKeyword then none
      else some ([.imports [rereadPath m]], rest) :=
  step_of_simple (by simp [blockOpeners]) (by simp) (simple_importModule rest hbound)

theorem step_importFrom {m : String} {names : List Imported} (rest : List Token) (hne : names ≠ [])
    (hnames : names.length ≤ b.within.bound) (hbound : (pathTokens m).length ≤ b.within.bound) :
    b.step (.keyword "from" :: (pathTokens m ++ .keyword "import" ::
        (commaTokens (names.map Imported.tokens) ++ .newline :: rest))) =
      if (Module.dottedParts m).any isKeyword then none
      else some ([.importFrom 0 (some (rereadPath m))], rest) :=
  step_of_simple (by simp [blockOpeners]) (by simp) (simple_importFrom rest hne hnames hbound)

theorem step_expression {nested : Reader (List Part)} (h : Reads Level.test ts v)
    (hmatch : ts.head? ≠ some (.name "match")) (hdepth : ts.length ≤ depth) (rest : List Token) :
    Blocks.step ⟨.ofDepth depth, nested⟩ (ts ++ .newline :: rest) = some ([], rest) := by
  have hhead : (ts ++ .newline :: rest).head? ≠ some (.name "match") := by
    cases ts with
    | nil => simp
    | cons t ts => exact hmatch
  rw [step_of_head (h.ne_blockOpener _) hhead]
  exact simpleLine_of_simple
    (simple_of_reads h _ _ _ (expressionStatement_alone h hdepth rest))

theorem step_assign {nested : Reader (List Part)} (ht : Reads Level.test ts t)
    (htarget : isTarget t = true) (hmatch : ts ≠ [.name "match"] → ts.head? ≠ some (.name "match"))
    (hv : Reads Level.test vs v) (hdepth : ts.length + vs.length < depth) (rest : List Token) :
    Blocks.step ⟨.ofDepth depth, nested⟩ (ts ++ .symbol "=" :: (vs ++ .newline :: rest)) =
      some ([], rest) := by
  have hline : simpleLine (.ofDepth depth) (ts ++ .symbol "=" :: (vs ++ .newline :: rest)) =
      some ([], rest) :=
    simpleLine_of_simple
      (simple_of_reads ht _ _ _ (expressionStatement_assign ht htarget hv hdepth rest))
  obtain ⟨depth, rfl⟩ : ∃ d, depth = d + 1 := ⟨depth - 1, by omega⟩
  by_cases hname : ts = [.name "match"]
  · rw [hname] at hline ⊢
    exact (step_match nested _).trans hline
  · have hhead : (ts ++ .symbol "=" :: (vs ++ .newline :: rest)).head? ≠ some (.name "match") := by
      cases ts with
      | nil => simp
      | cons t ts => exact hmatch hname
    rw [step_of_head (ht.ne_blockOpener _) hhead]
    exact hline

theorem step_return {nested : Reader (List Part)} (h : Reads Level.test ts v)
    (hdepth : ts.length ≤ depth) (rest : List Token) :
    Blocks.step ⟨.ofDepth depth, nested⟩ (.keyword "return" :: (ts ++ .newline :: rest)) =
      some ([], rest) := by
  have hend : isStatementEnd (ts ++ .newline :: rest) = some (false, ts ++ .newline :: rest) := by
    unfold isStatementEnd isSymbolNext
    rw [isNext_bind (h.head_ne (by decide) _), isNext_bind (h.head_ne (by decide) _)]
    rfl
  have hplain : plain (.ofDepth depth) (.keyword "return" :: (ts ++ .newline :: rest)) =
      some ((), .newline :: rest) := by
    unfold plain acceptKeyword
    rw [accept_bind_cons, if_pos rfl, bind_of_eq hend, if_neg Bool.false_ne_true]
    exact discard_of_eq (h.items_newline hdepth rest)
  rw [step_of_head (by simp [blockOpeners]) (by simp)]
  refine simpleLine_of_simple ?_
  unfold simple acceptKeyword
  rw [accept_bind (by simp), if_neg Bool.false_ne_true, accept_bind (by simp),
    if_neg Bool.false_ne_true, accept_bind (by simp), if_neg Bool.false_ne_true]
  exact bind_of_eq hplain _

theorem step_pass (rest : List Token) :
    b.step (.keyword "pass" :: .newline :: rest) = some ([], rest) := by
  rw [step_of_head (by simp [blockOpeners]) (by simp)]
  exact simpleLine_of_simple rfl

/-- Documentation is an expression that stands alone. -/
theorem step_documentation {nested : Reader (List Part)} {doc : String}
    (h : doc.toList.getLast? = some '.') (hdepth : 0 < depth) (rest : List Token) :
    Blocks.step ⟨.ofDepth depth, nested⟩ (.literal [] (documentationBody doc) :: .newline :: rest) =
      some ([], rest) := by
  obtain ⟨-, -, -, -, hvalue, -⟩ := documentationBody_spec h
  generalize documentationBody doc = body at hvalue ⊢
  have hliteral (field : List Char → Option Expr) : literals? field [⟨[], body⟩] =
      some (.constant (.text (LivePreview.Text.Points.ofString doc) false)) :=
    literals?_text false hvalue
  exact step_expression ((reads_literal hliteral).widen (Nat.le_refl _) (by decide) (Nat.le_refl _))
    (by simp) (Nat.succ_le_of_lt hdepth) rest

end Expressions

end LivePreview.Code
