import LivePreview.Proofs.ImportScan

/-!
# Imports in the outline of a module

The outline of a module has the import statements that a scan over its tokens finds, in the same
order.

A statement is read from where a token has just been taken that a statement comes after. A block or a
statement with blocks ends with such a token, so the next statement is read from the same state, and
blocks are read by induction on their depth.
-/

namespace LivePreview.Code

open Reader Outline

/-! ## Import statements in an outline -/

mutual

/-- The import statements of a part of an outline, in order. -/
def Part.statements : Part → List Part
  | .imports modules => [.imports modules]
  | .importFrom level module => [.importFrom level module]
  | .raised _ => []
  | .block parts => blockStatements parts

def blockStatements : List Part → List Part
  | [] => []
  | p :: ps => p.statements ++ blockStatements ps

end

theorem blockStatements_append (ps qs : List Part) :
    blockStatements (ps ++ qs) = blockStatements ps ++ blockStatements qs := by
  induction ps with
  | nil => rfl
  | cons p ps ih => simp only [List.cons_append, blockStatements, ih, List.append_assoc]

theorem blockStatements_block (ps : List Part) :
    blockStatements [.block ps] = blockStatements ps := by
  simp only [blockStatements, Part.statements, List.append_nil]

/-! ## Statements -/

section Statements

/-- From the start of a statement, behind `before`, the reader takes whole statements, and the import
statements that it takes are those that it adds. -/
def Continues {α : Type} (before : List Part) (kept : α → List Part) (r : Reader α) : Prop :=
  ∀ ts a rest, r ts = some (a, rest) →
    blockStatements before ++ importScan [] ts = blockStatements (kept a) ++ importScan [] rest

/-- So does the reader from anywhere in a line. -/
def Completes {α : Type} (before : List Part) (kept : α → List Part) (r : Reader α) : Prop :=
  ∀ ts a rest, r ts = some (a, rest) → ∀ line,
    blockStatements before ++ importScan line ts = blockStatements (kept a) ++ importScan [] rest

variable {α β : Type} {before : List Part} {kept : α → List Part} {kept' : β → List Part}
  {r : Reader α}

theorem Completes.continues (hr : Completes before kept r) : Continues before kept r :=
  fun ts a rest h => hr ts a rest h []

theorem continues_pure {a : α} (h : blockStatements (kept a) = blockStatements before) :
    Continues before kept (pure a) := by
  intro ts b rest hr
  cases hr
  rw [h]

theorem Continues.bind {f : α → Reader β} (hr : Continues [] kept r)
    (hf : ∀ a, Continues (before ++ kept a) kept' (f a)) : Continues before kept' (r >>= f) := by
  intro ts b rest h
  obtain ⟨a, between, ha, hb⟩ := bind_eq_some h
  have hread := hf a between b rest hb
  rw [blockStatements_append, List.append_assoc] at hread
  rw [← hread, ← hr ts a between ha]
  rfl

theorem Completes.bind {f : α → Reader β} (hr : Completes [] kept r)
    (hf : ∀ a, Continues (before ++ kept a) kept' (f a)) : Completes before kept' (r >>= f) := by
  intro ts b rest h line
  obtain ⟨a, between, ha, hb⟩ := bind_eq_some h
  have hread := hf a between b rest hb
  rw [blockStatements_append, List.append_assoc] at hread
  rw [← hread, ← hr ts a between ha line]
  rfl

/-- What is read before may be quiet. -/
theorem Quiet.completes {f : α → Reader β} (hr : Quiet r)
    (hf : ∀ a, Completes before kept' (f a)) : Completes before kept' (r >>= f) := by
  intro ts b rest h line
  obtain ⟨a, between, ha, hb⟩ := bind_eq_some h
  obtain ⟨line', hline⟩ := (hr ts a between ha).scan line
  rw [hline, hf a between b rest hb line']

theorem Completes.ite {c : Prop} [Decidable c] {s : Reader α} (hr : Completes before kept r)
    (hs : Completes before kept s) : Completes before kept (if c then r else s) := by
  split
  · exact hr
  · exact hs

theorem Continues.ite {c : Prop} [Decidable c] {s : Reader α} (hr : Continues before kept r)
    (hs : Continues before kept s) : Continues before kept (if c then r else s) := by
  split
  · exact hr
  · exact hs

/-- The reader takes nothing. -/
def Still (r : Reader α) : Prop := ∀ ts a rest, r ts = some (a, rest) → ts = rest

theorem Still.continues {f : α → Reader β} (hr : Still r)
    (hf : ∀ a, Continues before kept' (f a)) : Continues before kept' (r >>= f) := by
  intro ts b rest h
  obtain ⟨a, between, ha, hb⟩ := bind_eq_some h
  rw [hr ts a between ha, hf a between b rest hb]

theorem still_isNext (t : Token) : Still (isNext t) := by
  intro ts b rest h
  cases h
  rfl

theorem still_peek : Still peek := by
  intro ts b rest h
  cases h
  rfl

theorem still_peekSecond : Still peekSecond := by
  intro ts b rest h
  cases h
  rfl

theorem still_require (c : Bool) : Still (require c) := fun _ _ _ h => eq_of_require h

/-- Either the token comes next, and is taken, or nothing is. -/
theorem continues_accept {t : Token} (ht : t ≠ importMark) {r s : Reader α}
    (hr : Completes before kept r) (hs : Continues before kept s) :
    Continues before kept (do if ← accept t then r else s) := by
  intro ts a rest h
  obtain ⟨found, between, hfound, ha⟩ := bind_eq_some h
  rcases accept_eq_some hfound with ⟨rfl, rfl⟩ | ⟨rfl, rfl⟩
  · rw [importScan_cons ht]
    exact hr between a rest ha _
  · exact hs ts a rest ha

/-- Where the token comes next the reader may rely on it. -/
theorem continues_isNext {t : Token} {r s : Reader α}
    (hr : ∀ ts a rest, r (t :: ts) = some (a, rest) → blockStatements before ++
      importScan [] (t :: ts) = blockStatements (kept a) ++ importScan [] rest)
    (hs : Continues before kept s) : Continues before kept (do if ← isNext t then r else s) := by
  intro ts a rest h
  obtain ⟨found, between, hfound, ha⟩ := bind_eq_some h
  cases hfound
  split at ha
  · next hhead =>
    rw [cons_tail_of_head? (of_decide_eq_true hhead)] at ha ⊢
    exact hr ts.tail a rest ha
  · exact hs ts a rest ha

theorem Continues.orElse {s : Reader α} (hr : Continues before kept r)
    (hs : Continues before kept s) : Continues before kept (r <|> s) := by
  intro ts a rest h
  rcases eq_some_of_orElse h with h | h
  · exact hr ts a rest h
  · exact hs ts a rest h

/-- After the token a statement may begin. -/
theorem completes_expect {t : Token} (ht : t.precedesStatement = true) {f : Unit → Reader α}
    (hf : Continues before kept (f ())) : Completes before kept (expect t >>= f) := by
  intro ts a rest h line
  obtain ⟨u, between, hu, ha⟩ := bind_eq_some h
  rw [expect_eq_some hu, importScan_precedesStatement ht]
  exact hf between a rest ha

theorem completes_some {r : Reader (List Part)} (hr : Completes [] id r) :
    Completes [] (·.getD []) (do return some (← r)) := hr.bind fun _ => continues_pure rfl

theorem Continues.gather {item : Reader (Option (List Part))}
    (hitem : Continues [] (·.getD []) item) :
    ∀ rounds, Continues [] List.flatten (gather item rounds)
  | 0 => continues_pure rfl
  | rounds + 1 => by
    rw [Reader.gather]
    refine hitem.bind fun found => ?_
    cases found with
    | none => exact continues_pure rfl
    | some parts =>
      refine (hitem.gather rounds).bind fun others => continues_pure ?_
      rw [List.flatten_cons]
      rfl

end Statements

/-! ## Statements without a block -/

section Simple

variable {w : Within} (hw : w.Quiet) {ts rest : List Token} {t : Token} {parts : List Part}

theorem importNames_scan {rounds : Nat} (h : importNames rounds ts = some (parts, t :: rest))
    (ht : t.precedesStatement = true) :
    importScan [] (importMark :: ts) = blockStatements parts ++ importScan [] rest := by
  have hpast := quiet_importNames rounds ts parts (t :: rest) h
  rw [importNames_eq_some h ht, importScan, if_pos rfl, hpast.scan_precedesStatement ht]
  rfl

theorem importFrom_scan {rounds : Nat} (h : importFrom rounds ts = some (parts, t :: rest))
    (ht : t.precedesStatement = true) :
    importScan [] (.keyword "from" :: ts) = blockStatements parts ++ importScan [] rest := by
  obtain ⟨origin, targets, rfl, horigin, rfl, htargets⟩ := importFrom_eq_some h
  have hmark : importMark ∉ origin := fun hmem => (horigin _ hmem).2 rfl
  rw [importScan_cons (keyword_ne_importMark (by decide)), importScan_append hmark,
    foldl_lineAfter fun t ht => (horigin t ht).1, importScan, if_pos rfl,
    htargets.scan_precedesStatement ht]
  rfl

theorem raised_scan (h : raised w ts = some (parts, rest)) : blockStatements parts = [] := by
  obtain ⟨ended, between, -, h⟩ := bind_eq_some h
  cases ended with
  | true =>
    cases h
    rfl
  | false =>
    obtain ⟨e, between', -, h⟩ := bind_eq_some h
    obtain ⟨caused, between'', -, h⟩ := bind_eq_some h
    cases caused with
    | true =>
      obtain ⟨u, between, -, h⟩ := bind_eq_some h
      cases h
      rfl
    | false =>
      cases h
      rfl

include hw

/-- A statement without a block, up to where the next statement may begin. -/
theorem simple_scan (h : simple w ts = some (parts, t :: rest)) (ht : t.precedesStatement = true) :
    importScan [] ts = blockStatements parts ++ importScan [] rest := by
  obtain ⟨found, between, hfound, hothers⟩ := bind_eq_some h
  rcases accept_eq_some hfound with ⟨rfl, rfl⟩ | ⟨rfl, rfl⟩
  · exact importNames_scan hothers ht
  obtain ⟨found, between, hfound, hothers⟩ := bind_eq_some hothers
  rcases accept_eq_some hfound with ⟨rfl, rfl⟩ | ⟨rfl, rfl⟩
  · exact importFrom_scan hothers ht
  obtain ⟨found, between, hfound, hothers⟩ := bind_eq_some hothers
  rcases accept_eq_some hfound with ⟨rfl, rfl⟩ | ⟨rfl, rfl⟩
  · rw [raised_scan hothers, importScan_cons (keyword_ne_importMark (by decide))]
    exact (quiet_raised hw _ _ _ hothers).scan_precedesStatement ht _
  · obtain ⟨u, between, hplain, hparts⟩ := bind_eq_some hothers
    cases hparts
    exact (quiet_plain hw _ _ _ hplain).scan_precedesStatement ht _

/-- One more statement on the same line, if there is one. -/
def nextSimple (w : Within) : Reader (Option (List Part)) := do
  if ← acceptSymbol ";" then
    if ← isNext .newline then return none else return some (← simple w)
  else return none

/-- Each statement but the last ends at a semicolon, the last one at the end of the line. -/
theorem simples_scan {rounds : Nat} {between : List Token} {first : List Part}
    {others : List (List Part)} (hfirst : simple w ts = some (first, between))
    (hothers : gather (nextSimple w) rounds between = some (others, .newline :: rest)) :
    importScan [] ts = blockStatements (first ++ others.flatten) ++ importScan [] rest := by
  induction rounds generalizing ts first between others with
  | zero =>
    cases hothers
    rw [simple_scan hw hfirst rfl, List.flatten_nil, List.append_nil]
  | succ rounds ih =>
    rw [gather] at hothers
    obtain ⟨next, between', hitem, hmore⟩ := bind_eq_some hothers
    obtain ⟨found, between'', hfound, hnext⟩ := bind_eq_some hitem
    clear hitem hothers
    rcases accept_eq_some hfound with ⟨rfl, rfl⟩ | ⟨rfl, rfl⟩
    · rw [simple_scan hw hfirst rfl]
      obtain ⟨ended, between, hended, hsecond⟩ := bind_eq_some hnext
      cases hended
      split at hsecond
      · cases hsecond
        cases hmore
        rw [importScan_precedesStatement rfl, List.flatten_nil, List.append_nil]
      · obtain ⟨second, between, hsecond, hsome⟩ := bind_eq_some hsecond
        cases hsome
        obtain ⟨others, between, hothers, hrest⟩ := bind_eq_some hmore
        cases hrest
        rw [ih hsecond hothers, List.flatten_cons, blockStatements_append first, List.append_assoc]
    · cases hnext
      cases hmore
      rw [simple_scan hw hfirst rfl, List.flatten_nil, List.append_nil]

/-- Statements on one line, up to its end. -/
theorem continues_simpleLine : Continues [] id (simpleLine w) := by
  intro ts parts rest h
  obtain ⟨first, between, hfirst, h⟩ := bind_eq_some h
  obtain ⟨others, between', hothers, h⟩ := bind_eq_some h
  obtain ⟨u, between'', hend, h⟩ := bind_eq_some h
  cases h
  rw [expect_eq_some hend] at hothers
  exact simples_scan hw hfirst hothers

end Simple

/-! ## Statements with blocks -/

section Compound

variable {b : Blocks} (hw : b.within.Quiet) (hnested : Continues [] id b.nested)

include hnested

theorem continues_statements : Continues [] id b.statements := by
  have hnext : Continues [] (·.getD []) (do
      if (← isNext .dedent) || (← peek).isNone then return none else return some (← b.nested)) := by
    refine (still_isNext _).continues fun _ => still_peek.continues fun _ => .ite ?_ ?_
    · exact continues_pure rfl
    · exact hnested.bind fun _ => continues_pure rfl
  exact (hnext.gather _).bind fun _ => continues_pure rfl

include hw

theorem completes_block : Completes [] id b.block := by
  have hindented : Completes [] id (do
      expect .indent
      let parts ← b.statements
      expect .dedent
      return parts) :=
    completes_expect rfl ((continues_statements hnested).bind fun parts =>
      (completes_expect (f := fun _ => pure parts) rfl (continues_pure rfl)).continues)
  exact completes_expect rfl
    (continues_accept (t := .newline) nofun hindented (continues_simpleLine hw))

theorem continues_optional {keyword : String} (hkeyword : keyword ≠ "import") :
    Continues [] id (b.optional keyword) :=
  continues_accept (keyword_ne_importMark hkeyword) (completes_block hw hnested)
    (continues_pure rfl)

theorem completes_conditional : Completes [] id b.conditional := by
  have hnext : Continues [] (·.getD []) (do
      if ← acceptKeyword "elif" then
        discard b.within.named
        return some (← b.block)
      else return none) :=
    continues_accept (keyword_ne_importMark (by decide))
      ((quiet_named hw).discard.completes fun _ => completes_some (completes_block hw hnested))
      (continues_pure rfl)
  refine (quiet_named hw).discard.completes fun _ => (completes_block hw hnested).bind fun body => ?_
  refine (hnext.gather _).bind fun others => ?_
  exact (continues_optional hw hnested (by decide)).bind fun rest => continues_pure rfl

/-- A block, and perhaps another one for when a loop ends. -/
theorem completes_loopBody : Completes [] id (do
    let body ← b.block
    return body ++ (← b.optional "else")) :=
  (completes_block hw hnested).bind fun _ =>
    (continues_optional hw hnested (by decide)).bind fun _ => continues_pure rfl

theorem completes_whileLoop : Completes [] id b.whileLoop :=
  (quiet_named hw).discard.completes fun _ => completes_loopBody hw hnested

theorem completes_forLoop : Completes [] id b.forLoop :=
  (quiet_targets hw).discard.completes fun _ =>
    (quiet_expectKeyword (by decide)).completes fun _ =>
    (quiet_items hw).discard.completes fun _ => completes_loopBody hw hnested

theorem completes_withBlock : Completes [] id b.withBlock :=
  ((quiet_withParenthesized hw).orElse (quiet_commaList (quiet_withItem hw) _).discard).completes
    fun _ => completes_block hw hnested

theorem continues_handler (starred : Bool) : Continues [] (·.getD []) (b.handler starred) := by
  refine continues_accept (keyword_ne_importMark (by decide)) ?_ (continues_pure rfl)
  refine (quiet_acceptSymbol _).completes fun _ => (quiet_require _).completes fun _ =>
    (quiet_isSymbolNext _).completes fun _ => .ite (completes_some (completes_block hw hnested)) ?_
  exact (quiet_expression hw).discard.completes fun _ => quiet_otherName.completes fun _ =>
    completes_some (completes_block hw hnested)

theorem completes_tryBlock : Completes [] id b.tryBlock := by
  refine (completes_block hw hnested).bind fun body => continues_accept
    (keyword_ne_importMark (by decide)) ?_ ?_
  · exact (completes_block hw hnested).bind fun _ => continues_pure rfl
  refine still_peekSecond.continues fun _ => ?_
  refine ((continues_handler hw hnested _).gather _).bind fun handlers => ?_
  refine (still_require _).continues fun _ => ?_
  refine (continues_optional hw hnested (by decide)).bind fun rest => ?_
  exact (continues_optional hw hnested (by decide)).bind fun _ => continues_pure rfl

theorem completes_function : Completes [] id b.function := by
  refine quiet_name.discard.completes fun _ => (quiet_expectSymbol _).completes fun _ => ?_
  refine (quiet_params hw (quiet_paramHint hw) _ _ _).discard.completes fun _ => ?_
  refine (quiet_expectSymbol _).completes fun _ => (quiet_acceptSymbol _).completes fun _ => ?_
  exact .ite ((quiet_expression hw).discard.completes fun _ => completes_block hw hnested)
    (completes_block hw hnested)

theorem completes_classBlock : Completes [] id b.classBlock :=
  quiet_name.discard.completes fun _ => (quiet_acceptSymbol _).completes fun _ =>
    .ite ((quiet_arguments hw _ _ _ _ _).discard.completes fun _ => completes_block hw hnested)
      (completes_block hw hnested)

theorem continues_caseBlock : Continues [] (·.getD []) b.caseBlock := by
  refine continues_accept (t := .name "case") nofun ?_ (continues_pure rfl)
  refine (quiet_patterns hw).completes fun _ => (quiet_acceptKeyword (by decide)).completes fun _ =>
    .ite ((quiet_named hw).discard.completes fun _ => completes_some (completes_block hw hnested))
      (completes_some (completes_block hw hnested))

theorem completes_matchBlock : Completes [] id b.matchBlock := by
  refine (quiet_expect (t := .name "match") nofun).completes fun _ =>
    (quiet_matchSubject hw).completes fun _ => completes_expect rfl ?_
  refine (completes_expect rfl (completes_expect rfl ?_).continues).continues
  refine ((continues_caseBlock hw hnested).gather _).bind fun cases => ?_
  refine (still_require _).continues fun _ => ?_
  exact (completes_expect (f := fun _ => pure cases.flatten) rfl (continues_pure rfl)).continues

theorem completes_definition : Completes [] id b.definition :=
  (quiet_acceptKeyword (by decide)).completes fun _ => .ite (completes_classBlock hw hnested)
    ((quiet_acceptKeyword (by decide)).discard.completes fun _ =>
      (quiet_expectKeyword (by decide)).completes fun _ => completes_function hw hnested)

omit hnested in
theorem quiet_decorator : Quiet b.decorator :=
  (quiet_acceptSymbol _).bind fun _ =>
    .ite ((quiet_named hw).discard.bind fun _ =>
      (quiet_expect (t := .newline) nofun).bind fun _ => quiet_pure _) (quiet_pure _)

theorem continues_compound : Continues [] (·.getD []) b.compound := by
  have hdefinition := completes_some (completes_definition hw hnested)
  have hfor := completes_some (completes_forLoop hw hnested)
  have hwith := completes_some (completes_withBlock hw hnested)
  have hasync : Completes [] (·.getD []) (do
      if ← acceptKeyword "for" then return some (← b.forLoop)
      expectKeyword "with"
      return some (← b.withBlock)) :=
    (quiet_acceptKeyword (by decide)).completes fun _ => .ite hfor
      ((quiet_expectKeyword (by decide)).completes fun _ => hwith)
  refine (still_isNext _).continues fun _ => .ite ?decorated ?_
  case decorated =>
    exact (((quiet_decorator hw).gather _).discard.completes fun _ => hdefinition).continues
  refine (still_isNext _).continues fun _ => (still_isNext _).continues fun _ =>
    .ite hdefinition.continues ?_
  refine continues_isNext (t := .keyword "async") ?async ?_
  case async =>
    intro ts parts rest h
    obtain ⟨second, between, hsecond, h⟩ := bind_eq_some h
    cases hsecond
    split at h
    · exact hdefinition.continues _ _ _ h
    · rw [importScan_cons (keyword_ne_importMark (by decide))]
      exact hasync ts parts rest h _
  refine continues_accept (keyword_ne_importMark (by decide))
    (completes_some (completes_conditional hw hnested)) ?_
  refine continues_accept (keyword_ne_importMark (by decide))
    (completes_some (completes_whileLoop hw hnested)) ?_
  refine continues_accept (keyword_ne_importMark (by decide)) hfor ?_
  refine continues_accept (keyword_ne_importMark (by decide)) hwith ?_
  exact continues_accept (keyword_ne_importMark (by decide))
    (completes_some (completes_tryBlock hw hnested)) (continues_pure rfl)

/-- A statement, or several on one line. -/
theorem continues_step : Continues [] id b.step := by
  refine (continues_compound hw hnested).bind fun found => ?_
  cases found with
  | some parts => exact continues_pure (blockStatements_block parts)
  | none =>
    have hmatch : Continues [] id (do return [.block (← b.matchBlock)]) :=
      ((completes_matchBlock hw hnested).bind fun parts =>
        continues_pure (blockStatements_block parts)).continues
    exact (still_isNext _).continues fun _ =>
      .ite (hmatch.orElse (continues_simpleLine hw)) (continues_simpleLine hw)

end Compound

/-- Statements with blocks of any depth. -/
theorem continues_statementAt {w : Within} (hw : w.Quiet) :
    ∀ depth, Continues [] id (statementAt w depth)
  | 0 => fun _ _ _ h => nomatch h
  | depth + 1 =>
    continues_step (b := ⟨w, statementAt w depth⟩) hw (continues_statementAt hw depth)

theorem statements_of_ofChars? {cs : List Char} {parts : List Part}
    (h : Outline.ofChars? cs = some parts) :
    ∃ ts, moduleTokens cs = some ts ∧ blockStatements parts = importScan [] ts := by
  obtain ⟨ts, hts, h⟩ := Option.bind_eq_some_iff.mp h
  obtain ⟨⟨ps, rest⟩, hread, h⟩ := Option.bind_eq_some_iff.mp h
  have hw := quiet_ofLength cs.length
  have hstatements := continues_statements
    (b := ⟨Within.ofLength cs.length, statementAt _ (Within.ofLength cs.length).bound⟩)
    (continues_statementAt hw _) ts ps rest hread
  refine ⟨ts, hts, ?_⟩
  cases rest with
  | nil =>
    cases h
    exact (hstatements.trans (List.append_nil _)).symm
  | cons => cases h

/-- The outline of a module has the import statements that stand among its tokens. -/
theorem statements_of_read {text : String} {parts : List Part} (h : Outline.read text = .ok parts) :
    ∃ ts, moduleTokens text.toList = some ts ∧ blockStatements parts = importScan [] ts := by
  unfold Outline.read at h
  split at h
  · cases h
  · split at h
    · next hparts =>
      cases h
      exact statements_of_ofChars? hparts
    · cases h

end LivePreview.Code
