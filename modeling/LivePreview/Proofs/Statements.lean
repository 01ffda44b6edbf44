import LivePreview.Proofs.RoundTrip

/-!
# The tokens of statements

A statement has tokens as it has lines, and its lines are cut into them. For this its expressions have
to be spelled, its names have to be names and the names of modules identifiers with points between
them. A reserved word in the name of a module is one token as any other word.
-/

namespace LivePreview.Code

open LivePreview.Text (Points isIdentifier)

/-! ## Tokens -/

/-- The tokens of the name of a module. -/
def pathTokens (m : String) : List Token :=
  match Module.dottedParts m with
  | [] => []
  | s :: names => wordToken s :: pointedTokens names

def Imported.tokens (i : Imported) : List Token :=
  .name i.name ::
    match i.renamed with
    | some other => [.keyword "as", .name other]
    | none => []

def hintTokens : Option Expr → List Token
  | none => []
  | some e => .symbol ":" :: e.tokens Level.test

def Parameter.tokens (p : Parameter) : List Token :=
  .name p.name :: (hintTokens p.hint ++ defaultTokens p.default)

/-- The parameters, with the star before the first one that is given by keyword. -/
def parameterTokens (ps : List Parameter) : List (List Token) :=
  let byKeyword := ps.filter (·.byKeyword)
  (ps.filter fun p => !p.byKeyword).map Parameter.tokens ++
    if byKeyword.isEmpty then [] else [.symbol "*"] :: byKeyword.map Parameter.tokens

/-- What stands between the quotes of documentation. -/
def documentationBody (doc : String) : List Char :=
  let text := openQuoted tripleQuotes (Points.ofString doc)
  (text.drop 3).take (text.length - 6)

/-- The tokens of a line with a block behind it. -/
def blockTokens (header body : List Token) : List Token :=
  header ++ .newline :: .indent :: (body ++ [.dedent])

namespace Statement

mutual

def tokens : Statement → List Token
  | .importModule m => .keyword "import" :: pathTokens m ++ [.newline]
  | .importFrom m names =>
    .keyword "from" :: pathTokens m ++
      .keyword "import" :: (commaTokens (names.map Imported.tokens) ++ [.newline])
  | .classDef name base doc body =>
    blockTokens
      [.keyword "class", .name name, .symbol "(", .name base, .symbol ")", .symbol ":"]
      (.literal [] (documentationBody doc) :: .newline :: listTokens body)
  | .function name params body =>
    blockTokens
      (.keyword "def" :: .name name :: .symbol "(" ::
        (commaTokens (parameterTokens params) ++ [.symbol ")", .symbol ":"]))
      (listTokens body)
  | .assign target value =>
    target.tokens Level.test ++ .symbol "=" :: (value.tokens Level.test ++ [.newline])
  | .expression value => value.tokens Level.yield ++ [.newline]
  | .return value => .keyword "return" :: (value.tokens Level.test ++ [.newline])
  | .pass => [.keyword "pass", .newline]

def listTokens : List Statement → List Token
  | [] => []
  | s :: ss => tokens s ++ listTokens ss

end

end Statement

/-! ## Statements that are spelled -/

/-- The expression can stand in a line where so many brackets are open. -/
def Expr.isLegible (others : Nat) (e : Expr) : Bool :=
  e.parts.all (·.wellPlaced) && e.isValue && e.nests others

def isDotted (m : String) : Bool := (Module.dottedParts m).all fun s => isIdentifier s.toList

def Imported.isLegible (i : Imported) : Bool := isName i.name && i.renamed.all isName

def Parameter.isLegible (p : Parameter) : Bool :=
  isName p.name && p.hint.all (·.isLegible 1) && p.default.all (·.isLegible 1)

/-- Whether those without a default come first. -/
def defaultsLast (hasDefault : Bool) : List Parameter → Bool
  | [] => true
  | p :: ps => (p.default.isSome || !hasDefault) && defaultsLast (hasDefault || p.default.isSome) ps

/-- A first word that opens a match statement. -/
def Expr.opensMatch (e : Expr) : Bool := (e.tokens Level.test).head? = some (.name "match")

def isCall : Expr → Bool
  | .call _ _ _ => true
  | _ => false

def isNamed : Expr → Bool
  | .name _ => true
  | _ => false

namespace Statement

def isImport : Statement → Bool
  | .importModule _ | .importFrom _ _ => true
  | .classDef _ _ _ _ | .function _ _ _ | .assign _ _ | .expression _ | .return _ | .pass => false

mutual

/-- Names are names, and what is written for them stands where it can be read. In a block there are no
imports, and an expression that stands alone is a call. -/
def isLegible : Statement → Bool
  | .importModule m => isDotted m
  | .importFrom m names => isDotted m && !names.isEmpty && names.all (·.isLegible)
  | .classDef name base doc body =>
    isName name && isName base && doc.toList.getLast? = some '.' && !body.any isImport &&
      areLegible body
  | .function name params body =>
    isName name && params.all (·.isLegible) &&
      defaultsLast false (params.filter fun p => !p.byKeyword) && !body.isEmpty &&
      !body.any isImport && areLegible body
  | .assign target value =>
    target.isLegible 0 && isTarget target && (isNamed target || !target.opensMatch) &&
      value.isLegible 0
  | .expression value => value.isLegible 0 && isCall value && !value.opensMatch
  | .return value => value.isLegible 0
  | .pass => true

def areLegible : List Statement → Bool
  | [] => true
  | s :: ss => isLegible s && areLegible ss

end

mutual

/-- How many blocks there are one in another. -/
def height : Statement → Nat
  | .classDef _ _ _ body | .function _ _ body => blockHeight body + 1
  | .importModule _ | .importFrom _ _ | .assign _ _ | .expression _ | .return _ | .pass => 0

def blockHeight : List Statement → Nat
  | [] => 0
  | s :: ss => max (height s) (blockHeight ss)

end

end Statement

/-! ## Phrases of lines -/

theorem Expr.isLegible_iff {e : Expr} {others : Nat} : e.isLegible others = true ↔
    WellPlaced e.parts ∧ e.isValue = true ∧ e.nests others = true := by
  rw [Expr.isLegible, Bool.and_eq_true, Bool.and_eq_true, List.all_eq_true, and_assoc]
  rfl

theorem Closes.endsName {c : Char} (h : Closes c) : EndsName c :=
  ⟨h.trails.ends.1.1, h.trails.ends.2⟩

namespace Phrase

variable {P Q : Char → Prop} {cs ds : List Char} {ts us : List Token}

/-- A word that is a keyword or a name. -/
theorem anyWord {s : String} (hs : isIdentifier s.toList = true) :
    Phrase EndsName s.toList [wordToken s] := .single (cut_word hs) (wordToken_ne_symbol s)

theorem pointWord {s : String} (hs : isIdentifier s.toList = true) :
    Phrase EndsName ('.' :: s.toList) [.symbol ".", wordToken s] := by
  obtain ⟨c, cs, hcons, hstart, -⟩ := exists_cons_of_isIdentifier hs
  have hword := anyWord hs
  rw [hcons] at hword ⊢
  exact point.append hstart hword

theorem pointed {names : List String} (h : ∀ s ∈ names, isIdentifier s.toList = true) :
    Phrase EndsName (pointedText names) (pointedTokens names) := by
  induction names with
  | nil => exact .nil
  | cons s names ih =>
    obtain ⟨hs, hnames⟩ := List.forall_mem_cons.mp h
    refine (pointWord hs).follow (ih hnames) fun c hc => ?_
    rw [endsWord_pointedText names c hc]
    exact ⟨by decide, by decide⟩

theorem path {m : String} (h : isDotted m = true) : Phrase EndsName m.toList (pathTokens m) := by
  obtain ⟨s, names, hparts⟩ := List.exists_cons_of_ne_nil (Module.dottedParts_ne_nil m)
  have htext : m.toList = s.toList ++ pointedText names := by
    rw [← toList_intercalate_cons, ← hparts, Module.intercalate_dottedParts]
  rw [isDotted, hparts, List.all_eq_true, List.forall_mem_cons] at h
  rw [htext, pathTokens, hparts]
  refine (anyWord h.1).follow (pointed h.2) fun c hc => ?_
  rw [endsWord_pointedText names c hc]
  exact ⟨by decide, by decide⟩

/-- A keyword and a blank before a phrase. -/
theorem behindKeyword {s : String} (hs : isIdentifier s.toList = true)
    (hkeyword : LivePreview.Text.isKeyword s = true) (h : Phrase P cs ts) :
    Phrase P (s.toList ++ ' ' :: cs) (.keyword s :: ts) :=
  (keyword hs hkeyword).append (by decide) h.space

end Phrase

/-! ## Brackets of lines -/

section Fits

variable {d : Nat} {ts : List Token}

theorem fits_of_plain (h : ∀ t ∈ ts, ∀ s, t = .symbol s → opens s = false ∧ opener? s = none) :
    Fits d ts := by
  induction ts with
  | nil => exact fits_nil
  | cons t ts ih =>
    obtain ⟨ht, hts⟩ := List.forall_mem_cons.mp h
    exact Fits.cons ht (ih hts)

theorem fits_path (m : String) : Fits d (pathTokens m) := by
  refine fits_of_plain fun t ht s hs => ?_
  subst hs
  unfold pathTokens at ht
  split at ht
  · cases ht
  · rcases List.mem_cons.mp ht with ht | ht
    · exact absurd ht.symm (wordToken_ne_symbol _ _)
    · obtain ⟨name, -, hname⟩ := List.mem_flatMap.mp ht
      rcases List.mem_cons.mp hname with heq | hmem
      · cases heq
        decide
      · exact absurd (List.mem_singleton.mp hmem).symm (wordToken_ne_symbol _ _)

theorem fits_comma {tss : List (List Token)} (h : ∀ ts ∈ tss, Fits d ts) :
    Fits d (commaTokens tss) := by
  induction tss with
  | nil => exact fits_nil
  | cons ts tss ih =>
    obtain ⟨hts, htss⟩ := List.forall_mem_cons.mp h
    cases tss with
    | nil => exact hts
    | cons us uss =>
      exact hts.append (Fits.cons (fun s hs => by cases hs; decide) (ih htss))

end Fits

/-! ## Lines -/

/-- A line without its margin is cut into the tokens. -/
structure Line (cs : List Char) (ts : List Token) : Prop where
  phrase : Phrase Closes cs ts
  opens : Opens false cs
  fits : Fits 0 ts

section Lines

variable {d : Nat} {cs ds : List Char} {ts us : List Token}

theorem Line.cut (h : Line cs ts) :
    CutLines d (Statement.joinLines [Statement.margin d ++ cs]) (ts ++ [.newline]) := by
  obtain ⟨c, cs, rfl, hc, -⟩ := h.opens
  exact CutLines.line h.phrase hc (by decide) h.fits

/-- A line and the block behind it. -/
theorem Line.block (h : Line cs ts) (hd : d < marginLimit) {ls : List (List Char)}
    (h' : CutLines (d + 1) (Statement.joinLines ls) us) :
    CutLines d (Statement.joinLines ((Statement.margin d ++ cs) :: ls)) (blockTokens ts us) := by
  obtain ⟨c, cs, rfl, hc, -⟩ := h.opens
  have hblock := CutLines.block h.phrase hc (by decide) h.fits hd h'
  rwa [List.append_assoc, List.singleton_append] at hblock

end Lines


/-! ### Lines of imports -/

section Imports

theorem line_importModule {m : String} (h : isDotted m = true) :
    Line ("import ".toList ++ m.toList) (.keyword "import" :: pathTokens m) := by
  have hphrase := (Phrase.path h).behindKeyword (s := "import") (by decide) (by decide)
  refine ⟨?_, opens_of_isNameChar (by decide) _, Fits.cons nofun (fits_path m)⟩
  have htext : "import ".toList ++ m.toList = "import".toList ++ ' ' :: m.toList := by simp
  rw [htext]
  exact hphrase.mono fun _ hc => hc.endsName

theorem phrase_imported {i : Imported} (h : i.isLegible = true) :
    Phrase Closes i.print i.tokens := by
  obtain ⟨name, renamed⟩ := i
  obtain ⟨hname, hrenamed⟩ := Bool.and_eq_true_iff.mp h
  have hphrase := Phrase.name hname
  unfold Imported.print Imported.tokens
  cases renamed with
  | none =>
    rw [List.append_nil]
    exact hphrase.mono fun _ hc => hc.endsName
  | some other =>
    have hother := (Phrase.name hrenamed).spacedKeyword (s := "as") (by decide) (by decide)
    have htext : " as ".toList ++ other.toList = ' ' :: "as".toList ++ ' ' :: other.toList := by
      simp
    dsimp only
    rw [htext]
    exact (hphrase.append ⟨by decide, by decide⟩ hother).mono fun _ hc => hc.endsName

theorem fits_imported {d : Nat} (i : Imported) : Fits d i.tokens := by
  unfold Imported.tokens
  refine Fits.cons nofun ?_
  cases i.renamed with
  | none => exact fits_nil
  | some other => exact Fits.cons nofun (Fits.cons nofun fits_nil)

theorem spelled_map {α : Type} {f : α → List Char} {g : α → List Token} {as : List α}
    (h : ∀ a ∈ as, Phrase Closes (f a) (g a)) : AreSpelled (as.map f) (as.map g) := by
  induction as with
  | nil => exact .nil
  | cons a as ih =>
    obtain ⟨ha, has⟩ := List.forall_mem_cons.mp h
    exact .cons ha (ih has)

theorem line_importFrom {m : String} {names : List Imported} (h : isDotted m = true)
    (hnames : ∀ i ∈ names, i.isLegible = true) :
    Line ("from ".toList ++ m.toList ++ " import ".toList ++
        commaSeparated (names.map Imported.print))
      (.keyword "from" :: pathTokens m ++ .keyword "import" ::
        commaTokens (names.map Imported.tokens)) := by
  have hitems := Phrase.commaSeparated (spelled_map fun i hi => phrase_imported (hnames i hi))
  have himport := hitems.spacedKeyword (s := "import") (by decide) (by decide)
  have hphrase := ((Phrase.path h).append ⟨by decide, by decide⟩ himport).behindKeyword
    (s := "from") (by decide) (by decide)
  refine ⟨?_, opens_of_isNameChar (by decide) _, ?_⟩
  · have htext : "from ".toList ++ m.toList ++ " import ".toList ++
        commaSeparated (names.map Imported.print) = "from".toList ++ ' ' :: (m.toList ++
          (' ' :: "import".toList ++ ' ' :: commaSeparated (names.map Imported.print))) := by simp
    rw [htext]
    exact hphrase
  · have hfits : ∀ ts ∈ names.map Imported.tokens, Fits 0 ts := by
      intro ts hts
      obtain ⟨i, -, rfl⟩ := List.mem_map.mp hts
      exact fits_imported i
    have hfrom : Fits 0 (.keyword "from" :: pathTokens m) := Fits.cons nofun (fits_path m)
    exact hfrom.append (Fits.cons nofun (fits_comma hfits))

end Imports

/-! ### Lines of definitions -/

section Definitions

theorem phrase_lastColon : Phrase Closes [':'] [.symbol ":"] := Phrase.colon.mono fun c hc => by
  rintro rfl
  revert hc
  decide

theorem fits_colon {d : Nat} : Fits d [.symbol ":"] :=
  Fits.cons (fun s hs => by cases hs; decide) fits_nil

theorem line_classDef {name base : String} (hname : isName name = true)
    (hbase : isName base = true) :
    Line ("class ".toList ++ name.toList ++ '(' :: base.toList ++ [')', ':'])
      [.keyword "class", .name name, .symbol "(", .name base, .symbol ")", .symbol ":"] := by
  have hbases : Phrase Closes ('(' :: (base.toList ++ [')']))
      (.symbol "(" :: ([.name base] ++ [.symbol ")"])) :=
    (Phrase.name hbase).parentheses ⟨by decide, by decide⟩
  have hphrase := ((Phrase.name hname).append ⟨by decide, by decide⟩
    (hbases.append (by decide) phrase_lastColon)).behindKeyword (s := "class") (by decide) (by decide)
  refine ⟨?_, opens_of_isNameChar (by decide) _, ?_⟩
  · have htext : "class ".toList ++ name.toList ++ '(' :: base.toList ++ [')', ':'] =
        "class".toList ++ ' ' :: (name.toList ++ ('(' :: (base.toList ++ [')']) ++ [':'])) := by
      simp
    rw [htext]
    exact hphrase
  · have hparentheses : Fits 0 (.symbol "(" :: ([Token.name base] ++ [.symbol ")"])) :=
      Fits.parentheses (by decide) (Fits.cons nofun fits_nil)
    exact Fits.cons nofun (Fits.cons nofun (hparentheses.append fits_colon))

/-- The tokens of documentation show its value. -/
theorem documentationBody_spec {doc : String} (h : doc.toList.getLast? = some '.') :
    ∃ quote, IsQuote quote ∧ openQuoted tripleQuotes (Points.ofString doc) =
        List.replicate 3 quote ++ documentationBody doc ++ List.replicate 3 quote ∧
      Inside quote 3 0 (documentationBody doc) ∧
      textValue? false (documentationBody doc) = some (Points.ofString doc) ∧
      ∀ c ∈ documentationBody doc, ¬ NeverWritten c := by
  obtain ⟨cs, hcs⟩ := List.getLast?_eq_some_iff.mp h
  have hdoc : doc = String.ofList cs ++ "." := by
    apply String.toList_inj.mp
    rw [hcs, String.toList_append, String.toList_ofList]
    rfl
  obtain ⟨quote, body, hq, htext, hin, hvalue, hclean⟩ :=
    documentation_spec (String.ofList cs)
  rw [← hdoc] at htext hvalue
  have hbody : documentationBody doc = body := by
    unfold documentationBody
    rw [htext]
    simp
  rw [hbody]
  exact ⟨quote, hq, htext, hin, hvalue, fun c hc hnever => hclean c hnever hc⟩

theorem line_documentation {doc : String} (h : doc.toList.getLast? = some '.') :
    Line (openQuoted tripleQuotes (Points.ofString doc)) [.literal [] (documentationBody doc)] := by
  obtain ⟨quote, hq, htext, hin, -, hclean⟩ := documentationBody_spec h
  rw [htext]
  refine ⟨.single ((cut_documentation hq hin hclean).mono fun _ _ => trivial) nofun, ?_,
    Fits.cons nofun fits_nil⟩
  have hquote : Begins quote ∧ quote ≠ '=' ∧ quote ≠ '>' ∧ quote ≠ '*' := by
    rcases hq with rfl | rfl <;> decide
  rw [List.append_assoc]
  exact opens_cons hquote _

theorem phrase_hinted {name : String} (hname : isName name = true) (hint : Option Expr) :
    hint.all (·.isLegible 1) = true → Phrase Trails
      (name.toList ++ match hint with
        | some e => ':' :: ' ' :: e.print false Level.test
        | none => [])
      (.name name :: hintTokens hint) := by
  intro h
  have hword : Phrase Trails name.toList [.name name] :=
    (Phrase.name hname).mono fun c hc => ⟨hc.ends.1.1, hc.ends.2⟩
  cases hint with
  | none =>
    rw [List.append_nil]
    exact hword
  | some e =>
    obtain ⟨hparts, hvalue, -⟩ := Expr.isLegible_iff.mp h
    have hexpr := (e.isSpelled hparts).trails hvalue (Nat.le_refl Level.test)
    exact hword.append (.inl (by decide)) (Phrase.colon.append (by decide) hexpr.space)

/-- A parameter is its name, its hint and its default. -/
theorem phrase_parameter {p : Parameter} (h : p.isLegible = true) :
    Phrase Closes p.print p.tokens := by
  rw [Parameter.isLegible, Bool.and_eq_true, Bool.and_eq_true] at h
  obtain ⟨⟨hname, hhint⟩, hdefault⟩ := h
  have hfront := phrase_hinted hname p.hint hhint
  unfold Parameter.print Parameter.tokens
  cases heq : p.default with
  | none =>
    rw [defaultTokens, List.append_nil, List.append_nil]
    exact hfront.mono fun _ hc => hc.trails
  | some e =>
    rw [heq] at hdefault
    obtain ⟨hparts, hvalue, -⟩ := Expr.isLegible_iff.mp hdefault
    have hexpr := e.isSpelled hparts
    exact hfront.append (.inr rfl)
      (Phrase.equals.before (hexpr.closes _) (hexpr.opens hvalue (Nat.le_refl _)))

theorem fits_parameter {p : Parameter} (h : p.isLegible = true) : Fits 1 p.tokens := by
  rw [Parameter.isLegible, Bool.and_eq_true, Bool.and_eq_true] at h
  obtain ⟨⟨-, hhint⟩, hdefault⟩ := h
  have hsymbols : ∀ s ∈ [":", "="], opens s = false ∧ opener? s = none := by decide
  have hexpr {s : String} (hs : s ∈ [":", "="]) {e : Expr} (he : e.isLegible 1 = true) :
      Fits 1 (.symbol s :: e.tokens Level.test) := by
    obtain ⟨hparts, -, hnests⟩ := Expr.isLegible_iff.mp he
    refine Fits.cons (fun t ht => ?_) (Expr.fits_of_nests hparts hnests)
    rw [← Token.symbol.inj ht]
    exact hsymbols s hs
  refine Fits.cons nofun (Fits.append ?_ ?_)
  · cases hint : p.hint with
    | none => exact fits_nil
    | some e => exact hexpr (by decide) (by rwa [hint] at hhint)
  · cases default : p.default with
    | none => exact fits_nil
    | some e => exact hexpr (by decide) (by rwa [default] at hdefault)

theorem phrase_bareStar : Phrase Closes ['*'] [.symbol "*"] := Phrase.star.mono fun c hc => by
  constructor <;> rintro rfl <;> revert hc <;> decide

/-- The parameters of a function have tokens. -/
theorem phrase_parameters {ps : List Parameter} (h : ∀ p ∈ ps, p.isLegible = true) :
    Phrase Closes (Statement.printParameters ps) (commaTokens (parameterTokens ps)) := by
  have hsome (f : Parameter → Bool) : ∀ p ∈ ps.filter f, Phrase Closes p.print p.tokens :=
    fun p hp => phrase_parameter (h p (List.mem_filter.mp hp).1)
  unfold Statement.printParameters parameterTokens
  rw [List.partition_eq_filter_filter]
  refine Phrase.commaSeparated (List.rel_append (spelled_map (hsome _)) ?_)
  split
  · exact .nil
  · exact .cons phrase_bareStar (spelled_map (hsome _))

theorem fits_parameters {ps : List Parameter} (h : ∀ p ∈ ps, p.isLegible = true) :
    Fits 1 (commaTokens (parameterTokens ps)) := by
  have hsome (f : Parameter → Bool) : ∀ ts ∈ (ps.filter f).map Parameter.tokens, Fits 1 ts := by
    intro ts hts
    obtain ⟨p, hp, rfl⟩ := List.mem_map.mp hts
    exact fits_parameter (h p (List.mem_filter.mp hp).1)
  refine fits_comma (List.forall_mem_append.mpr ⟨hsome _, ?_⟩)
  split
  · nofun
  · exact List.forall_mem_cons.mpr ⟨Fits.cons (fun s hs => by cases hs; decide) fits_nil, hsome _⟩

theorem line_function {name : String} {ps : List Parameter} (hname : isName name = true)
    (h : ∀ p ∈ ps, p.isLegible = true) :
    Line ("def ".toList ++ name.toList ++ '(' :: Statement.printParameters ps ++ [')', ':'])
      (.keyword "def" :: .name name :: .symbol "(" ::
        (commaTokens (parameterTokens ps) ++ [.symbol ")", .symbol ":"])) := by
  have hparams : Phrase Closes ('(' :: (Statement.printParameters ps ++ [')']))
      (.symbol "(" :: (commaTokens (parameterTokens ps) ++ [.symbol ")"])) :=
    (phrase_parameters h).parentheses (by decide)
  have hphrase := ((Phrase.name hname).append ⟨by decide, by decide⟩
    (hparams.append (by decide) phrase_lastColon)).behindKeyword (s := "def") (by decide)
    (by decide)
  refine ⟨?_, opens_of_isNameChar (by decide) _, ?_⟩
  · have htext : "def ".toList ++ name.toList ++ '(' :: Statement.printParameters ps ++ [')', ':'] =
        "def".toList ++ ' ' :: (name.toList ++
          ('(' :: (Statement.printParameters ps ++ [')']) ++ [':'])) := by
      simp
    have htokens : commaTokens (parameterTokens ps) ++ [.symbol ")", .symbol ":"] =
        commaTokens (parameterTokens ps) ++ [.symbol ")"] ++ [.symbol ":"] := by simp
    rw [htext, htokens]
    exact hphrase
  · have hparentheses := Fits.parentheses (by decide) (fits_parameters h)
    have hall := hparentheses.append fits_colon
    rw [List.cons_append, List.append_assoc] at hall
    exact Fits.cons nofun (Fits.cons nofun hall)

end Definitions

/-! ### Other lines -/

section Plain

variable {e t v : Expr} {others : Nat}

theorem Expr.isSpelled_of_isLegible (h : e.isLegible others = true) : e.IsSpelled :=
  e.isSpelled (Expr.isLegible_iff.mp h).1

theorem Expr.fits_of_isLegible (h : e.isLegible others = true) :
    Fits others (e.tokens Level.test) := by
  obtain ⟨hparts, -, hnests⟩ := Expr.isLegible_iff.mp h
  exact Expr.fits_of_nests hparts hnests

theorem Expr.opens_of_isLegible (h : e.isLegible others = true) :
    Opens false (e.print false Level.test) :=
  (Expr.isSpelled_of_isLegible h).opens (Expr.isLegible_iff.mp h).2.1 (Nat.le_refl _)

theorem line_assign (ht : t.isLegible 0 = true) (hv : v.isLegible 0 = true) :
    Line (t.print false Level.test ++ " = ".toList ++ v.print false Level.test)
      (t.tokens Level.test ++ .symbol "=" :: v.tokens Level.test) := by
  have hvalue := ((Expr.isSpelled_of_isLegible hv).closes Level.test).spacedSymbol (s := "=")
    (by decide) (by decide) (by decide)
  have htarget := (Expr.isSpelled_of_isLegible ht).closes Level.test
  have htext : t.print false Level.test ++ " = ".toList ++ v.print false Level.test =
      t.print false Level.test ++ (' ' :: "=".toList ++ ' ' :: v.print false Level.test) := by simp
  rw [htext]
  refine ⟨htarget.append (by decide) hvalue, (Expr.opens_of_isLegible ht).append _, ?_⟩
  exact (Expr.fits_of_isLegible ht).append
    (Fits.cons (fun s hs => by cases hs; decide) (Expr.fits_of_isLegible hv))

/-- A call has its text and its tokens at every level. -/
theorem call_eq_of_isCall (h : isCall e = true) (level : Nat) :
    e.print false level = e.print false Level.test ∧ e.tokens level = e.tokens Level.test := by
  cases e with
  | call f args keywords => exact ⟨by rw [Expr.print, Expr.print], by rw [Expr.tokens, Expr.tokens]⟩
  | _ => cases h

theorem line_expression (hv : v.isLegible 0 = true) (hcall : isCall v = true) :
    Line (v.print false Level.yield) (v.tokens Level.yield) := by
  obtain ⟨htext, htokens⟩ := call_eq_of_isCall hcall Level.yield
  rw [htext, htokens]
  exact ⟨(Expr.isSpelled_of_isLegible hv).closes _, Expr.opens_of_isLegible hv,
    Expr.fits_of_isLegible hv⟩

theorem line_return (hv : v.isLegible 0 = true) :
    Line ("return ".toList ++ v.print false Level.test)
      (.keyword "return" :: v.tokens Level.test) := by
  have htext : "return ".toList ++ v.print false Level.test =
      "return".toList ++ ' ' :: v.print false Level.test := by simp
  rw [htext]
  exact ⟨((Expr.isSpelled_of_isLegible hv).closes _).behindKeyword (by decide) (by decide),
    opens_of_isNameChar (by decide) _, Fits.cons nofun (Expr.fits_of_isLegible hv)⟩

theorem line_pass : Line "pass".toList [.keyword "pass"] :=
  ⟨.keyword (by decide) (by decide), opens_of_isNameChar (by decide) _, Fits.cons nofun fits_nil⟩

end Plain

/-! ## Statements -/

section Trimmed

variable {d : Nat} {cs : List Char} {ts : List Token} {ls : List (List Char)}

/-- The lines without an empty one in front. -/
def Statement.trimmed : List (List Char) → List (List Char)
  | [] :: ls => ls
  | ls => ls

theorem Statement.moduleLines_eq_trimmed (ss : List Statement) :
    moduleLines ss = trimmed (blockLines 0 ss) := rfl

/-- An empty line in front changes no token. -/
theorem CutLines.of_trimmed (h : CutLines d (Statement.joinLines (Statement.trimmed ls)) ts) :
    CutLines d (Statement.joinLines ls) ts := by
  rcases ls with _ | ⟨_ | ⟨c, cs⟩, ls⟩
  case cons.nil => exact h.blank
  all_goals exact h

theorem Line.trimmed (h : Line cs ts) :
    CutLines d (Statement.joinLines (Statement.trimmed [Statement.margin d ++ cs]))
      (ts ++ [.newline]) := by
  obtain ⟨c, cs, rfl, -⟩ := h.opens
  have htrimmed : Statement.trimmed [Statement.margin d ++ c :: cs] =
      [Statement.margin d ++ c :: cs] := by
    cases hline : Statement.margin d ++ c :: cs with
    | nil => exact absurd hline (List.append_ne_nil_of_right_ne_nil _ (List.cons_ne_nil _ _))
    | cons => rfl
  rw [htrimmed]
  exact h.cut

end Trimmed

namespace Statement

mutual

/-- The lines of a statement are cut into its tokens. -/
theorem cut (s : Statement) (h : s.isLegible = true) {d : Nat} (hd : d + s.height ≤ marginLimit) :
    CutLines d (joinLines (trimmed (s.lines d))) s.tokens := by
  cases s
  case importModule m =>
    rw [isLegible] at h
    rw [lines, tokens, List.append_assoc]
    exact (line_importModule h).trimmed
  case importFrom m names =>
    simp only [isLegible, Bool.and_eq_true] at h
    have hcut := (line_importFrom h.1.1 (List.all_eq_true.mp h.2)).trimmed (d := d)
    rw [lines, tokens]
    simpa only [List.append_assoc, List.cons_append] using hcut
  case classDef name base doc body =>
    simp only [isLegible, Bool.and_eq_true, decide_eq_true_eq] at h
    obtain ⟨⟨⟨⟨hname, hbase⟩, hdoc⟩, -⟩, hbody⟩ := h
    rw [height] at hd
    have hinner := cutBehind body hbody (show d + 1 + blockHeight body ≤ marginLimit by omega)
      (line_documentation hdoc).cut
    rw [← joinLines_append] at hinner
    have hcut := (line_classDef hname hbase).block (show d < marginLimit by omega) hinner
    rw [lines, tokens]
    simpa only [trimmed, List.append_assoc, List.cons_append, List.nil_append] using hcut
  case function name params body =>
    simp only [isLegible, Bool.and_eq_true, Bool.not_eq_true'] at h
    obtain ⟨⟨⟨⟨⟨hname, hparams⟩, -⟩, hne⟩, -⟩, hbody⟩ := h
    rw [height] at hd
    rcases body with _ | ⟨s, ss⟩
    case nil => cases hne
    rw [areLegible, Bool.and_eq_true] at hbody
    rw [blockHeight] at hd
    have hinner := cutBehind ss hbody.2 (show d + 1 + blockHeight ss ≤ marginLimit by omega)
      (s.cut hbody.1 (show d + 1 + s.height ≤ marginLimit by omega)).of_trimmed
    rw [← joinLines_append, ← blockLines, ← listTokens] at hinner
    have hcut := (line_function hname (List.all_eq_true.mp hparams)).block
      (show d < marginLimit by omega) hinner
    rw [lines, tokens]
    simpa only [trimmed, List.append_assoc, List.cons_append, List.nil_append] using hcut
  case assign target value =>
    simp only [isLegible, Bool.and_eq_true] at h
    have hcut := (line_assign h.1.1.1 h.2).trimmed (d := d)
    rw [lines, tokens]
    simpa only [List.append_assoc, List.cons_append] using hcut
  case expression value =>
    simp only [isLegible, Bool.and_eq_true] at h
    rw [lines, tokens]
    exact (line_expression h.1.1 h.1.2).trimmed
  case «return» value =>
    rw [isLegible] at h
    rw [lines, tokens, List.append_assoc]
    exact (line_return h).trimmed
  case pass =>
    rw [lines, tokens]
    exact line_pass.trimmed

/-- The lines of a block behind others. -/
theorem cutBehind (ss : List Statement) (h : areLegible ss = true) {d : Nat}
    (hd : d + blockHeight ss ≤ marginLimit) {cs : List Char} {ts : List Token}
    (hcut : CutLines d cs ts) :
    CutLines d (cs ++ joinLines (blockLines d ss)) (ts ++ listTokens ss) := by
  rcases ss with _ | ⟨s, ss⟩
  case nil =>
    rw [blockLines, listTokens, joinLines, List.append_nil, List.append_nil]
    exact hcut
  case cons =>
    rw [areLegible, Bool.and_eq_true] at h
    rw [blockHeight] at hd
    rw [blockLines, listTokens, joinLines_append, ← List.append_assoc, ← List.append_assoc]
    exact cutBehind ss h.2 (by omega) (hcut.append (s.cut h.1 (by omega)).of_trimmed)

end

end Statement

end LivePreview.Code
