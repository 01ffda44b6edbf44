import LivePreview.Proofs.Objections
import LivePreview.Proofs.ParamNames

/-!
# Parameter lines that are written again

The grammar of a parameter line leaves open how blanks are shared out between a clause and what
surrounds it, so that many readings of one line fit. They all have the same name, and the same hint
and default without the blanks around them: the hint ends at the first equals sign of the line. A
parameter that was read can therefore be written as a line again, and this line is read as the same
parameter.
-/

namespace LivePreview

open Text (isBlank isWord strip)
open Template (forall_mem_takeWhile)

namespace Text

/-! ## Blanks around a text -/

/-- The codes of the blanks. -/
def blankCodes : List Nat := [
  9, 10, 11, 12, 13, 0x1c, 0x1d, 0x1e, 0x1f, 0x20, 0x85, 0xa0, 0x1680, 0x2000, 0x2001, 0x2002,
  0x2003, 0x2004, 0x2005, 0x2006, 0x2007, 0x2008, 0x2009, 0x200a, 0x2028, 0x2029, 0x202f, 0x205f,
  0x3000]

theorem mem_blankCodes {c : Char} (h : isBlank c = true) : c.toNat ∈ blankCodes := by
  simp only [isBlank, Bool.or_eq_true, Bool.and_eq_true, decide_eq_true_eq, beq_iff_eq] at h
  simp only [blankCodes, List.mem_cons, List.not_mem_nil, or_false]
  omega

theorem isBlank_eq_false_of_isWord {c : Char} (h : isWord c = true) : isBlank c = false := by
  have hcodes : ∀ n ∈ blankCodes, inside wordBoundaries n = false := by decide +kernel
  by_contra hblank
  rw [isWord, hcodes _ (mem_blankCodes (Bool.not_eq_false _ ▸ hblank))] at h
  cases h

/-- Blanks around a text do not matter. -/
theorem strip_append {gap behind : List Char} (hgap : ∀ c ∈ gap, isBlank c = true)
    (hbehind : ∀ c ∈ behind, isBlank c = true) (cs : List Char) :
    strip (gap ++ (cs ++ behind)) = strip cs := by
  have hreverse : ∀ c ∈ behind.reverse, isBlank c = true := fun c hc =>
    hbehind c (List.mem_reverse.mp hc)
  rw [strip, strip, List.dropWhile_append_of_pos hgap, List.dropWhile_append]
  split
  · next hempty =>
    have hall := (Template.takeWhile_run [] hbehind (by simp)).2
    rw [List.append_nil] at hall
    rw [List.isEmpty_iff.mp hempty, hall]
  · rw [List.reverse_append, List.dropWhile_append_of_pos hreverse]

theorem exists_strip (cs : List Char) : ∃ gap behind, (∀ c ∈ gap, isBlank c = true) ∧
    (∀ c ∈ behind, isBlank c = true) ∧ cs = gap ++ (strip cs ++ behind) := by
  have hfront := List.takeWhile_append_dropWhile (p := isBlank) (l := cs)
  have hback := List.takeWhile_append_dropWhile (p := isBlank) (l := (cs.dropWhile isBlank).reverse)
  have hsplit : strip cs ++ ((cs.dropWhile isBlank).reverse.takeWhile isBlank).reverse =
      cs.dropWhile isBlank := by
    rw [strip, ← List.reverse_append, hback, List.reverse_reverse]
  refine ⟨cs.takeWhile isBlank, ((cs.dropWhile isBlank).reverse.takeWhile isBlank).reverse,
    forall_mem_takeWhile cs, fun c hc => forall_mem_takeWhile _ c (List.mem_reverse.mp hc), ?_⟩
  rw [hsplit, hfront]

theorem strip_strip (cs : List Char) : strip (strip cs) = strip cs := by
  obtain ⟨gap, behind, hgap, hbehind, hcs⟩ := exists_strip cs
  rw [← strip_append hgap hbehind, ← hcs]

theorem strip_of_isWord {cs : List Char} (h : ∀ c ∈ cs, isWord c = true) : strip cs = cs := by
  have hnone : ∀ c ∈ ([] : List Char), isBlank c = true := List.forall_mem_nil _
  have hdrop {ds : List Char} (hds : ∀ c ∈ ds, isWord c = true) : ds.dropWhile isBlank = ds :=
    (Template.takeWhile_run ds hnone fun c hc =>
      isBlank_eq_false_of_isWord (hds c (List.mem_of_mem_head? hc))).2
  rw [strip, hdrop h, hdrop fun c hc => h c (List.mem_reverse.mp hc), List.reverse_reverse]

end Text

namespace Template

/-! ## The grammar of a line -/

/-- An optional clause as it is written: nothing, or its sign, any blanks and some text. -/
inductive WrittenClause (sign : Char) : List Char → Option (List Char) → Prop
  | absent : WrittenClause sign [] none
  | present {gap text : List Char} (hgap : ∀ c ∈ gap, isBlank c = true) (htext : text ≠ []) :
      WrittenClause sign (sign :: (gap ++ text)) (some text)

/-- The grammar of a parameter line: blanks, a name, perhaps a colon with a hint, perhaps an equals
sign with a default, and any blanks between and behind them. A hint has no equals sign. The texts of
clauses may begin and end with blanks, so that a line can be read in more than one way. -/
inductive ParamGrammar : List Char → List Char → Option (List Char) → Option (List Char) → Prop
  | line {c : Char} {lead word before hintPart between defaultPart behind : List Char}
      {hint default : Option (List Char)} (hlead : lead ≠ [] ∧ ∀ b ∈ lead, isBlank b = true)
      (hname : isNameStart c = true ∧ ∀ d ∈ word, isWord d = true)
      (hbefore : ∀ b ∈ before, isBlank b = true) (hhint : WrittenClause ':' hintPart hint)
      (hunsigned : ∀ text ∈ hint, '=' ∉ text) (hbetween : ∀ b ∈ between, isBlank b = true)
      (hdefault : WrittenClause '=' defaultPart default) (hbehind : ∀ b ∈ behind, isBlank b = true) :
      ParamGrammar (lead ++ (c :: word ++ (before ++ hintPart ++ (between ++ defaultPart ++ behind))))
        (c :: word) hint default

/-- The text of a clause without the blanks around it. -/
def Clause.content (c : Clause) : List Char := strip c.text

section Grammar

variable {args name : List Char} {hint default : Option (List Char)} {line : ParamLine}

theorem isWord_of_isNameStart {c : Char} (h : isNameStart c = true) : isWord c = true := by
  by_cases hletter : isLetter c = true
  · exact isWord_of_isLetter hletter
  · have hc : c = '_' := by simpa [isNameStart, hletter] using h
    rw [hc]
    decide +kernel

theorem ne_of_isBlank {b sign : Char} (hsign : isBlank sign = false) (hb : isBlank b = true) :
    b ≠ sign := by
  rintro rfl
  rw [hsign] at hb
  cases hb

/-- A line is divided as the grammar has it, with all blanks given to the clauses. -/
theorem exists_divides (name front : List Char)
    {before hintPart between defaultPart behind : List Char}
    (hbefore : ∀ b ∈ before, isBlank b = true) (hhint : WrittenClause ':' hintPart hint)
    (hunsigned : ∀ text ∈ hint, '=' ∉ text) (hbetween : ∀ b ∈ between, isBlank b = true)
    (hdefault : WrittenClause '=' defaultPart default) (hbehind : ∀ b ∈ behind, isBlank b = true) :
    ∃ line : ParamLine, line.Divides name front
        (before ++ hintPart ++ (between ++ defaultPart ++ behind)) ∧
      line.hint.map Clause.content = hint.map strip ∧
      line.default.map Clause.content = default.map strip := by
  have hblanks {xs ys : List Char} (hxs : ∀ b ∈ xs, isBlank b = true)
      (hys : ∀ b ∈ ys, isBlank b = true) : ∀ b ∈ xs ++ ys, isBlank b = true :=
    List.forall_mem_append.mpr ⟨hxs, hys⟩
  have hunsignedBlanks {xs : List Char} (hxs : ∀ b ∈ xs, isBlank b = true) : '=' ∉ xs :=
    fun hmem => ne_of_isBlank (by decide) (hxs _ hmem) rfl
  cases hhint with
  | absent =>
    cases hdefault with
    | absent =>
      refine ⟨⟨name, none, none⟩, ?_, rfl, rfl⟩
      have hdivides : ParamLine.Divides name front _ _ :=
        .name (hblanks hbefore (hblanks hbetween hbehind))
      simpa using hdivides
    | @present gap text hgap htext =>
      have hvalue : gap ++ text ++ behind ≠ [] := by simp [htext]
      have hdivides : ParamLine.Divides name front _ _ :=
        .default (hblanks hbefore hbetween) hvalue
      refine ⟨_, by simpa using hdivides, rfl, ?_⟩
      exact congrArg some (Text.strip_append hgap hbehind text)
  | @present gap hint hgap htext =>
    have hhint : '=' ∉ gap ++ hint ++ between := by
      simp [hunsignedBlanks hgap, hunsigned _ rfl, hunsignedBlanks hbetween]
    cases hdefault with
    | absent =>
      have hsign : '=' ∉ gap ++ hint ++ (between ++ behind) := by
        simp [hunsignedBlanks hgap, hunsigned _ rfl, hunsignedBlanks hbetween,
          hunsignedBlanks hbehind]
      have hdivides : ParamLine.Divides name front _ _ :=
        .hint hbefore (by simp [htext]) hsign
      refine ⟨_, by simpa using hdivides, ?_, rfl⟩
      exact congrArg some (Text.strip_append hgap (hblanks hbetween hbehind) hint)
    | @present defaultGap text hdefaultGap hdefaultText =>
      have hvalue : defaultGap ++ text ++ behind ≠ [] := by simp [hdefaultText]
      have hdivides : ParamLine.Divides name front _ _ :=
        .both hbefore (by simp [htext]) hhint hvalue
      refine ⟨_, by simpa using hdivides, ?_, ?_⟩
      · exact congrArg some (Text.strip_append hgap hbetween hint)
      · exact congrArg some (Text.strip_append hdefaultGap hbehind text)

/-- What the grammar reads, the reader reads, up to blanks. -/
theorem paramLine?_of_grammar (h : ParamGrammar args name hint default) :
    ∃ line, paramLine? args = some line ∧ line.name = name ∧
      line.hint.map Clause.content = hint.map strip ∧
      line.default.map Clause.content = default.map strip := by
  cases h with
  | @line c lead word before hintPart between defaultPart behind hint default hlead hname hbefore
      hhint hunsigned hbetween hdefault hbehind =>
    obtain ⟨line, hdivides, hsame⟩ := exists_divides (c :: word) (lead ++ c :: word)
      hbefore hhint hunsigned hbetween hdefault hbehind
    refine ⟨line, ?_, hdivides.name_eq, hsame⟩
    generalize before ++ hintPart ++ (between ++ defaultPart ++ behind) = rest at hdivides ⊢
    have hstart : isBlank c = false :=
      Text.isBlank_eq_false_of_isWord (isWord_of_isNameStart hname.1)
    have hend : ∀ d ∈ rest.head?, isWord d = false := by
      intro d hd
      rcases hdivides.head d hd with hblank | rfl | rfl
      · by_contra hword
        rw [Text.isBlank_eq_false_of_isWord (Bool.not_eq_false _ ▸ hword)] at hblank
        cases hblank
      · decide +kernel
      · decide +kernel
    have hleads := takeWhile_run (c :: word ++ rest) hlead.2 (by simpa using hstart)
    have hwords := takeWhile_run rest hname.2 hend
    have hfilled : lead.isEmpty = false := by simpa using hlead.1
    rw [List.cons_append] at hleads
    simp only [paramLine?, List.cons_append, hleads.1, hleads.2, hwords.1, hwords.2, hfilled,
      hname.1, Bool.not_true, Bool.or_false, Bool.false_eq_true, if_false,
      paramRest?_of_divides hdivides]

/-- What the reader reads fits the grammar. -/
theorem grammar_of_paramLine? (h : paramLine? args = some line) :
    ParamGrammar args line.name (line.hint.map (·.text)) (line.default.map (·.text)) := by
  obtain ⟨lead, c, word, rest, rfl, hlead, hblank, hstart, hword, hdivides⟩ :=
    divides_of_paramLine? h
  have hnone : ∀ b ∈ ([] : List Char), isBlank b = true := List.forall_mem_nil _
  have hunsigned : ∀ text ∈ (none : Option (List Char)), '=' ∉ text := by simp
  cases hdivides with
  | name hgap =>
    simpa using ParamGrammar.line ⟨hlead, hblank⟩ ⟨hstart, hword⟩ hgap .absent hunsigned hnone .absent
      hnone
  | hint hgap hne hsign =>
    simpa using ParamGrammar.line ⟨hlead, hblank⟩ ⟨hstart, hword⟩ hgap (.present hnone hne)
      (by simpa using hsign) hnone .absent hnone
  | both hgap hne hsign hvalue =>
    simpa using ParamGrammar.line ⟨hlead, hblank⟩ ⟨hstart, hword⟩ hgap (.present hnone hne)
      (by simpa using hsign) hnone (.present hnone hvalue) hnone
  | default hgap hvalue =>
    simpa using ParamGrammar.line ⟨hlead, hblank⟩ ⟨hstart, hword⟩ hgap .absent hunsigned hnone
      (.present hnone hvalue) hnone

theorem takeWhile_unsigned {sign : Char} {cs : List Char} (h : sign ∉ cs) :
    cs.takeWhile (· ≠ sign) = cs ∧ cs.dropWhile (· ≠ sign) = [] := by
  have hcs : ∀ c ∈ cs, decide (c ≠ sign) = true := fun c hc =>
    decide_eq_true fun heq => h (heq ▸ hc)
  have hrun := takeWhile_run [] hcs (by simp)
  rwa [List.append_nil] at hrun

theorem takeWhile_signed {sign : Char} {front : List Char} (h : sign ∉ front) (rest : List Char) :
    (front ++ sign :: rest).takeWhile (· ≠ sign) = front ∧
      (front ++ sign :: rest).dropWhile (· ≠ sign) = sign :: rest :=
  takeWhile_run (sign :: rest) (fun c hc => decide_eq_true fun heq => h (heq ▸ hc)) (by simp)

/-- Where a line is divided: the default is all that stands behind its first equals sign, the hint
stands between the first colon before that and the sign, and the name before both. -/
theorem signs_of_paramLine? (h : paramLine? args = some line) :
    line.name = strip ((args.takeWhile (· ≠ '=')).takeWhile (· ≠ ':')) ∧
    line.hint.map (·.text) = ((args.takeWhile (· ≠ '=')).dropWhile (· ≠ ':')).tail? ∧
    line.default.map (·.text) = (args.dropWhile (· ≠ '=')).tail? := by
  obtain ⟨lead, c, word, rest, rfl, -, hblank, hstart, hword, hdivides⟩ := divides_of_paramLine? h
  have hname : ∀ d ∈ c :: word, isWord d = true :=
    List.forall_mem_cons.mpr ⟨isWord_of_isNameStart hstart, hword⟩
  -- All that stands before the first sign is blanks, the name and blanks again.
  have hfront {gap : List Char} (hgap : ∀ b ∈ gap, isBlank b = true) (rest : List Char) :
      ∃ front, lead ++ (c :: word ++ (gap ++ rest)) = front ++ rest ∧ strip front = c :: word ∧
        ':' ∉ front ∧ '=' ∉ front := by
    have hfree {sign : Char} (hsign : isBlank sign = false ∧ isWord sign = false) :
        sign ∉ lead ++ (c :: word ++ gap) := by
      simp only [List.mem_append, not_or]
      refine ⟨fun hmem => ?_, fun hmem => ?_, fun hmem => ?_⟩
      · exact ne_of_isBlank hsign.1 (hblank _ hmem) rfl
      · exact absurd (hname _ hmem) (by rw [hsign.2]; decide)
      · exact ne_of_isBlank hsign.1 (hgap _ hmem) rfl
    refine ⟨lead ++ (c :: word ++ gap), by simp, ?_, hfree (by decide +kernel),
      hfree (by decide +kernel)⟩
    rw [Text.strip_append hblank hgap, Text.strip_of_isWord hname]
  cases hdivides with
  | name hgap =>
    obtain ⟨front, hargs, hstrip, hcolon, hequals⟩ := hfront hgap []
    rw [List.append_nil, List.append_nil] at hargs
    rw [hargs, (takeWhile_unsigned hequals).1, (takeWhile_unsigned hequals).2,
      (takeWhile_unsigned hcolon).1, (takeWhile_unsigned hcolon).2, hstrip]
    exact ⟨rfl, rfl, rfl⟩
  | @hint gap hint hgap hne hsign =>
    obtain ⟨front, hargs, hstrip, hcolon, hequals⟩ := hfront hgap (':' :: hint)
    have hunsigned : '=' ∉ front ++ ':' :: hint := by simp [hequals, hsign]
    rw [hargs, (takeWhile_unsigned hunsigned).1, (takeWhile_unsigned hunsigned).2,
      (takeWhile_signed hcolon hint).1, (takeWhile_signed hcolon hint).2, hstrip]
    exact ⟨rfl, rfl, rfl⟩
  | @both gap hint value hgap hne hsign hvalue =>
    obtain ⟨front, hargs, hstrip, hcolon, hequals⟩ := hfront hgap (':' :: (hint ++ '=' :: value))
    have hunsigned : '=' ∉ front ++ ':' :: hint := by simp [hequals, hsign]
    rw [hargs, show front ++ ':' :: (hint ++ '=' :: value) = (front ++ ':' :: hint) ++ '=' :: value by
      simp, (takeWhile_signed hunsigned value).1, (takeWhile_signed hunsigned value).2,
      (takeWhile_signed hcolon hint).1, (takeWhile_signed hcolon hint).2, hstrip]
    exact ⟨rfl, rfl, rfl⟩
  | @default gap value hgap hvalue =>
    obtain ⟨front, hargs, hstrip, hcolon, hequals⟩ := hfront hgap ('=' :: value)
    rw [hargs, (takeWhile_signed hequals value).1, (takeWhile_signed hequals value).2,
      (takeWhile_unsigned hcolon).1, (takeWhile_unsigned hcolon).2, hstrip]
    exact ⟨rfl, rfl, rfl⟩

end Grammar

/-! ## Expressions of clauses -/

theorem Expression.source_ne_nil (e : Expression) : e.source.toList ≠ [] := by
  intro hnil
  have hsource : e.source = "" := String.toList_eq_nil_iff.mp hnil
  have hempty : (Code.Expr.read "").toBool = false := by decide +kernel
  rw [← hsource, e.reads] at hempty
  cases hempty

theorem expressionAt_eq_ok_iff {place : Position} {text : List Char} {e : Expression} :
    expressionAt place text = .ok e ↔ e.source.toList = strip text := by
  constructor
  · intro h
    rw [source_of_expressionAt h, String.toList_ofList]
  · intro h
    have hsource : e.source = String.ofList (strip text) := by rw [← h, String.ofList_toList]
    have hne : strip text ≠ [] := h ▸ e.source_ne_nil
    have hread : Expression.ofText e.source = .ok e := by
      unfold Expression.ofText
      split
      · next tree hreads =>
        obtain ⟨source, other, hother⟩ := e
        rw [hother] at hreads
        cases hreads
        rfl
      · next fault hreads =>
        rw [e.reads] at hreads
        cases hreads
    rw [hsource] at hread
    simp only [expressionAt, List.isEmpty_iff, hne, if_false, hread]

theorem clauseExpression_eq_ok_iff {place : Position} {clause? : Option Clause}
    {e? : Option Expression} : clauseExpression place clause? = .ok e? ↔
      e?.map (·.source.toList) = clause?.map Clause.content := by
  cases clause? with
  | none => cases e? <;> simp [clauseExpression]
  | some clause =>
    rw [clauseExpression, bind_eq_ok_iff]
    cases e? with
    | none => simp [pure, Except.pure]
    | some e => simp [pure, Except.pure, expressionAt_eq_ok_iff, Clause.content]

/-- A parameter is read from a line that has its name and the texts of its expressions. -/
theorem readParam_eq_ok_iff_line {mark : Position} {args : List Char} {p : Param} :
    readParam mark args = .ok p ↔ p.place = mark ∧ isUnusableParam p.name = false ∧
      ∃ line, paramLine? args = some line ∧ p.name.toList = line.name ∧
        p.hint.map (·.source.toList) = line.hint.map Clause.content ∧
        p.default.map (·.source.toList) = line.default.map Clause.content := by
  simp only [readParam_eq_ok_iff, clauseExpression_eq_ok_iff]
  constructor
  · rintro ⟨line, hint, default, hline, husable, hhint, hdefault, rfl⟩
    exact ⟨rfl, husable, line, hline, String.toList_ofList, hhint, hdefault⟩
  · rintro ⟨rfl, husable, line, hline, hname, hhint, hdefault⟩
    have hsame : String.ofList line.name = p.name := by rw [← hname, String.ofList_toList]
    exact ⟨line, p.hint, p.default, hline, by rwa [hsame], hhint, hdefault, by rw [hsame]⟩

/-! ## Writing a parameter -/

/-- What stands behind the word of a parameter line. -/
def Param.arguments (p : Param) : List Char :=
  ' ' :: p.name.toList ++
    (match p.hint with
    | some e => ": ".toList ++ e.source.toList
    | none => []) ++
    match p.default with
    | some e => " = ".toList ++ e.source.toList
    | none => []

/-- The line that declares a parameter. -/
def Param.written (p : Param) : String := "@param" ++ String.ofList p.arguments

/-- How a parameter was read from a line. -/
structure Param.ReadFrom (p : Param) (args : List Char) : Prop where
  /-- The line fits the grammar. -/
  matched : ∃ hint default, ParamGrammar args p.name.toList hint default
  /-- However the line is read by the grammar, the parameter is what comes out. -/
  unique : ∀ name hint default, ParamGrammar args name hint default →
    name = p.name.toList ∧ hint.map strip = p.hint.map (·.source.toList) ∧
      default.map strip = p.default.map (·.source.toList)
  name : p.name.toList = strip ((args.takeWhile (· ≠ '=')).takeWhile (· ≠ ':'))
  /-- The hint ends at the first equals sign of the line. -/
  hint : p.hint.map (·.source.toList) =
    ((args.takeWhile (· ≠ '=')).dropWhile (· ≠ ':')).tail?.map strip
  /-- The default is all that follows this sign. -/
  default : p.default.map (·.source.toList) = (args.dropWhile (· ≠ '=')).tail?.map strip

section Writing

variable {mark : Position} {args : List Char} {p : Param}

theorem readFrom_of_readParam (h : readParam mark args = .ok p) : p.ReadFrom args := by
  obtain ⟨-, -, line, hline, hname, hhint, hdefault⟩ := readParam_eq_ok_iff_line.mp h
  obtain ⟨hfront, hcolon, hsign⟩ := signs_of_paramLine? hline
  have hcontent (clause? : Option Clause) :
      clause?.map Clause.content = (clause?.map (·.text)).map strip := by
    rw [Option.map_map]
    rfl
  constructor
  case matched => exact ⟨_, _, hname ▸ grammar_of_paramLine? hline⟩
  case unique =>
    intro name hint default hgrammar
    obtain ⟨other, hother, hsame, hotherHint, hotherDefault⟩ := paramLine?_of_grammar hgrammar
    rw [hline, Option.some.injEq] at hother
    subst hother
    exact ⟨hsame.symm.trans hname.symm, hotherHint.symm.trans hhint.symm,
      hotherDefault.symm.trans hdefault.symm⟩
  case name => rw [hname, hfront]
  case hint => rw [hhint, hcontent, hcolon]
  case default => rw [hdefault, hcontent, hsign]

namespace Param.ReadFrom

variable (h : p.ReadFrom args)

include h

/-- What is written for a parameter fits the grammar, with its name and the texts that it keeps. -/
theorem grammar_arguments : ParamGrammar p.arguments p.name.toList
    (p.hint.map (·.source.toList)) (p.default.map (·.source.toList)) := by
  obtain ⟨hint, default, hgrammar⟩ := h.matched
  have hhint := (h.unique _ _ _ hgrammar).2.1
  rw [Param.arguments]
  generalize p.name.toList = name at hgrammar ⊢
  cases hgrammar with
  | @line c lead word before hintPart between defaultPart behind hint default hlead hname hbefore
      hpart hunsigned =>
    have hspace : ∀ b ∈ [' '], isBlank b = true := List.forall_mem_singleton.mpr rfl
    have hnone : ∀ b ∈ ([] : List Char), isBlank b = true := List.forall_mem_nil _
    have habsent : ∀ text ∈ (none : Option (List Char)), '=' ∉ text := by simp
    have hkept : ∀ text ∈ p.hint.map (·.source.toList), '=' ∉ text := by
      intro text htext
      rw [← hhint] at htext
      obtain ⟨raw, hraw, rfl⟩ := Option.map_eq_some_iff.mp htext
      exact fun hmem => hunsigned raw hraw ((Text.mem_strip_iff (by decide) raw).mp hmem)
    have hclause (sign : Char) (e : Expression) :
        WrittenClause sign (sign :: ([' '] ++ e.source.toList)) (some e.source.toList) :=
      .present hspace e.source_ne_nil
    cases hhintCase : p.hint with
    | none =>
      cases p.default with
      | none =>
        simpa using ParamGrammar.line ⟨List.cons_ne_nil ' ' [], hspace⟩ hname hnone .absent habsent
          hnone .absent hnone
      | some d =>
        simpa using ParamGrammar.line ⟨List.cons_ne_nil ' ' [], hspace⟩ hname hnone .absent habsent
          hspace (hclause '=' d) hnone
    | some e =>
      rw [hhintCase] at hkept
      cases p.default with
      | none =>
        simpa using ParamGrammar.line ⟨List.cons_ne_nil ' ' [], hspace⟩ hname hnone (hclause ':' e)
          hkept hnone .absent hnone
      | some d =>
        simpa using ParamGrammar.line ⟨List.cons_ne_nil ' ' [], hspace⟩ hname hnone (hclause ':' e)
          hkept hspace (hclause '=' d) hnone

/-- The parameter is read again from what is written for it, wherever that stands. -/
theorem readParam_arguments (husable : isUnusableParam p.name = false) (place : Position) :
    readParam place p.arguments = .ok { p with place := place } := by
  obtain ⟨hint, default, hgrammar⟩ := h.matched
  obtain ⟨-, hhint, hdefault⟩ := h.unique _ _ _ hgrammar
  obtain ⟨line, hline, hname, hlineHint, hlineDefault⟩ := paramLine?_of_grammar h.grammar_arguments
  have hstripped (text? : Option (List Char)) : (text?.map strip).map strip = text?.map strip := by
    rw [Option.map_map]
    exact Option.map_congr fun text _ => Text.strip_strip text
  refine readParam_eq_ok_iff_line.mpr ⟨rfl, husable, line, hline, hname.symm, ?_, ?_⟩
  · rw [hlineHint, ← hhint, hstripped]
  · rw [hlineDefault, ← hdefault, hstripped]

/-- Only signs and spaces are written that the line did not have. -/
theorem mem_of_mem_arguments {c : Char} (hc : c ∈ p.arguments) :
    c ∈ args ∨ c = ' ' ∨ c = ':' ∨ c = '=' := by
  have hstrip {cs : List Char} (hmem : c ∈ strip cs) : c ∈ cs := by
    obtain ⟨gap, behind, -, -, hcs⟩ := Text.exists_strip cs
    rw [hcs]
    exact List.mem_append_right gap (List.mem_append_left behind hmem)
  have hkept {text? : Option (List Char)} {e? : Option Expression}
      (hsource : e?.map (·.source.toList) = text?.map strip) (hsub : ∀ text ∈ text?, text ⊆ args) :
      ∀ e ∈ e?, c ∈ e.source.toList → c ∈ args := by
    intro e he hmem
    obtain ⟨text, htext, hsame⟩ := Option.map_eq_some_iff.mp
      (hsource.symm.trans (congrArg (Option.map (·.source.toList)) he))
    exact hsub text htext (hstrip (hsame ▸ hmem))
  have htail {cs : List Char} : ∀ text ∈ cs.tail?, text ⊆ cs := by
    intro text htext
    cases cs with
    | nil => cases htext
    | cons d ds =>
      obtain rfl := Option.some.inj htext
      exact List.subset_cons_self d _
  have hname (hmem : c ∈ p.name.toList) : c ∈ args := by
    rw [h.name] at hmem
    exact (List.takeWhile_sublist _).subset ((List.takeWhile_sublist _).subset (hstrip hmem))
  have hhint := hkept h.hint fun text htext => List.Subset.trans (htail text htext)
    ((List.dropWhile_sublist _).trans (List.takeWhile_sublist _)).subset
  have hdefault := hkept h.default fun text htext =>
    List.Subset.trans (htail text htext) (List.dropWhile_sublist _).subset
  have hsigns : ∀ d, d ∈ ": ".toList ∨ d ∈ " = ".toList → d = ' ' ∨ d = ':' ∨ d = '=' := by
    have hcolon : ": ".toList = [':', ' '] := by decide
    have hequals : " = ".toList = [' ', '=', ' '] := by decide
    grind
  rw [Param.arguments] at hc
  simp only [List.mem_append, List.mem_cons] at hc
  rcases hc with ((rfl | hc) | hc) | hc
  · exact .inr (.inl rfl)
  · exact .inl (hname hc)
  · cases hcase : p.hint with
    | none => simp [hcase] at hc
    | some e =>
      rw [hcase] at hc
      exact (List.mem_append.mp hc).elim (fun hc => .inr (hsigns c (.inl hc)))
        fun hc => .inl (hhint e hcase hc)
  · cases hcase : p.default with
    | none => simp [hcase] at hc
    | some e =>
      rw [hcase] at hc
      exact (List.mem_append.mp hc).elim (fun hc => .inr (hsigns c (.inr hc)))
        fun hc => .inl (hdefault e hcase hc)

end Param.ReadFrom

end Writing

/-! ## The line of a parameter -/

/-- The arguments of a directive end with its line. -/
theorem unbroken_of_mem_lexemes {cs indent args : List Char} {kind : DirectiveKind} {ended : Bool}
    (h : .directive indent kind args ended ∈ lexemes cs) : '\n' ∉ args := by
  have hall : ∀ l ∈ lexemes cs, ∀ indent kind args ended,
      l = .directive indent kind args ended → '\n' ∉ args := by
    refine forall_mem_lexemes (fun _ _ => nofun) (fun lineStart cs l rest h => ?_) cs
    rintro indent kind args ended rfl
    rcases lexeme?_cases h with h | h | h | h | h
    · obtain ⟨_, -, h⟩ := Option.bind_eq_some_iff.mp h
      obtain ⟨⟨kind, behind⟩, -, h⟩ := Option.bind_eq_some_iff.mp h
      dsimp only at h
      split at h
      · cases h
        exact notMem_takeWhile_ne '\n' behind
      · cases h
        exact notMem_takeWhile_ne '\n' behind
    · obtain ⟨_, -, h⟩ := Option.bind_eq_some_iff.mp h
      obtain ⟨_, -, h⟩ := Option.bind_eq_some_iff.mp h
      cases h
    · obtain ⟨_, -, h⟩ := Option.bind_eq_some_iff.mp h
      obtain ⟨_, -, h⟩ := Option.bind_eq_some_iff.mp h
      cases h
    · obtain ⟨_, -, h⟩ := Option.bind_eq_some_iff.mp h
      obtain ⟨_, -, h⟩ := Option.bind_eq_some_iff.mp h
      obtain ⟨_, -, h⟩ := Option.bind_eq_some_iff.mp h
      cases h
    · obtain ⟨_, -, h⟩ := Option.bind_eq_some_iff.mp h
      obtain ⟨_, -, h⟩ := Option.bind_eq_some_iff.mp h
      obtain ⟨_, -, h⟩ := Option.bind_eq_some_iff.mp h
      cases h
  exact hall _ h indent kind args ended rfl

/-- A directive line is the only lexeme of a text that it is alone in. -/
theorem lexemes_lastLine (kind : DirectiveKind) {args : List Char}
    (hbounded : args.head?.any isWord = false) (hunbroken : '\n' ∉ args) :
    lexemes ('@' :: (kind.word ++ args)) = [.directive [] kind args false] := by
  have hmark : isIndent '@' = false := by decide
  have hat : Text.behind? ['@'] ('@' :: (kind.word ++ args)) = some (kind.word ++ args) :=
    Text.behind?_append ['@'] _
  have hwhole := takeWhile_unsigned hunbroken
  have hstart : ('@' :: (kind.word ++ args)).takeWhile isIndent = [] ∧
      ('@' :: (kind.word ++ args)).dropWhile isIndent = '@' :: (kind.word ++ args) := by
    simp [hmark]
  have hdirective : directive? ('@' :: (kind.word ++ args)) =
      some (.directive [] kind args false, []) := by
    simp only [directive?, hstart.1, hstart.2, hat, directiveKind?_word kind hbounded, hwhole.1,
      hwhole.2, Option.bind_eq_bind, Option.bind_some]
  have hfound : lexeme? true ('@' :: (kind.word ++ args)) =
      some (.directive [] kind args false, []) := by
    rw [lexeme?, if_pos rfl, hdirective]
    rfl
  rw [lexemes, List.length_cons, lexemesFrom, hfound]
  simp only [lexemesFrom]

/-- A text that is the line of a parameter alone is read as this parameter. -/
theorem ofText_written {p : Param} (hread : readParam .start p.arguments = .ok p)
    (hunbroken : '\n' ∉ p.arguments) (filename : Option String) :
    ofText p.written filename = .ok ⟨[p], [], []⟩ ∧
      declarationsOfText p.written filename = .ok ⟨[p], [], []⟩ := by
  have hbounded : p.arguments.head?.any isWord = false :=
    show isWord ' ' = false by decide +kernel
  have hchars : p.written.toList = '@' :: (DirectiveKind.param.word ++ p.arguments) := by
    have hword : "@param".toList = '@' :: DirectiveKind.param.word := by decide
    rw [Param.written, String.toList_append, hword, String.toList_ofList, List.cons_append]
  have hwritten : Reading.readAll Reading.read .start .empty
      [.directive [] .param p.arguments false] = .ok ⟨[p], [], [], []⟩ :=
    bind_eq_ok_iff.mpr ⟨_, bind_eq_ok_iff.mpr ⟨p, hread, rfl⟩, rfl⟩
  have hwhole : ofText p.written filename = .ok ⟨[p], [], []⟩ := by
    rw [ofText_eq_ok_iff, hchars, ofChars, lexemes_lastLine .param hbounded hunbroken]
    exact bind_eq_ok_iff.mpr ⟨_, hwritten, rfl⟩
  exact ⟨hwhole, declarationsOfText_of_ofText hwhole⟩

theorem declarationsOfText_eq_ok_iff {source : String} {filename : Option String} {t : Template} :
    declarationsOfText source filename = .ok t ↔ declarationsOfChars source.toList = .ok t := by
  rw [declarationsOfText]
  cases declarationsOfChars source.toList <;> simp [reported]

/-- The parameters of a source are those that its lines declare. -/
theorem exists_lexeme_of_mem_params {source : String} {t : Template}
    (h : declarationsOfChars source.toList = .ok t) {p : Param} (hp : p ∈ t.params) :
    ∃ l ∈ lexemes source.toList, ∃ place, Reading.paramOf? place l = some p := by
  obtain ⟨r, hr, rfl⟩ := declarationsOfChars_eq_ok.mp h
  refine Reading.readAll_keeps_of_mem
    (P := fun r => ∀ p ∈ r.params, ∃ l ∈ lexemes source.toList, ∃ place,
      Reading.paramOf? place l = some p)
    (fun r place l next hl hr hnext p hp => ?_) _ _ _ (fun p hp => absurd hp List.not_mem_nil) hr p
    hp
  rw [Reading.params_readDeclaration hnext] at hp
  rcases List.mem_append.mp hp with hp | hp
  · exact hr p hp
  · exact ⟨l, hl, place, by simpa using hp⟩

/-- Every parameter of a source comes from a directive line of it. Such a line fits the grammar, and
however the grammar reads it, the parameter comes out: the hint is what stands between the first colon
and the first equals sign, the default is all that follows the sign, and neither has blanks around it.
Written as a line again, the parameter is read as it was, but for its place. -/
theorem param_lines_of_source (source : String) :
    (∀ filename t, ofText source filename = .ok t ∨ declarationsOfText source filename = .ok t →
      ∀ p ∈ t.params, ∃ l ∈ lexemes source.toList, ∃ place,
        Reading.paramOf? place l = some p) ∧
    ∀ l ∈ lexemes source.toList, ∀ place p, Reading.paramOf? place l = some p →
      (∃ indent args ended, l = .directive indent .param args ended ∧ p.ReadFrom args) ∧
      ∀ filename, ofText p.written filename = .ok ⟨[{ p with place := .start }], [], []⟩ ∧
        declarationsOfText p.written filename = .ok ⟨[{ p with place := .start }], [], []⟩ := by
  constructor
  · intro filename t ht p hp
    rcases ht with ht | ht
    · exact exists_lexeme_of_mem_params
        (declarationsOfText_eq_ok_iff.mp (declarationsOfText_of_ofText ht)) hp
    · exact exists_lexeme_of_mem_params (declarationsOfText_eq_ok_iff.mp ht) hp
  · intro l hl place p hparam
    unfold Reading.paramOf? at hparam
    split at hparam
    · next indent args ended =>
      have hread : readParam (place.after indent) args = .ok p := by
        cases hcase : readParam (place.after indent) args <;> rw [hcase] at hparam <;> cases hparam
        rfl
      have hfrom := readFrom_of_readParam hread
      have husable := (readParam_eq_ok_iff_line.mp hread).2.1
      have hunbroken : '\n' ∉ p.arguments := fun hmem => by
        rcases hfrom.mem_of_mem_arguments hmem with hmem | hmem
        · exact unbroken_of_mem_lexemes hl hmem
        · exact absurd hmem (by decide)
      exact ⟨⟨indent, args, ended, rfl, hfrom⟩,
        ofText_written (p := { p with place := .start })
          (hfrom.readParam_arguments husable .start) hunbroken⟩
    · cases hparam

/-- A page whose line has a colon and an equals sign in its default, and blanks all around. -/
def sizePage : String := "@param  size :  int=  \x7b1: 2 == 3\x7d  \nText"

/-- The parameter of the page is read, and read again from the line that is written for it. -/
theorem param_lines_of_source_sizePage : ∃ p : Param,
    p.written = "@param size: int = \x7b1: 2 == 3\x7d" ∧
    ofText p.written none = .ok ⟨[{ p with place := .start }], [], []⟩ := by
  obtain ⟨t, ht, hparams⟩ := exists_of_map_eq_some sizePage
    (f := fun t => t.params.map Param.written) (b := ["@param size: int = \x7b1: 2 == 3\x7d"])
    (by decide +kernel) none
  obtain ⟨hlines, hagain⟩ := param_lines_of_source sizePage
  obtain ⟨p, hp, hwritten⟩ : ∃ p ∈ t.params, p.written = "@param size: int = \x7b1: 2 == 3\x7d" := by
    rw [← List.mem_map, hparams]
    exact List.mem_singleton_self _
  obtain ⟨l, hl, place, hparam⟩ := hlines none t (.inl ht) p hp
  exact ⟨p, hwritten, ((hagain l hl place p hparam).2 none).1⟩

end Template

end LivePreview
