import LivePreview.Component.Shape
import LivePreview.Proofs.Lexemes
import LivePreview.Proofs.Reading

/-!
# Objections without a wording

The reader of templates words its own objections, except where the text of an expression has a null
character in it, which the target language refuses in another way than text that is not its own. The
extraction of a shape lets this one refusal through. It does so exactly when the first module or
parameter line that is refused is a parameter line refused for a null character.
-/

namespace LivePreview

open Text (isBlank isWord strip)

/-! ## Null characters -/

theorem mem_dropWhile_iff {α : Type} {p : α → Bool} {a : α} (ha : p a = false) (as : List α) :
    a ∈ as.dropWhile p ↔ a ∈ as := by
  induction as with
  | nil => rfl
  | cons b as ih =>
    rw [List.dropWhile_cons]
    split
    · next hb =>
      have hne : a ≠ b := by
        rintro rfl
        rw [ha] at hb
        cases hb
      rw [ih, List.mem_cons, or_iff_right hne]
    · rfl

theorem Text.mem_strip_iff {c : Char} (hc : isBlank c = false) (cs : List Char) :
    c ∈ strip cs ↔ c ∈ cs := by
  rw [strip, List.mem_reverse, mem_dropWhile_iff hc, List.mem_reverse, mem_dropWhile_iff hc]

theorem Code.read_eq_nullInCode_iff {text : String} :
    Code.Expr.read text = .error .nullInCode ↔ '\x00' ∈ text.toList := by
  rw [Code.Expr.read]
  split
  · next h => exact iff_of_true rfl (List.contains_iff_mem.mp h)
  · next h =>
    refine iff_of_false ?_ fun hmem => h (List.contains_iff_mem.mpr hmem)
    split
    · simp
    · simp

namespace Template

theorem Expression.ofText_eq_error_iff {source : String} {fault : HostFault} :
    Expression.ofText source = .error fault ↔ Code.Expr.read source = .error fault := by
  unfold Expression.ofText
  split
  · next h => simp [h]
  · next h => simp [h]

theorem expressionAt_eq_null_iff {place : Position} {text : List Char} :
    expressionAt place text = .error .nullInExpression ↔ '\x00' ∈ text := by
  have hnull : '\x00' ∈ (String.ofList (strip text)).toList ↔ '\x00' ∈ text := by
    rw [String.toList_ofList, Text.mem_strip_iff (by decide)]
  rw [← hnull, ← Code.read_eq_nullInCode_iff, ← Expression.ofText_eq_error_iff, expressionAt]
  split
  · next hempty =>
    rw [List.isEmpty_iff] at hempty
    rw [hempty, Expression.ofText_eq_error_iff, Code.read_eq_nullInCode_iff]
    simp [fail]
  · split
    · next h => simp [h]
    · next h => simp [h]
    · next fault hfault h => simpa [h, fail] using hfault

/-! ## Parameter lines -/

theorem clauseExpression_eq_null_iff {place : Position} {clause? : Option Clause} :
    clauseExpression place clause? = .error .nullInExpression ↔
      ∃ clause, clause? = some clause ∧ '\x00' ∈ clause.text := by
  cases clause? with
  | none => simp [clauseExpression]
  | some clause =>
    simp only [clauseExpression, bind_eq_error_iff, expressionAt_eq_null_iff, Option.some.injEq,
      exists_eq_left']
    exact or_iff_left (by rintro ⟨e, -, h⟩; cases h)

/-- Of the expressions in a parameter line, the first that cannot be read has a null character. -/
def ParamLine.MeetsNull (start : Position) (line : ParamLine) : Prop :=
  (∃ clause, line.hint = some clause ∧ '\x00' ∈ clause.text) ∨
    (∃ hint, clauseExpression start line.hint = .ok hint) ∧
      ∃ clause, line.default = some clause ∧ '\x00' ∈ clause.text

/-- A parameter line whose mark stands at `place` has the form of one and a name that can be used, but
meets a null character. -/
def ParamMeetsNull (place : Position) (args : List Char) : Prop :=
  ∃ line, paramLine? args = some line ∧ isUnusableParam (String.ofList line.name) = false ∧
    line.MeetsNull (place.after ('@' :: DirectiveKind.param.word))

theorem readParam_eq_null_iff {place : Position} {args : List Char} :
    readParam place args = .error .nullInExpression ↔ ParamMeetsNull place args := by
  cases hline : paramLine? args with
  | none => simp [readParam, ParamMeetsNull, hline, fail]
  | some line =>
    cases husable : isUnusableParam (String.ofList line.name) with
    | true => simp [readParam, ParamMeetsNull, hline, husable, fail, bind, Except.bind]
    | false =>
      have hread : readParam place args = (do
          let start := place.after ('@' :: DirectiveKind.param.word)
          let hint ← clauseExpression start line.hint
          let default ← clauseExpression start line.default
          return ⟨place, String.ofList line.name, hint, default⟩) := by
        simp only [readParam, hline, husable]
        rfl
      have hlast (p : Param) : (pure p : Checked Param) ≠ .error .nullInExpression := by
        intro h
        cases h
      simp only [hread, bind_eq_error_iff, hlast, and_false, exists_false, or_false,
        clauseExpression_eq_null_iff, exists_and_right]
      simp only [ParamMeetsNull, hline, Option.some.injEq, exists_eq_left', husable, true_and,
        ParamLine.MeetsNull]

/-- What stands in an expression of a parameter line stands in the line. -/
theorem mem_of_paramRest? {name before rest : List Char} {line : ParamLine} {clause : Clause}
    (hline : paramRest? name before rest = some line)
    (hclause : line.hint = some clause ∨ line.default = some clause) {c : Char}
    (hc : c ∈ clause.text) : c ∈ rest := by
  have hdefault {front cs : List Char} (h : defaultClause? front cs = some clause) : c ∈ cs := by
    cases cs with
    | nil => cases h
    | cons d cs =>
      cases h
      exact hc
  have hbehind : ∀ {d : Char} {cs : List Char}, rest.dropWhile isBlank = d :: cs → c ∈ cs →
      c ∈ rest := by
    intro d cs h hcs
    refine (List.dropWhile_sublist isBlank).subset ?_
    rw [h]
    exact List.mem_cons_of_mem d hcs
  unfold paramRest? at hline
  extract_lets gap at hline
  split at hline
  · cases hline
    rcases hclause with h | h <;> cases h
  · next cs hrest =>
    have hhint (h : c ∈ cs.takeWhile (· ≠ '=')) : c ∈ rest :=
      hbehind hrest ((List.takeWhile_sublist _).subset h)
    split at hline
    · dsimp only at hline
      split at hline
      · cases hline
      · cases hline
        rcases hclause with h | h
        · cases h
          exact hhint hc
        · cases h
    · next sign value hvalue =>
      dsimp only at hline
      split at hline
      · cases hline
      · obtain ⟨d, hd, rfl⟩ := Option.map_eq_some_iff.mp hline
        rcases hclause with h | h
        · cases h
          exact hhint hc
        · cases h
          refine hbehind hrest ((List.dropWhile_sublist (· ≠ '=')).subset ?_)
          rw [hvalue]
          exact List.mem_cons_of_mem sign (hdefault hd)
  · next value hrest =>
    obtain ⟨d, hd, rfl⟩ := Option.map_eq_some_iff.mp hline
    rcases hclause with h | h
    · cases h
    · cases h
      exact hbehind hrest (hdefault hd)
  · cases hline

theorem mem_of_paramLine? {args : List Char} {line : ParamLine} {clause : Clause}
    (hline : paramLine? args = some line)
    (hclause : line.hint = some clause ∨ line.default = some clause) {c : Char}
    (hc : c ∈ clause.text) : c ∈ args := by
  unfold paramLine? at hline
  extract_lets gap at hline
  split at hline
  · cases hline
  · next d cs hargs =>
    extract_lets name at hline
    split at hline
    · cases hline
    · refine (List.dropWhile_sublist isBlank).subset ?_
      rw [hargs]
      exact List.mem_cons_of_mem d
        ((List.dropWhile_sublist isWord).subset (mem_of_paramRest? hline hclause hc))

theorem null_mem_of_paramMeetsNull {place : Position} {args : List Char}
    (h : ParamMeetsNull place args) : '\x00' ∈ args := by
  obtain ⟨line, hline, -, ⟨clause, hclause, hnull⟩ | ⟨-, clause, hclause, hnull⟩⟩ := h
  · exact mem_of_paramLine? hline (.inl hclause) hnull
  · exact mem_of_paramLine? hline (.inr hclause) hnull

/-! ## Lexemes -/

namespace Reading

theorem addParam_ne_null (r : Reading) (place : Position) (p : Param) :
    r.addParam place p ≠ .error .nullInExpression := by
  unfold addParam
  split <;> simp [fail]

theorem readDirective_eq_null_iff {r : Reading} {place : Position} {indent args : List Char}
    {kind : DirectiveKind} : r.readDirective place indent args kind = .error .nullInExpression ↔
      kind = .param ∧ ParamMeetsNull (place.after indent) args := by
  cases kind with
  | param =>
    simp [readDirective, bind_eq_error_iff, readParam_eq_null_iff, addParam_ne_null]
  | module =>
    refine iff_of_false (fun h => ?_) (by simp)
    rcases bind_eq_error_iff.mp h with h | ⟨u, -, h⟩
    · unfold readUsing at h
      split at h <;> cases h
    · cases h

theorem readDeclaration_eq_null_iff {r : Reading} {place : Position} {l : Lexeme} :
    r.readDeclaration place l = .error .nullInExpression ↔
      ∃ indent args ended, l = .directive indent .param args ended ∧
        ParamMeetsNull (place.after indent) args := by
  cases l with
  | directive indent kind args ended =>
    rw [readDeclaration, readDirective_eq_null_iff]
    constructor
    · rintro ⟨rfl, hnull⟩
      exact ⟨indent, args, ended, rfl, hnull⟩
    · rintro ⟨_, _, _, h, hnull⟩
      cases h
      exact ⟨rfl, hnull⟩
  | _ => simp [readDeclaration]

/-- Reading fails as the first lexeme fails that is refused. -/
theorem readAll_eq_error_iff {step : Reading → Position → Lexeme → Checked Reading} {o : Objection}
    (ls : List Lexeme) : ∀ (place : Position) (r : Reading), readAll step place r ls = .error o ↔
      ∃ before l others s, ls = before ++ l :: others ∧ readAll step place r before = .ok s ∧
        step s (place.after (before.flatMap Lexeme.chars)) l = .error o := by
  induction ls with
  | nil => simp [readAll]
  | cons l ls ih =>
    intro place r
    rw [readAll, bind_eq_error_iff]
    constructor
    · rintro (h | ⟨next, hnext, h⟩)
      · exact ⟨[], l, ls, r, rfl, rfl, h⟩
      · obtain ⟨before, m, others, s, rfl, hs, hm⟩ := (ih _ _).mp h
        refine ⟨l :: before, m, others, s, rfl, bind_eq_ok_iff.mpr ⟨next, hnext, hs⟩, ?_⟩
        rw [List.flatMap_cons, Position.after_append]
        exact hm
    · rintro ⟨before, m, others, s, hls, hs, hm⟩
      cases before with
      | nil =>
        cases hls
        cases hs
        exact .inl hm
      | cons first before =>
        cases hls
        obtain ⟨next, hnext, hs⟩ := bind_eq_ok_iff.mp hs
        rw [List.flatMap_cons, Position.after_append] at hm
        exact .inr ⟨next, hnext, (ih _ _).mpr ⟨before, m, others, s, rfl, hs, hm⟩⟩

end Reading

/-! ## Markup -/

theorem null_mem_of_wholeExpression? {cs inner : List Char} (h : wholeExpression? cs = some inner)
    (hnull : '\x00' ∈ inner) : '\x00' ∈ cs := by
  obtain ⟨rest, hrest, h⟩ := Option.bind_eq_some_iff.mp h
  dsimp only at h
  split at h
  · cases h
    rw [← Text.mem_strip_iff (by decide), ← Text.behind?_eq_some hrest]
    exact List.mem_append_right _ ((List.take_sublist _ _).subset hnull)
  · cases h

theorem null_mem_of_attributeValue {place : Position} {name : String} {value : Option QuotedValue}
    (h : attributeValue place name value = .error .nullInExpression) :
    ∃ v, value = some v ∧ '\x00' ∈ v.text := by
  cases value with
  | none => cases h
  | some v =>
    refine ⟨v, rfl, ?_⟩
    rw [attributeValue] at h
    split at h
    · next inner hinner =>
      rcases bind_eq_error_iff.mp h with h | ⟨e, -, h⟩
      · exact null_mem_of_wholeExpression? hinner (expressionAt_eq_null_iff.mp h)
      · cases h
    · split at h <;> cases h

theorem null_mem_of_readAttributes (as : List AttributeText) : ∀ (place : Position)
    (seen : List String), readAttributes place seen as = .error .nullInExpression →
      ∃ a ∈ as, '\x00' ∈ a.chars := by
  induction as with
  | nil =>
    intro place seen h
    cases h
  | cons a as ih =>
    intro place seen h
    rw [readAttributes] at h
    dsimp only at h
    split at h
    · cases h
    · rcases bind_eq_error_iff.mp h with h | ⟨value, -, h⟩
      · obtain ⟨v, hv, hnull⟩ := null_mem_of_attributeValue h
        refine ⟨a, List.mem_cons_self, ?_⟩
        simp [AttributeText.chars, hv, QuotedValue.chars, hnull]
      · rcases bind_eq_error_iff.mp h with h | ⟨rest, -, h⟩
        · obtain ⟨b, hb, hnull⟩ := ih _ _ h
          exact ⟨b, List.mem_cons_of_mem a hb, hnull⟩
        · cases h

namespace Reading

theorem null_mem_of_openElement {r : Reading} {place : Position} {tag : List Char}
    {attributes : List AttributeText} {slash : Bool}
    (h : r.openElement place tag attributes slash = .error .nullInExpression) :
    '\x00' ∈ attributeChars attributes := by
  unfold openElement at h
  extract_lets name at h
  rcases bind_eq_error_iff.mp h with h | ⟨read, -, h⟩
  · obtain ⟨a, ha, hnull⟩ := null_mem_of_readAttributes _ _ _ h
    exact mem_of_mem_findAttributes ha hnull
  · dsimp only at h
    split at h
    · cases h
    · split at h
      · cases h
      · split at h <;> cases h

/-- A lexeme in which an expression meets a null character has one. -/
theorem null_mem_of_read {r : Reading} {place : Position} {l : Lexeme}
    (h : r.read place l = .error .nullInExpression) : '\x00' ∈ l.chars := by
  cases l with
  | text cs =>
    change r.readText place cs = _ at h
    unfold readText at h
    split at h <;> cases h
  | directive indent kind args ended =>
    obtain ⟨-, hnull⟩ := readDirective_eq_null_iff.mp h
    simp [Lexeme.chars, null_mem_of_paramMeetsNull hnull]
  | comment body => cases h
  | output body =>
    rcases bind_eq_error_iff.mp h with h | ⟨e, -, h⟩
    · simp [Lexeme.chars, expressionAt_eq_null_iff.mp h]
    · cases h
  | closeTag name blanks =>
    change r.closeElement place name = _ at h
    unfold closeElement at h
    extract_lets tag at h
    split at h
    · cases h
    · split at h <;> cases h
  | openTag name attributes blanks slash =>
    have hnull := null_mem_of_openElement h
    simp [Lexeme.chars, hnull]

end Reading

theorem null_mem_of_ofChars {cs : List Char} (h : ofChars cs = .error .nullInExpression) :
    '\x00' ∈ cs := by
  rcases bind_eq_error_iff.mp h with h | ⟨r, -, h⟩
  · obtain ⟨before, l, others, s, hls, -, hl⟩ := (Reading.readAll_eq_error_iff _ _ _).mp h
    exact mem_of_mem_lexemes (hls ▸ List.mem_append_right before List.mem_cons_self)
      (Reading.null_mem_of_read hl)
  · unfold Reading.finish at h
    split at h <;> cases h

/-! ## Declarations -/

/-- All lines before are read, and then a parameter line meets a null character. -/
def MeetsNull (cs : List Char) : Prop :=
  ∃ before indent args ended others r,
    lexemes cs = before ++ .directive indent .param args ended :: others ∧
    Reading.readAll Reading.readDeclaration .start .empty before = .ok r ∧
    ParamMeetsNull ((Position.start.after (before.flatMap Lexeme.chars)).after indent) args

theorem declarationsOfChars_eq_null_iff {cs : List Char} :
    declarationsOfChars cs = .error .nullInExpression ↔ MeetsNull cs := by
  have hlast (r : Reading) : (pure ⟨r.params, r.usings, []⟩ : Checked Template) ≠
      .error .nullInExpression := by
    intro h
    cases h
  rw [declarationsOfChars, bind_eq_error_iff]
  simp only [hlast, and_false, exists_false, or_false, Reading.readAll_eq_error_iff,
    Reading.readDeclaration_eq_null_iff]
  constructor
  · rintro ⟨before, l, others, r, hls, hr, indent, args, ended, rfl, hnull⟩
    exact ⟨before, indent, args, ended, others, r, hls, hr, hnull⟩
  · rintro ⟨before, indent, args, ended, others, r, hls, hr, hnull⟩
    exact ⟨before, _, others, r, hls, hr, indent, args, ended, rfl, hnull⟩

theorem null_mem_of_meetsNull {cs : List Char} (h : MeetsNull cs) : '\x00' ∈ cs := by
  obtain ⟨before, indent, args, ended, others, r, hls, -, hnull⟩ := h
  refine mem_of_mem_lexemes (hls ▸ List.mem_append_right before List.mem_cons_self) ?_
  simp [Lexeme.chars, null_mem_of_paramMeetsNull hnull]

end Template

namespace Component

/-- The extraction of a shape gives the shape of what the text declares, or fails for the path and
with a reason, or else refuses a null character in an expression. It does the last exactly when the
first line that is refused is a parameter line that meets a null character, so for no text without
one. Here the reader of expressions has no limits: a host that gives up on one that is nested too
deeply has a further outcome. -/
theorem extract_outcomes (path content : String) :
    ((∃ t, Template.declarationsOfChars content.toList = .ok t ∧
        Shape.extract path content = .ok (.ofTemplate t path)) ∨
      (∃ reason, Shape.extract path content = .error (.declaration path reason)) ∨
      Shape.extract path content = .error (.host .nullInCode)) ∧
    (Shape.extract path content = .error (.host .nullInCode) ↔
      Template.MeetsNull content.toList) ∧
    ('\x00' ∉ content.toList → Shape.extract path content ≠ .error (.host .nullInCode)) := by
  have hmeets : Shape.extract path content = .error (.host .nullInCode) ↔
      Template.MeetsNull content.toList := by
    rw [← Template.declarationsOfChars_eq_null_iff, Shape.extract]
    cases Template.declarationsOfChars content.toList with
    | ok t => simp
    | error o => cases o <;> simp [ofObjection]
  refine ⟨?_, hmeets, fun hfree h => hfree (Template.null_mem_of_meetsNull (hmeets.mp h))⟩
  unfold Shape.extract
  cases Template.declarationsOfChars content.toList with
  | ok t => exact .inl ⟨t, rfl, rfl⟩
  | error o =>
    cases o with
    | problem place what => exact .inr (.inl ⟨_, rfl⟩)
    | nullInExpression => exact .inr (.inr rfl)

/-- The extraction of a shape may fail with the refusal of a null character, which names no path. -/
theorem extract_not_declaration_only :
    ¬ ∀ path content : String, (∃ shape, Shape.extract path content = .ok shape) ∨
      ∃ reason, Shape.extract path content = .error (.declaration path reason) := by
  intro hclaim
  have hnull : (match Template.declarationsOfChars "@param x = \x00".toList with
      | .error .nullInExpression => true
      | _ => false) = true := by
    decide +kernel
  have hextract : Shape.extract "Card.tpl" "@param x = \x00" = .error (.host .nullInCode) := by
    unfold Shape.extract
    split at hnull
    · next h => rw [h]; rfl
    · cases hnull
  rcases hclaim "Card.tpl" "@param x = \x00" with ⟨shape, h⟩ | ⟨reason, h⟩
  · rw [hextract] at h
    cases h
  · rw [hextract] at h
    cases h

end Component

end LivePreview
