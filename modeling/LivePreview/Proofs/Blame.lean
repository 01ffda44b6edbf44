import LivePreview.Proofs.Division
import LivePreview.Proofs.Objections
import LivePreview.Proofs.Places

/-!
# Where objections stand

An objection to a template text has the place of an offset at which the text shows what the objection
is about: the mark of a directive, the name of an attribute or component, the brackets of a tag, or
the expression itself. This is so whether the whole template is read or its declarations alone. An
element that is left open is blamed where it was opened, far from the end of the text.
-/

namespace LivePreview

namespace Template

open Text (isBlank strip)

/-! ## What is seen of a problem -/

/-- What is wrong with the text of an expression. -/
inductive Objects (text : List Char) : Problem → Prop
  | empty : strip text = [] → Objects text .emptyExpression
  | invalid : strip text ≠ [] → Objects text (.invalidExpression (String.ofList (strip text)))

/-- What is seen where a problem stands. An expression is seen from behind the marks of its output,
or from its first character in a parameter line, or else the name of its attribute is. -/
inductive Problem.Sees : Problem → List Char → Prop
  | output {text : List Char} {what : Problem} : Objects text what →
      Sees what (text ++ ['\x7d', '\x7d'])
  | clause {c : Clause} {what : Problem} : Objects c.text what →
      Sees what (c.text.drop c.lead.length)
  | attribute {name text : List Char} {what : Problem} : Objects text what → Sees what name
  | unclosedExpression : Sees .unclosedExpression ['\x7b', '\x7b']
  | moduleExpected : Sees .moduleExpected ('@' :: DirectiveKind.module.word)
  | parameterExpected : Sees .parameterExpected ('@' :: DirectiveKind.param.word)
  | unusableParameter {name : String} :
      Sees (.unusableParameter name) ('@' :: DirectiveKind.param.word)
  | duplicateParameter {name : String} : Sees (.duplicateParameter name) DirectiveKind.param.word
  | duplicateAttribute {name : List Char} : Sees (.duplicateAttribute (String.ofList name)) name
  | mixedAttribute {name : List Char} : Sees (.mixedAttribute (String.ofList name)) name
  | invalidComponentName {name : List Char} : Sees (.invalidComponentName (String.ofList name)) name
  | unexpectedClosing {tag : List Char} :
      Sees (.unexpectedClosing (String.ofList tag)) ('<' :: '/' :: tag)
  | mismatchedClosing {tag : List Char} {expected : String} :
      Sees (.mismatchedClosing (String.ofList tag) expected) ('<' :: '/' :: tag)
  | unclosedElement {tag : String} : Sees (.unclosedElement tag) ('<' :: tag.toList)

/-- The source shows at the place what the problem is about. -/
def Blamed (cs : List Char) (place : Position) (what : Problem) : Prop :=
  ∃ k shown, what.Sees shown ∧ Shows cs k ⟨place, shown⟩

theorem blamed_of_split {cs before shown : List Char} {what : Problem} (behind : List Char)
    (hsees : what.Sees shown) (hshown : shown ≠ []) (hcs : cs = before ++ (shown ++ behind)) :
    Blamed cs (Position.start.after before) what :=
  ⟨before.length, shown, hsees, hcs ▸ shows_of_split before behind hshown⟩

/-! ## Expressions -/

theorem objects_of_expressionAt {place here : Position} {text : List Char} {what : Problem}
    (h : expressionAt here text = .error (.problem place what)) :
    place = here ∧ Objects text what := by
  unfold expressionAt at h
  extract_lets source at h
  split at h
  · next hempty =>
    cases h
    exact ⟨rfl, .empty (List.isEmpty_iff.mp hempty)⟩
  · next hne =>
    split at h
    · cases h
    · cases h
    · cases h
      exact ⟨rfl, .invalid fun hempty => hne (List.isEmpty_iff.mpr hempty)⟩

/-- What is wrong with a value is seen at the name of its attribute. -/
theorem sees_of_attributeValue {place here : Position} {name : List Char} {v : Option QuotedValue}
    {what : Problem}
    (h : attributeValue here (String.ofList name) v = .error (.problem place what)) :
    place = here ∧ what.Sees name := by
  unfold attributeValue at h
  split at h
  · cases h
  · split at h
    · rcases bind_eq_error_iff.mp h with h | ⟨e, -, h⟩
      · obtain ⟨rfl, hobjects⟩ := objects_of_expressionAt h
        exact ⟨rfl, .attribute hobjects⟩
      · cases h
    · split at h
      · cases h
        exact ⟨rfl, .mixedAttribute⟩
      · cases h

theorem Clause.lead_prefix (c : Clause) : c.lead <+: c.text := by
  unfold Clause.lead
  split
  · exact List.dropLast_prefix _
  · exact List.takeWhile_prefix _

/-- Where a clause begins, there is something of it. -/
theorem Clause.drop_lead_ne_nil {c : Clause} (h : c.text ≠ []) : c.text.drop c.lead.length ≠ [] := by
  unfold Clause.lead
  have hlength := List.length_pos_iff.mpr h
  split
  · rw [← List.length_pos_iff, List.length_drop, List.length_dropLast]
    omega
  · next hall =>
    intro hnil
    have hprefix := List.takeWhile_prefix isBlank (l := c.text)
    have hsame := hprefix.eq_of_length
      (Nat.le_antisymm hprefix.length_le (List.drop_eq_nil_iff.mp hnil))
    exact hall (List.all_eq_true.mpr fun d hd =>
      forall_mem_takeWhile c.text d (by rwa [hsame]))

theorem ParamLine.Divides.clause_split {name before rest : List Char} {line : ParamLine}
    (h : line.Divides name before rest) {c : Clause}
    (hc : line.hint = some c ∨ line.default = some c) :
    c.text ≠ [] ∧ ∃ behind, before ++ rest = c.before ++ (c.text ++ behind) := by
  cases h with
  | name _ => rcases hc with hc | hc <;> cases hc
  | hint _ hne _ =>
    rcases hc with hc | hc <;> cases hc
    exact ⟨hne, [], by simp⟩
  | default _ hne =>
    rcases hc with hc | hc <;> cases hc
    exact ⟨hne, [], by simp⟩
  | @both gap hint value _ hhint _ hvalue =>
    rcases hc with hc | hc <;> cases hc
    · exact ⟨hhint, '=' :: value, by simp⟩
    · exact ⟨hvalue, [], by simp⟩

theorem clause_split_of_paramLine? {args : List Char} {line : ParamLine}
    (h : paramLine? args = some line) {c : Clause}
    (hc : line.hint = some c ∨ line.default = some c) :
    c.text ≠ [] ∧ ∃ behind, args = c.before ++ (c.text ++ behind) := by
  obtain ⟨gap, d, word, rest, rfl, -, -, -, -, hdivides⟩ := divides_of_paramLine? h
  obtain ⟨hne, behind, hsplit⟩ := hdivides.clause_split hc
  exact ⟨hne, behind, by rw [← hsplit, List.append_assoc]⟩

/-! ## Parts of lexemes -/

section Lexemes

variable {cs before behind : List Char} {place : Position} {what : Problem}

/-- An objection to a clause stands where the clause begins. -/
theorem blamed_of_clause {front : List Char} {c : Clause} (after : List Char) (hne : c.text ≠ [])
    (hcs : cs = front ++ (c.before ++ (c.text ++ after)))
    (h : clauseExpression (Position.start.after front) (some c) = .error (.problem place what)) :
    Blamed cs place what := by
  have herror : expressionAt (c.start (Position.start.after front)) c.text =
      .error (.problem place what) := by
    rcases bind_eq_error_iff.mp h with h | ⟨e, -, h⟩
    · exact h
    · cases h
  obtain ⟨rfl, hobjects⟩ := objects_of_expressionAt herror
  have hlead : c.text = c.lead ++ c.text.drop c.lead.length :=
    List.prefix_iff_eq_append.mp c.lead_prefix |>.symm
  rw [Clause.start, ← Position.after_append]
  refine blamed_of_split after (.clause hobjects) (Clause.drop_lead_ne_nil hne) ?_
  rw [hcs]
  conv => lhs; rw [hlead]
  simp only [List.append_assoc]

theorem blamed_of_param {front args : List Char}
    (hcs : cs = front ++ ('@' :: DirectiveKind.param.word ++ (args ++ behind)))
    (h : readParam (Position.start.after front) args = .error (.problem place what)) :
    Blamed cs place what := by
  have hmark (hsees : what.Sees ('@' :: DirectiveKind.param.word)) :
      Blamed cs (Position.start.after front) what :=
    blamed_of_split _ hsees (List.cons_ne_nil _ _) hcs
  have hclause {clause : Option Clause} {line : ParamLine} (hline : paramLine? args = some line)
      (hc : line.hint = clause ∨ line.default = clause)
      (h : clauseExpression ((Position.start.after front).after ('@' :: DirectiveKind.param.word))
        clause = .error (.problem place what)) : Blamed cs place what := by
    cases clause with
    | none => cases h
    | some c =>
      obtain ⟨hne, after, hargs⟩ := clause_split_of_paramLine? hline hc
      rw [← Position.after_append] at h
      refine blamed_of_clause (after ++ behind) hne ?_ h
      rw [hcs, hargs]
      simp only [List.append_assoc]
  unfold readParam at h
  split at h
  · cases h
    exact hmark .parameterExpected
  · next line hline =>
    extract_lets name at h
    split at h
    · cases h
      exact hmark .unusableParameter
    · rcases bind_eq_error_iff.mp h with h | ⟨hint, -, h⟩
      · exact hclause hline (.inl rfl) h
      · rcases bind_eq_error_iff.mp h with h | ⟨default, -, h⟩
        · exact hclause hline (.inr rfl) h
        · cases h

/-- An objection to an attribute stands at its name. -/
theorem blamed_of_readAttributes {as : List AttributeText} (has : ∀ a ∈ as, a.Proper) :
    ∀ {front : List Char} {seen : List String}, cs = front ++ (attributeChars as ++ behind) →
      readAttributes (Position.start.after front) seen as = .error (.problem place what) →
        Blamed cs place what := by
  induction as with
  | nil =>
    intro front seen _ h
    cases h
  | cons a as ih =>
    intro front seen hcs h
    obtain ⟨ha, has⟩ := List.forall_mem_cons.mp has
    have hname (hsees : what.Sees a.name) :
        Blamed cs ((Position.start.after front).after a.gap) what := by
      rw [← Position.after_append]
      refine blamed_of_split (a.valueChars ++ (attributeChars as ++ behind)) hsees ha.named ?_
      rw [hcs, attributeChars_cons]
      simp only [List.append_assoc]
    rw [readAttributes] at h
    dsimp only at h
    split at h
    · cases h
      exact hname .duplicateAttribute
    · rcases bind_eq_error_iff.mp h with h | ⟨value, -, h⟩
      · obtain ⟨rfl, hsees⟩ := sees_of_attributeValue h
        exact hname hsees
      · rcases bind_eq_error_iff.mp h with h | ⟨rest, -, h⟩
        · rw [← Position.after_append] at h
          refine ih has ?_ h
          rw [hcs, attributeChars, List.flatMap_cons, attributeChars]
          simp only [List.append_assoc]
        · cases h

/-! ## Lexemes by themselves -/

theorem blamed_of_text {ds : List Char}
    (hcs : cs = before ++ ((Lexeme.text ds).chars ++ behind))
    (h : (Lexeme.text ds).effect (Position.start.after before) = .error (.problem place what)) :
    Blamed cs place what := by
  rw [Lexeme.effect] at h
  split at h
  · next front rest hcut =>
    cases h
    rw [← Position.after_append]
    refine blamed_of_split (rest ++ behind) .unclosedExpression (by simp) ?_
    rw [hcs, Lexeme.chars, ← Text.cut?_eq_some hcut]
    simp only [List.append_assoc]
  · cases h

theorem blamed_of_directive {indent args : List Char} {kind : DirectiveKind} {ended : Bool}
    (hcs : cs = before ++ ((Lexeme.directive indent kind args ended).chars ++ behind))
    (h : (Lexeme.directive indent kind args ended).effect (Position.start.after before) =
      .error (.problem place what)) : Blamed cs place what := by
  have hsplit : cs = (before ++ indent) ++ ('@' :: kind.word ++
      (args ++ ((if ended then ['\n'] else []) ++ behind))) := by
    rw [hcs, Lexeme.chars]
    simp
  cases kind with
  | param =>
    rw [Lexeme.effect, ← Position.after_append] at h
    cases hread : readParam (Position.start.after (before ++ indent)) args with
    | ok p =>
      rw [hread] at h
      cases h
    | error o =>
      rw [hread] at h
      cases h
      exact blamed_of_param hsplit hread
  | module =>
    rw [Lexeme.effect, ← Position.after_append, readUsing] at h
    split at h
    · cases h
      exact blamed_of_split _ .moduleExpected (List.cons_ne_nil _ _) hsplit
    · cases h

theorem blamed_of_output {body : List Char}
    (hcs : cs = before ++ ((Lexeme.output body).chars ++ behind))
    (h : (Lexeme.output body).effect (Position.start.after before) = .error (.problem place what)) :
    Blamed cs place what := by
  rw [Lexeme.effect, ← Position.after_append] at h
  cases hread : expressionAt (Position.start.after (before ++ ['\x7b', '\x7b'])) body with
  | ok e =>
    rw [hread] at h
    cases h
  | error o =>
    rw [hread] at h
    cases h
    obtain ⟨rfl, hobjects⟩ := objects_of_expressionAt hread
    refine blamed_of_split behind (.output hobjects) (by simp) ?_
    rw [hcs, Lexeme.chars]
    simp only [List.append_assoc]

/-- A tag is blamed for an attribute first, and then for its name. -/
theorem blamed_of_openTag {tag blanks : List Char} {attributes : List AttributeText} {slash : Bool}
    (hl : (Lexeme.openTag tag attributes blanks slash).Proper)
    (hcs : cs = before ++ ((Lexeme.openTag tag attributes blanks slash).chars ++ behind))
    (h : (Lexeme.openTag tag attributes blanks slash).effect (Position.start.after before) =
      .error (.problem place what)) : Blamed cs place what := by
  have hsplit : cs = (before ++ '<' :: tag) ++ (attributeChars attributes ++
      (blanks ++ (tagEndChars slash ++ behind))) := by
    rw [hcs]
    simp [Lexeme.chars, tagEndChars]
  rw [Lexeme.effect] at h
  rcases bind_eq_error_iff.mp h with h | ⟨read, -, h⟩
  · rw [findAttributes_attributeChars hl, ← Position.after_append] at h
    exact blamed_of_readAttributes hl hsplit h
  · dsimp only at h
    split at h
    · next hcomponent =>
      cases h
      have hne : tag ≠ [] := by
        rintro rfl
        exact absurd hcomponent (by decide)
      rw [← Position.after_append]
      refine blamed_of_split
        (attributeChars attributes ++ (blanks ++ (tagEndChars slash ++ behind)))
        .invalidComponentName hne ?_
      rw [hsplit]
      simp
    · cases h

/-- What a lexeme is refused for by itself is seen in the lexeme. -/
theorem blamed_of_effect {l : Lexeme} (hl : l.Proper) (hcs : cs = before ++ (l.chars ++ behind))
    (h : l.effect (Position.start.after before) = .error (.problem place what)) :
    Blamed cs place what := by
  cases l with
  | text ds => exact blamed_of_text hcs h
  | directive indent kind args ended => exact blamed_of_directive hcs h
  | comment body => cases h
  | output body => exact blamed_of_output hcs h
  | closeTag tag blanks => cases h
  | openTag tag attributes blanks slash => exact blamed_of_openTag hl hcs h

/-! ## Lexemes after others -/

/-- What a lexeme is refused for after others is seen in it, too. -/
theorem blamed_of_read {r : Reading} {l : Lexeme} (hl : l.Proper)
    (hcs : cs = before ++ (l.chars ++ behind))
    (h : r.read (Position.start.after before) l = .error (.problem place what)) :
    Blamed cs place what := by
  rw [Reading.read_eq] at h
  rcases bind_eq_error_iff.mp h with h | ⟨e, he, h⟩
  · exact blamed_of_effect hl hcs h
  · cases yields_of_effect he with
    | @param indent args ended p hread =>
      rw [Reading.perform, Reading.addParam] at h
      split at h
      · cases h
        rw [place_of_readParam hread, ← Position.after_append, ← Position.after_append]
        refine blamed_of_split (args ++ ((if ended then ['\n'] else []) ++ behind))
          .duplicateParameter (by decide) ?_
        rw [hcs, Lexeme.chars]
        simp
      · cases h
    | @closeTag tag blanks =>
      have hsplit : cs = before ++ (('<' :: '/' :: tag) ++ (blanks ++ ('>' :: behind))) := by
        rw [hcs, Lexeme.chars]
        simp
      rw [Reading.perform] at h
      split at h
      · cases h
        exact blamed_of_split _ .unexpectedClosing (List.cons_ne_nil _ _) hsplit
      · split at h
        · cases h
        · cases h
          exact blamed_of_split _ .mismatchedClosing (List.cons_ne_nil _ _) hsplit
    | @openTag tag _ _ slash _ _ _ =>
      unfold tagEffect at h
      split at h <;> cases h
    | _ => cases h

end Lexemes

/-! ## Whole texts -/

namespace Reading

theorem read_of_readDeclaration {r : Reading} {place : Position} {l : Lexeme} {o : Objection}
    (h : r.readDeclaration place l = .error o) : r.read place l = .error o := by
  cases l with
  | directive indent kind args ended => exact h
  | _ => cases h

/-- A refused lexeme is blamed for something that is seen in the text. -/
theorem blamed_of_readAll {step : Reading → Position → Lexeme → Checked Reading}
    (hstep : ∀ {r place l o}, step r place l = .error o → r.read place l = .error o)
    {cs : List Char} {place : Position} {what : Problem}
    (h : readAll step .start .empty (lexemes cs) = .error (.problem place what)) :
    Blamed cs place what := by
  obtain ⟨before, l, others, r, hls, -, hl⟩ := (readAll_eq_error_iff _ _ _).mp h
  have hcs : cs = before.flatMap Lexeme.chars ++ (l.chars ++ others.flatMap Lexeme.chars) := by
    rw [← List.flatMap_cons, ← List.flatMap_append, ← hls, flatMap_chars_lexemes]
  exact blamed_of_read (proper_lexemes cs l (hls ▸ List.mem_append_right _ List.mem_cons_self)) hcs
    (hstep hl)

/-- All that a walk over what was read meets is seen in the text. -/
theorem exists_shows_of_visits {cs : List Char} {r : Reading}
    (h : readAll read .start .empty (lexemes cs) = .ok r) :
    ∀ s ∈ r.visits.flatMap Visit.sights, ∃ k, Shows cs k s := by
  obtain ⟨es, hes⟩ := exists_effects_of_readAll h
  rw [readAll_of_effects .empty hes] at h
  have hcs : cs = [] ++ (lexemes cs).flatMap Lexeme.chars := (flatMap_chars_lexemes cs).symm
  have hsublist := sights_foldl_join (shown_of_effects hes) Visit.neat_nil
  rw [List.flatMap_nil, List.nil_append, List.flatMap_assoc] at hsublist
  obtain ⟨offsets, hmap, -, hshows⟩ := ascends_effects (f := fun e => e.visits.flatMap Visit.sights)
    (fun l hl _ _ _ => ascends_of_effect (proper_lexemes _ l hl)
      (chars_ne_nil_of_mem_lexemes _ l hl)) hcs hes
  intro s hs
  rw [visits_foldlM h] at hs
  obtain ⟨x, hx, rfl⟩ := List.mem_map.mp (hmap ▸ hsublist.subset hs)
  exact ⟨x.1, (hshows x hx).2.2⟩

/-- An element that is open was opened where its tag is seen. -/
theorem blamed_of_finish {cs : List Char} {r : Reading}
    (h : readAll read .start .empty (lexemes cs) = .ok r) {place : Position} {what : Problem}
    (hfinish : r.finish = .error (.problem place what)) : Blamed cs place what := by
  unfold finish at hfinish
  split at hfinish
  · cases hfinish
  · next frame frames hframes =>
    cases hfinish
    have hsight : ⟨frame.place, '<' :: frame.name.toList⟩ ∈ r.visits.flatMap Visit.sights := by
      have hframe : frame ∈ r.frames.reverse := by simp [hframes]
      refine List.mem_flatMap.mpr ⟨.enter frame.place frame.name frame.attributes .paired, ?_,
        List.mem_cons_self⟩
      exact List.mem_append_right _
        (List.mem_flatMap.mpr ⟨frame, hframe, List.mem_cons_self⟩)
    obtain ⟨k, hk⟩ := exists_shows_of_visits h _ hsight
    exact ⟨k, _, .unclosedElement, hk⟩

end Reading

variable {cs : List Char} {place : Position} {what : Problem}

/-- Where a template is not read, the text shows what is wrong with it. -/
theorem blamed_of_ofChars (h : ofChars cs = .error (.problem place what)) :
    Blamed cs place what := by
  rcases bind_eq_error_iff.mp h with h | ⟨r, hr, h⟩
  · exact Reading.blamed_of_readAll (fun h => h) h
  · exact Reading.blamed_of_finish hr h

/-- Where the declarations are not read, the text shows what is wrong with it. -/
theorem blamed_of_declarationsOfChars (h : declarationsOfChars cs = .error (.problem place what)) :
    Blamed cs place what := by
  rcases bind_eq_error_iff.mp h with h | ⟨r, -, h⟩
  · exact Reading.blamed_of_readAll Reading.read_of_readDeclaration h
  · cases h

end Template

end LivePreview
