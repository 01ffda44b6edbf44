import LivePreview.Proofs.Lexemes
import LivePreview.Proofs.Steps

/-!
# Attributes of a tag

The attributes of an opening tag are read twice: by the lexer, which has to find the end of the tag,
and by the reader of the tag, which looks for names in the text between. Both find the same, as each
attribute that the lexer takes begins with a blank, and no blank or equals sign is part of a name.
So the attributes of a tag can be read when each name comes once and each value is text or an
expression.
-/

namespace LivePreview

open Text (isBlank strip)

namespace Text

theorem notMem_of_cut? {q : Char} {before behind : List Char} : ∀ {cs : List Char},
    cut? [q] cs = some (before, behind) → q ∉ before := by
  intro cs
  induction cs generalizing before with
  | nil => nofun
  | cons c cs ih =>
    intro h
    rw [cut?] at h
    split at h
    · cases h
      exact List.not_mem_nil
    · next hmark =>
      obtain ⟨⟨first, rest⟩, hcut, heq⟩ := Option.map_eq_some_iff.mp h
      cases heq
      have hne : q ≠ c := fun hq => hmark (by simp [hq])
      exact List.not_mem_cons_of_ne_of_not_mem hne (ih hcut)

theorem cut?_of_notMem {q : Char} (behind : List Char) : ∀ {before : List Char}, q ∉ before →
    cut? [q] (before ++ q :: behind) = some (before, behind) := by
  intro before
  induction before with
  | nil => intro _; simp [cut?]
  | cons c cs ih =>
    intro h
    rw [List.mem_cons, not_or] at h
    obtain ⟨hne, hcs⟩ := h
    have hmark : ¬ [q].isPrefixOf (c :: (cs ++ q :: behind)) = true := by simp [hne]
    rw [List.cons_append, cut?, if_neg hmark, ih hcs]
    rfl

end Text

namespace Template

/-! ## What the lexer takes for attributes -/

structure QuotedValue.Proper (v : QuotedValue) : Prop where
  before : ∀ c ∈ v.before, isBlank c = true
  behind : ∀ c ∈ v.behind, isBlank c = true
  quote : v.quote = '"' ∨ v.quote = '\''
  text : v.quote ∉ v.text

structure AttributeText.Proper (a : AttributeText) : Prop where
  gap : ∀ c ∈ a.gap, isBlank c = true
  apart : a.gap ≠ []
  name : ∀ c ∈ a.name, isAttributeChar c = true
  named : a.name ≠ []
  value : ∀ v, a.value = some v → v.Proper

theorem forall_mem_takeWhile {p : Char → Bool} (cs : List Char) :
    ∀ c ∈ cs.takeWhile p, p c = true :=
  List.all_eq_true.mp List.all_takeWhile

theorem proper_quotedValue? {cs rest : List Char} {v : QuotedValue}
    (h : quotedValue? cs = some (v, rest)) : v.Proper := by
  obtain ⟨afterSign, -, h⟩ := Option.bind_eq_some_iff.mp h
  split at h
  · cases h
  · next quote quoted hquote =>
    split at h
    · next hmark =>
      obtain ⟨⟨text, behind⟩, hcut, h⟩ := Option.bind_eq_some_iff.mp h
      cases h
      refine ⟨forall_mem_takeWhile _, forall_mem_takeWhile _, ?_, Text.notMem_of_cut? hcut⟩
      simpa using hmark
    · cases h

theorem proper_attributeText? {cs rest : List Char} {a : AttributeText}
    (h : attributeText? cs = some (a, rest)) : a.Proper := by
  unfold attributeText? at h
  extract_lets trimmed name behind at h
  split at h
  · cases h
  · next hparts =>
    obtain ⟨hgap, hname⟩ : cs.takeWhile isBlank ≠ [] ∧ name ≠ [] := by
      simpa [not_or] using hparts
    split at h
    · next value rest' hvalue =>
      obtain ⟨rfl, -⟩ := Prod.mk.inj (Option.some.inj h)
      refine ⟨forall_mem_takeWhile _, hgap, forall_mem_takeWhile _, hname, fun v hv => ?_⟩
      cases hv
      exact proper_quotedValue? hvalue
    · obtain ⟨rfl, -⟩ := Prod.mk.inj (Option.some.inj h)
      exact ⟨forall_mem_takeWhile _, hgap, forall_mem_takeWhile _, hname, nofun⟩

theorem proper_attributeTexts (rounds : Nat) : ∀ {cs rest : List Char} {as : List AttributeText},
    attributeTexts rounds cs = (as, rest) → ∀ a ∈ as, a.Proper := by
  induction rounds with
  | zero =>
    intro cs rest as h
    cases h
    exact fun a ha => absurd ha List.not_mem_nil
  | succ rounds ih =>
    intro cs rest as h
    unfold attributeTexts at h
    split at h
    · cases h
      exact fun a ha => absurd ha List.not_mem_nil
    · next a behind hfirst =>
      obtain ⟨rfl, -⟩ := Prod.mk.inj h
      exact List.forall_mem_cons.mpr ⟨proper_attributeText? hfirst, ih rfl⟩

/-- The attributes of an opening tag are as the lexer takes them. -/
def Lexeme.Proper : Lexeme → Prop
  | .openTag _ attributes _ _ => ∀ a ∈ attributes, a.Proper
  | _ => True

theorem proper_lexemes (cs : List Char) : ∀ l ∈ lexemes cs, l.Proper := by
  refine forall_mem_lexemes (fun _ _ => trivial) (fun lineStart cs l rest h => ?_) cs
  cases l with
  | openTag tag attributes blanks slash =>
    obtain ⟨inner, -, h⟩ := Option.bind_eq_some_iff.mp (openTag?_of_lexeme? h)
    obtain ⟨⟨name, afterName⟩, -, h⟩ := Option.bind_eq_some_iff.mp h
    obtain ⟨⟨slash, behind⟩, -, h⟩ := Option.bind_eq_some_iff.mp h
    cases h
    exact proper_attributeTexts _ rfl
  | _ => trivial

/-! ## Finding them again -/

theorem isAttributeChar_of_isBlank {c : Char} (h : isBlank c = true) :
    isAttributeChar c = false := by
  simp [isAttributeChar, h]

theorem ne_of_isAttributeChar {c : Char} (h : isAttributeChar c = true) :
    isBlank c = false ∧ c ≠ '=' := by
  simp [isAttributeChar] at h
  exact ⟨h.1.1.1.1.1, h.1.1.1.1.2⟩

def AttributeText.valueChars (a : AttributeText) : List Char :=
  match a.value with
  | some v => v.chars
  | none => []

theorem attributeChars_cons (a : AttributeText) (as : List AttributeText) :
    attributeChars (a :: as) = a.gap ++ (a.name ++ (a.valueChars ++ attributeChars as)) := by
  rw [attributeChars, List.flatMap_cons, AttributeText.chars, AttributeText.valueChars]
  simp only [List.append_assoc]
  rfl

/-- A run of a class ends where something outside of the class follows. -/
theorem takeWhile_run {p : Char → Bool} {run : List Char} (behind : List Char)
    (hrun : ∀ c ∈ run, p c = true) (hstop : ∀ c ∈ behind.head?, p c = false) :
    (run ++ behind).takeWhile p = run ∧ (run ++ behind).dropWhile p = behind := by
  rw [List.takeWhile_append_of_pos hrun, List.dropWhile_append_of_pos hrun]
  cases behind with
  | nil => simp
  | cons c cs =>
    have hc := hstop c rfl
    simp [hc]

theorem QuotedValue.Proper.quotedValue? {v : QuotedValue} (h : v.Proper) (behind : List Char) :
    quotedValue? (v.chars ++ behind) = some (v, behind) := by
  obtain ⟨before, blanks, quote, text⟩ := v
  have hchars : (QuotedValue.mk before blanks quote text).chars ++ behind =
      before ++ '=' :: (blanks ++ quote :: (text ++ quote :: behind)) := by
    simp [QuotedValue.chars]
  have hsign := takeWhile_run ('=' :: (blanks ++ quote :: (text ++ quote :: behind)))
    h.before (by simp; decide)
  have hquote : isBlank quote = false := by
    rcases h.quote with hq | hq
    · rw [show quote = '"' from hq]; decide
    · rw [show quote = '\'' from hq]; decide
  have hopen := takeWhile_run (quote :: (text ++ quote :: behind)) h.behind
    (by simpa using hquote)
  have hmark : Text.behind? ['='] ('=' :: (blanks ++ quote :: (text ++ quote :: behind))) =
      some (blanks ++ quote :: (text ++ quote :: behind)) := Text.behind?_append ['='] _
  have hknown : (decide (quote = '"') || decide (quote = '\'')) = true := by
    simpa using h.quote
  dsimp only at hsign hopen
  rw [hchars]
  simp only [Template.quotedValue?, hsign.1, hsign.2, hmark, hopen.1, hopen.2, hknown, if_true,
    Text.cut?_of_notMem behind h.text, Option.bind_eq_bind, Option.bind_some]

/-- No value is found where a tag goes on by another attribute. -/
theorem quotedValue?_attributeChars {as : List AttributeText} (h : ∀ a ∈ as, a.Proper) :
    quotedValue? (attributeChars as) = none := by
  cases as with
  | nil => rfl
  | cons a as =>
    obtain ⟨ha, -⟩ := List.forall_mem_cons.mp h
    obtain ⟨c, cs, hname⟩ := List.exists_cons_of_ne_nil ha.named
    obtain ⟨hblank, hsign⟩ := ne_of_isAttributeChar (ha.name c (hname ▸ List.mem_cons_self))
    have hchars : attributeChars (a :: as) =
        a.gap ++ c :: (cs ++ (a.valueChars ++ attributeChars as)) := by
      simp [attributeChars_cons, hname]
    have hdrop := (takeWhile_run (c :: (cs ++ (a.valueChars ++ attributeChars as))) ha.gap
      (by simpa using hblank)).2
    have hmark : Text.behind? ['='] (c :: (cs ++ (a.valueChars ++ attributeChars as))) = none := by
      rw [Text.behind?, if_neg (by simp [Ne.symm hsign])]
    simp only [quotedValue?, hchars, hdrop, hmark, Option.bind_eq_bind, Option.bind_none]

theorem QuotedValue.Proper.head {v : QuotedValue} (h : v.Proper) (behind : List Char) :
    ∀ c ∈ (v.chars ++ behind).head?, isAttributeChar c = false := by
  intro c hc
  cases hbefore : v.before with
  | nil =>
    rw [QuotedValue.chars, hbefore] at hc
    obtain rfl := Option.some.inj hc
    decide
  | cons b bs =>
    rw [QuotedValue.chars, hbefore] at hc
    obtain rfl := Option.some.inj hc
    exact isAttributeChar_of_isBlank (h.before b (hbefore ▸ List.mem_cons_self))

theorem head_attributeChars {as : List AttributeText} (h : ∀ a ∈ as, a.Proper) :
    ∀ c ∈ (attributeChars as).head?, isAttributeChar c = false := by
  cases as with
  | nil => nofun
  | cons a as =>
    obtain ⟨ha, -⟩ := List.forall_mem_cons.mp h
    obtain ⟨b, bs, hgap⟩ := List.exists_cons_of_ne_nil ha.apart
    intro c hc
    rw [attributeChars_cons, hgap] at hc
    obtain rfl := Option.some.inj hc
    exact isAttributeChar_of_isBlank (ha.gap b (hgap ▸ List.mem_cons_self))

theorem nextAttribute?_attributeChars {a : AttributeText} {as : List AttributeText}
    (ha : a.Proper) (has : ∀ b ∈ as, b.Proper) :
    nextAttribute? (attributeChars (a :: as)) = some (a, attributeChars as) := by
  have hbehind : ∀ c ∈ (a.valueChars ++ attributeChars as).head?, isAttributeChar c = false := by
    unfold AttributeText.valueChars
    split
    · next v hv => exact (ha.value v hv).head _
    · exact head_attributeChars has
  have hname := takeWhile_run _ ha.name hbehind
  have hgap : ∀ c ∈ a.gap, (!isAttributeChar c) = true := fun c hc => by
    rw [isAttributeChar_of_isBlank (ha.gap c hc)]
    rfl
  obtain ⟨c, cs, hcons⟩ := List.exists_cons_of_ne_nil ha.named
  have hrest := takeWhile_run (a.name ++ (a.valueChars ++ attributeChars as)) hgap
    (by simpa [hcons] using ha.name c (hcons ▸ List.mem_cons_self))
  have hnonempty : (a.name ++ (a.valueChars ++ attributeChars as)).isEmpty = false := by
    simp [hcons]
  rw [attributeChars_cons]
  simp only [nextAttribute?, hrest.1, hrest.2, hname.1, hname.2, hnonempty, Bool.false_eq_true,
    if_false]
  cases hvalue : a.value with
  | some v =>
    rw [AttributeText.valueChars, hvalue]
    dsimp only
    rw [(ha.value v hvalue).quotedValue?]
    dsimp only
    rw [← hvalue]
  | none =>
    rw [AttributeText.valueChars, hvalue, List.nil_append, quotedValue?_attributeChars has]
    dsimp only
    rw [← hvalue]

theorem length_le_length_attributeChars {as : List AttributeText} (h : ∀ a ∈ as, a.Proper) :
    as.length ≤ (attributeChars as).length := by
  induction as with
  | nil => exact Nat.le_refl 0
  | cons a as ih =>
    obtain ⟨ha, has⟩ := List.forall_mem_cons.mp h
    have hgap := List.length_pos_iff.mpr ha.apart
    have hrest := ih has
    simp only [attributeChars_cons, List.length_append, List.length_cons]
    omega

/-- The attributes that the lexer takes are found again in their text, and no others. -/
theorem findAttributes_attributeChars {as : List AttributeText} (h : ∀ a ∈ as, a.Proper) :
    findAttributes (attributeChars as) = as := by
  have hfind : ∀ {as : List AttributeText} (rounds : Nat), as.length ≤ rounds →
      (∀ a ∈ as, a.Proper) → findAttributesIn rounds (attributeChars as) = as := by
    intro as
    induction as with
    | nil =>
      intro rounds _ _
      cases rounds <;> rfl
    | cons a as ih =>
      intro rounds hrounds h
      obtain ⟨ha, has⟩ := List.forall_mem_cons.mp h
      cases rounds with
      | zero => exact absurd hrounds (Nat.not_succ_le_zero _)
      | succ rounds =>
        rw [findAttributesIn, nextAttribute?_attributeChars ha has]
        dsimp only
        rw [ih rounds (Nat.le_of_succ_le_succ hrounds) has]
  exact hfind _ (length_le_length_attributeChars h) h

/-! ## Reading them -/

/-- Whether a text without the blanks around it is an expression. -/
def isExpression (text : List Char) : Bool :=
  !(strip text).isEmpty && (Code.Expr.read (String.ofList (strip text))).toBool

theorem source_of_expressionAt {place : Position} {text : List Char} {e : Expression}
    (h : expressionAt place text = .ok e) : e.source = String.ofList (strip text) := by
  unfold expressionAt at h
  extract_lets source at h
  split at h
  · cases h
  · split at h
    · next hread =>
      cases h
      unfold Expression.ofText at hread
      split at hread
      · cases hread
        rfl
      · cases hread
    · cases h
    · cases h

theorem exists_expressionAt_iff (place : Position) {text : List Char} :
    (∃ e, expressionAt place text = .ok e) ↔ isExpression text = true := by
  unfold expressionAt isExpression
  extract_lets source
  cases hempty : (strip text).isEmpty with
  | true => simp [fail]
  | false =>
    have hread : (∃ e, Expression.ofText source = .ok e) ↔
        (Code.Expr.read source).toBool = true := by
      unfold Expression.ofText
      split
      · next h => simp [h, Except.toBool]
      · next h => simp [h, Except.toBool]
    rw [Bool.not_false, Bool.true_and, ← hread, if_neg Bool.false_ne_true]
    split
    · next h => simp [h]
    · next h => simp [h]
    · next h => simp [h, fail]

/-- What an attribute is given in the text. -/
inductive WrittenValue where
  | bare
  | literal (text : String)
  | expression (source : String)
  deriving DecidableEq, Repr

def AttributeText.written (a : AttributeText) : WrittenValue :=
  match a.value with
  | none => .bare
  | some v =>
    match wholeExpression? v.text with
    | some inner => .expression (String.ofList (strip inner))
    | none => .literal (String.ofList v.text)

def Attribute.written (a : Attribute) : WrittenValue :=
  match a.value with
  | .bare => .bare
  | .literal text => .literal text
  | .expression e => .expression e.source

/-- A value is text without the mark of an output, or one expression. -/
def AttributeText.isSound (a : AttributeText) : Bool :=
  match a.value with
  | none => true
  | some v =>
    match wholeExpression? v.text with
    | some inner => isExpression inner
    | none => !Text.occurs ['\x7b', '\x7b'] v.text

theorem exists_attributeValue_iff (place : Position) (name : String) {a : AttributeText} :
    (∃ value, attributeValue place name a.value = .ok value) ↔ a.isSound = true := by
  unfold attributeValue AttributeText.isSound
  cases a.value with
  | none => simp
  | some v =>
    dsimp only
    cases wholeExpression? v.text with
    | some inner =>
      dsimp only
      rw [← exists_expressionAt_iff place]
      simp only [bind_eq_ok_iff]
      constructor
      · rintro ⟨_, e, he, -⟩
        exact ⟨e, he⟩
      · rintro ⟨e, he⟩
        exact ⟨_, e, he, rfl⟩
    | none => cases Text.occurs ['\x7b', '\x7b'] v.text <;> simp [fail]

theorem written_of_attributeValue {place here : Position} {name : String} {a : AttributeText}
    {value : AttributeValue} (h : attributeValue place name a.value = .ok value) :
    (Attribute.mk here name value).written = a.written := by
  unfold attributeValue at h
  unfold AttributeText.written
  cases hvalue : a.value with
  | none =>
    rw [hvalue] at h
    cases h
    rfl
  | some v =>
    rw [hvalue] at h
    dsimp only at h ⊢
    cases hwhole : wholeExpression? v.text with
    | some inner =>
      rw [hwhole] at h
      obtain ⟨e, he, h⟩ := bind_eq_ok_iff.mp h
      cases h
      exact congrArg WrittenValue.expression (source_of_expressionAt he)
    | none =>
      rw [hwhole] at h
      dsimp only at h
      split at h
      · cases h
      · cases h
        rfl

/-- An attribute is read where its name is new and its value can be read. -/
theorem readAttributes_cons_eq_ok_iff {place : Position} {seen : List String} {a : AttributeText}
    {as : List AttributeText} {read : List Attribute} :
    readAttributes place seen (a :: as) = .ok read ↔ String.ofList a.name ∉ seen ∧
      ∃ value rest,
        attributeValue (place.after a.gap) (String.ofList a.name) a.value = .ok value ∧
        readAttributes (place.after a.chars) (String.ofList a.name :: seen) as = .ok rest ∧
        read = ⟨place.after a.gap, String.ofList a.name, value⟩ :: rest := by
  have hseen : seen.contains (String.ofList a.name) = true ↔ String.ofList a.name ∈ seen :=
    List.contains_iff_mem
  rw [readAttributes]
  by_cases hname : String.ofList a.name ∈ seen
  · rw [if_pos (hseen.mpr hname)]
    exact iff_of_false nofun fun h => h.1 hname
  · rw [if_neg fun h => hname (hseen.mp h)]
    simp only [hname, not_false_iff, true_and]
    change (attributeValue _ _ _ >>= _) = _ ↔ _
    rw [bind_eq_ok_iff]
    refine exists_congr fun value => ?_
    rw [bind_eq_ok_iff]
    constructor
    · rintro ⟨hvalue, rest, hrest, h⟩
      cases h
      exact ⟨rest, hvalue, hrest, rfl⟩
    · rintro ⟨rest, hvalue, hrest, rfl⟩
      exact ⟨hvalue, rest, hrest, rfl⟩

/-- Attributes are read where all their names are new and come once, and all values can be read. -/
theorem exists_readAttributes_iff {as : List AttributeText} :
    ∀ {place : Position} {seen : List String}, (∃ read, readAttributes place seen as = .ok read) ↔
      (as.map fun a => String.ofList a.name).Nodup ∧
      (∀ a ∈ as, String.ofList a.name ∉ seen) ∧ ∀ a ∈ as, a.isSound = true := by
  induction as with
  | nil =>
    intro place seen
    simp [readAttributes]
  | cons a as ih =>
    intro place seen
    have hstep : (∃ read, readAttributes place seen (a :: as) = .ok read) ↔
        String.ofList a.name ∉ seen ∧ a.isSound = true ∧
          ∃ rest, readAttributes (place.after a.chars) (String.ofList a.name :: seen) as =
            .ok rest := by
      rw [← exists_attributeValue_iff (place.after a.gap) (String.ofList a.name)]
      simp only [readAttributes_cons_eq_ok_iff]
      constructor
      · rintro ⟨_, hname, value, rest, hvalue, hrest, -⟩
        exact ⟨hname, ⟨value, hvalue⟩, rest, hrest⟩
      · rintro ⟨hname, ⟨value, hvalue⟩, rest, hrest⟩
        exact ⟨_, hname, value, rest, hvalue, hrest, rfl⟩
    rw [hstep, ih, List.forall_mem_cons, List.forall_mem_cons]
    simp only [List.map_cons, List.nodup_cons, List.mem_map, List.mem_cons, not_or, not_exists,
      not_and]
    constructor
    · rintro ⟨hname, hsound, hnodup, hnew, hrest⟩
      exact ⟨⟨fun b hb heq => (hnew b hb).1 heq, hnodup⟩, ⟨hname, fun b hb => (hnew b hb).2⟩,
        hsound, hrest⟩
    · rintro ⟨⟨hapart, hnodup⟩, ⟨hname, hnew⟩, hsound, hrest⟩
      exact ⟨hname, hsound, hnodup, fun b hb => ⟨hapart b hb, hnew b hb⟩, hrest⟩

/-- Attributes keep their names and what they are given. -/
theorem written_of_readAttributes {as : List AttributeText} :
    ∀ {place : Position} {seen : List String} {read : List Attribute},
      readAttributes place seen as = .ok read →
        read.map (fun a => (a.name, a.written)) =
          as.map fun a => (String.ofList a.name, a.written) := by
  induction as with
  | nil =>
    intro place seen read h
    cases h
    rfl
  | cons a as ih =>
    intro place seen read h
    obtain ⟨-, value, rest, hvalue, hrest, rfl⟩ := readAttributes_cons_eq_ok_iff.mp h
    rw [List.map_cons, List.map_cons, ih hrest, written_of_attributeValue hvalue]

end Template

end LivePreview
