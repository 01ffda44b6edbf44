import LivePreview.Proofs.ParamLines

/-!
# Where the attributes of a tag begin and end

The text of an opening tag has the form of one in a single way: there is no other choice of a name,
of attributes and of an end in the same place, so that it does not matter in which order choices are
tried. The search for names that runs over the text between finds each attribute from the first
character of its name to the last of its value, and passes over nothing but blanks.
-/

namespace LivePreview.Template

open LivePreview.Text (isBlank)

/-! ## The form of a tag -/

/-- The front of a text has the form of an opening tag, and `rest` is behind it. -/
structure TagForm (cs name : List Char) (as : List AttributeText) (blanks : List Char) (slash : Bool)
    (rest : List Char) : Prop where
  chars : '<' :: (name ++ (attributeChars as ++ (blanks ++ (tagEndChars slash ++ rest)))) = cs
  letter : ∃ c ∈ name.head?, isLetter c = true
  name : ∀ c ∈ name.tail, isTagChar c = true
  attributes : ∀ a ∈ as, a.Proper
  blanks : ∀ c ∈ blanks, isBlank c = true

/-- A text at whose front a name or an attribute of a tag cannot go on: blanks, if any, and then a
character that is no equals sign. -/
def Parts (cs : List Char) : Prop :=
  ∃ gap c behind, cs = gap ++ c :: behind ∧ (∀ b ∈ gap, isBlank b = true) ∧ isBlank c = false ∧
    c ≠ '=' ∧ (gap = [] → isTagChar c = false ∧ isAttributeChar c = false)

namespace Parts

variable {cs : List Char}

theorem quotedValue? (h : Parts cs) : quotedValue? cs = none := by
  obtain ⟨gap, c, behind, rfl, hgap, hblank, hsign, -⟩ := h
  have hdrop := (takeWhile_run (c :: behind) hgap (by simpa using hblank)).2
  have hmark : Text.behind? ['='] (c :: behind) = none := by
    rw [Text.behind?, if_neg (by simp [Ne.symm hsign])]
  rw [Template.quotedValue?, hdrop, hmark]
  rfl

theorem head (h : Parts cs) : ∀ c ∈ cs.head?, isTagChar c = false ∧ isAttributeChar c = false := by
  obtain ⟨gap, c, behind, rfl, hgap, -, -, hfirst⟩ := h
  intro d hd
  cases gap with
  | nil =>
    obtain rfl := Option.some.inj hd
    exact hfirst rfl
  | cons b gap =>
    obtain rfl := Option.some.inj hd
    have hb := hgap b List.mem_cons_self
    refine ⟨?_, isAttributeChar_of_isBlank hb⟩
    cases hword : Text.isWord b with
    | true => exact absurd hb (by rw [Text.isBlank_eq_false_of_isWord hword]; decide)
    | false =>
      have hmarks : b ≠ '.' ∧ b ≠ '-' := by
        constructor <;> rintro rfl <;> exact absurd hb (by decide)
      simp [isTagChar, hword, hmarks]

end Parts

/-- After an attribute or the name of a tag, further attributes and the end of the tag follow. -/
theorem parts_tagRest {as : List AttributeText} (has : ∀ a ∈ as, a.Proper) {blanks : List Char}
    (hblanks : ∀ c ∈ blanks, isBlank c = true) (slash : Bool) (rest : List Char) :
    Parts (attributeChars as ++ (blanks ++ (tagEndChars slash ++ rest))) := by
  cases as with
  | nil =>
    cases slash with
    | false => exact ⟨blanks, '>', rest, rfl, hblanks, by decide, by decide, fun _ => by decide⟩
    | true =>
      exact ⟨blanks, '/', '>' :: rest, rfl, hblanks, by decide, by decide, fun _ => by decide⟩
  | cons a as =>
    obtain ⟨ha, -⟩ := List.forall_mem_cons.mp has
    obtain ⟨c, cs, hname⟩ := List.exists_cons_of_ne_nil ha.named
    obtain ⟨hblank, hsign⟩ := ne_of_isAttributeChar (ha.name c (hname ▸ List.mem_cons_self))
    refine ⟨a.gap, c, cs ++ (a.valueChars ++ (attributeChars as ++
      (blanks ++ (tagEndChars slash ++ rest)))), ?_, ha.gap, hblank, hsign,
      fun hgap => absurd hgap ha.apart⟩
    rw [attributeChars_cons, hname]
    simp only [List.append_assoc, List.cons_append]

/-! ## Reading the form -/

theorem attributeText?_append {a : AttributeText} (ha : a.Proper) {behind : List Char}
    (hbehind : Parts behind) :
    attributeText? (a.gap ++ (a.name ++ (a.valueChars ++ behind))) = some (a, behind) := by
  obtain ⟨c, cs, hcons⟩ := List.exists_cons_of_ne_nil ha.named
  have hfirst := (ne_of_isAttributeChar (ha.name c (hcons ▸ List.mem_cons_self))).1
  have hgap := takeWhile_run (a.name ++ (a.valueChars ++ behind)) ha.gap
    (by simpa [hcons] using hfirst)
  have hstop : ∀ c ∈ (a.valueChars ++ behind).head?, isAttributeChar c = false := by
    unfold AttributeText.valueChars
    split
    · next v hv => exact (ha.value v hv).head _
    · exact fun c hc => (hbehind.head c hc).2
  have hname := takeWhile_run (a.valueChars ++ behind) ha.name hstop
  have hnonempty : (a.gap.isEmpty || a.name.isEmpty) = false := by
    simp [ha.apart, ha.named]
  simp only [attributeText?, hgap.1, hgap.2, hname.1, hname.2, hnonempty, Bool.false_eq_true,
    if_false]
  cases hvalue : a.value with
  | some v =>
    rw [AttributeText.valueChars, hvalue]
    dsimp only
    rw [(ha.value v hvalue).quotedValue?]
    dsimp only
    rw [← hvalue]
  | none =>
    rw [AttributeText.valueChars, hvalue, List.nil_append, hbehind.quotedValue?]
    dsimp only
    rw [← hvalue]

theorem attributeText?_tagEnd {blanks : List Char} (hblanks : ∀ c ∈ blanks, isBlank c = true)
    (slash : Bool) (rest : List Char) :
    attributeText? (blanks ++ (tagEndChars slash ++ rest)) = none := by
  have hend : ∃ c cs, tagEndChars slash ++ rest = c :: cs ∧ isBlank c = false ∧
      isAttributeChar c = false := by
    cases slash with
    | false => exact ⟨'>', rest, rfl, by decide, by decide⟩
    | true => exact ⟨'/', '>' :: rest, rfl, by decide, by decide⟩
  obtain ⟨c, cs, hcons, hblank, hchar⟩ := hend
  have hrun := takeWhile_run (c :: cs) hblanks (by simpa using hblank)
  rw [hcons]
  simp [attributeText?, hrun.1, hrun.2, hchar]

/-- The lexer takes attributes up to the end of the tag. -/
theorem attributeTexts_append {blanks : List Char} (hblanks : ∀ c ∈ blanks, isBlank c = true)
    (slash : Bool) (rest : List Char) {as : List AttributeText} :
    ∀ {rounds : Nat}, as.length ≤ rounds → (∀ a ∈ as, a.Proper) →
      attributeTexts rounds (attributeChars as ++ (blanks ++ (tagEndChars slash ++ rest))) =
        (as, blanks ++ (tagEndChars slash ++ rest)) := by
  induction as with
  | nil =>
    intro rounds _ _
    cases rounds with
    | zero => rfl
    | succ rounds =>
      change attributeTexts (rounds + 1) (blanks ++ (tagEndChars slash ++ rest)) = _
      rw [attributeTexts, attributeText?_tagEnd hblanks]
  | cons a as ih =>
    intro rounds hrounds has
    obtain ⟨ha, hrest⟩ := List.forall_mem_cons.mp has
    cases rounds with
    | zero => exact absurd hrounds (Nat.not_succ_le_zero _)
    | succ rounds =>
      have hfirst := attributeText?_append ha (parts_tagRest hrest hblanks slash rest)
      rw [attributeChars_cons]
      simp only [List.append_assoc]
      rw [attributeTexts, hfirst]
      dsimp only
      rw [ih (Nat.le_of_succ_le_succ hrounds) hrest]

theorem TagForm.openTag? {cs name blanks rest : List Char} {as : List AttributeText} {slash : Bool}
    (h : TagForm cs name as blanks slash rest) :
    openTag? cs = some (.openTag name as blanks slash, rest) := by
  obtain ⟨hchars, ⟨c, hhead, hletter⟩, hname, has, hblanks⟩ := h
  obtain ⟨tail, rfl⟩ : ∃ tail, name = c :: tail := by
    cases name with
    | nil => cases hhead
    | cons d tail => exact ⟨tail, by rw [Option.some.inj hhead]⟩
  change ∀ d ∈ tail, isTagChar d = true at hname
  have hparts := parts_tagRest has hblanks slash rest
  have hrun := takeWhile_run (attributeChars as ++ (blanks ++ (tagEndChars slash ++ rest))) hname
    fun d hd => (hparts.head d hd).1
  have hrounds : as.length ≤
      (attributeChars as ++ (blanks ++ (tagEndChars slash ++ rest))).length := by
    have hlength := length_le_length_attributeChars has
    rw [List.length_append]
    omega
  have hend : tagEnd? (tagEndChars slash ++ rest) = some (slash, rest) := by
    cases slash <;> rfl
  have hblank : ∀ d ∈ (tagEndChars slash ++ rest).head?, isBlank d = false := by
    cases slash <;> simp [tagEndChars] <;> decide
  have hlast := takeWhile_run (tagEndChars slash ++ rest) hblanks hblank
  have hmark (cs : List Char) : Text.behind? ['<'] ('<' :: cs) = some cs :=
    Text.behind?_append ['<'] cs
  rw [← hchars]
  simp only [Template.openTag?, hmark, tagName?, List.cons_append, if_pos hletter, hrun.1, hrun.2,
    attributeTexts_append hblanks slash rest hrounds has, hlast.1, hlast.2, hend,
    Option.bind_eq_bind, Option.bind_some]

/-- A text has the form of a tag in one way at most. -/
theorem TagForm.unique {cs name name' blanks blanks' rest rest' : List Char}
    {as as' : List AttributeText} {slash slash' : Bool} (h : TagForm cs name as blanks slash rest)
    (h' : TagForm cs name' as' blanks' slash' rest') :
    name' = name ∧ as' = as ∧ blanks' = blanks ∧ slash' = slash ∧ rest' = rest := by
  have hsame := h'.openTag?.symm.trans h.openTag?
  simpa only [Option.some.injEq, Prod.mk.injEq, Lexeme.openTag.injEq, and_assoc] using hsame

theorem tagForm_of_openTag? {cs name blanks rest : List Char} {as : List AttributeText}
    {slash : Bool} (h : openTag? cs = some (.openTag name as blanks slash, rest)) :
    TagForm cs name as blanks slash rest := by
  have hchars := openTag?_eq_some h
  obtain ⟨inner, -, h⟩ := Option.bind_eq_some_iff.mp h
  obtain ⟨⟨found, afterName⟩, hname, h⟩ := Option.bind_eq_some_iff.mp h
  obtain ⟨⟨slash', behind⟩, -, h⟩ := Option.bind_eq_some_iff.mp h
  cases h
  have hletter : (∃ c ∈ name.head?, isLetter c = true) ∧ ∀ c ∈ name.tail, isTagChar c = true := by
    cases inner with
    | nil => cases hname
    | cons c inner =>
      rw [tagName?] at hname
      split at hname
      · next hletter =>
        cases hname
        exact ⟨⟨c, rfl, hletter⟩, forall_mem_takeWhile inner⟩
      · cases hname
  refine ⟨?_, hletter.1, hletter.2, proper_attributeTexts _ rfl, forall_mem_takeWhile _⟩
  rw [← hchars, Lexeme.chars]
  simp only [tagEndChars, List.append_assoc, List.cons_append]

/-- The lexer finds an opening tag exactly where a text has the form of one. -/
theorem openTag?_eq_some_iff {cs name blanks rest : List Char} {as : List AttributeText}
    {slash : Bool} : openTag? cs = some (.openTag name as blanks slash, rest) ↔
      TagForm cs name as blanks slash rest :=
  ⟨tagForm_of_openTag?, TagForm.openTag?⟩

/-- An opening tag that is found in a source has the form of one before every text. -/
theorem tagForm_of_mem_lexemes {source name blanks : List Char} {as : List AttributeText}
    {slash : Bool} (h : .openTag name as blanks slash ∈ lexemes source) (rest : List Char) :
    TagForm ((Lexeme.openTag name as blanks slash).chars ++ rest) name as blanks slash rest := by
  refine forall_mem_lexemes (P := fun l => ∀ name as blanks slash, l = .openTag name as blanks slash →
    TagForm (l.chars ++ rest) name as blanks slash rest) (fun _ _ => nofun) ?_ source _ h _ _ _ _ rfl
  rintro lineStart cs _ behind hfound name as blanks slash rfl
  obtain ⟨-, hletter, hname, has, hblanks⟩ := tagForm_of_openTag? (openTag?_of_lexeme? hfound)
  refine ⟨?_, hletter, hname, has, hblanks⟩
  simp only [Lexeme.chars, tagEndChars, List.append_assoc, List.cons_append]

/-! ## Spans -/

/-- Where the attributes begin with their names and where they end, when `offset` characters are
before the first of them. -/
def attributeSpans (offset : Nat) : List AttributeText → List (Nat × Nat)
  | [] => []
  | a :: as => (offset + a.gap.length, offset + a.chars.length) ::
    attributeSpans (offset + a.chars.length) as

/-- Spans of a text from `offset` on: one behind the other for each attribute, holding its name and
its value, with nothing but blanks outside of them. -/
structure Spanned (cs : List Char) (offset : Nat) (spans : List (Nat × Nat))
    (as : List AttributeText) : Prop where
  texts : spans.map (fun s => (cs.take s.2).drop s.1) = as.map fun a => a.name ++ a.valueChars
  apart : spans.Pairwise fun s t => s.2 < t.1
  inside : ∀ s ∈ spans, offset < s.1 ∧ s.1 < s.2 ∧ s.2 ≤ cs.length
  outside : ∀ i c, offset ≤ i → cs[i]? = some c → (∀ s ∈ spans, ¬(s.1 ≤ i ∧ i < s.2)) →
    isBlank c = true

theorem chars_eq (a : AttributeText) : a.chars = a.gap ++ (a.name ++ a.valueChars) := by
  rw [AttributeText.chars, List.append_assoc]
  rfl

theorem attributeChars_cons_chars (a : AttributeText) (as : List AttributeText) :
    attributeChars (a :: as) = a.chars ++ attributeChars as := List.flatMap_cons

theorem spanned_attributeSpans {as : List AttributeText} : ∀ (before : List Char),
    (∀ a ∈ as, a.Proper) → Spanned (before ++ attributeChars as) before.length
      (attributeSpans before.length as) as := by
  induction as with
  | nil =>
    intro before _
    refine ⟨rfl, .nil, fun s hs => absurd hs List.not_mem_nil, fun i c hi hc _ => ?_⟩
    rw [attributeChars, List.flatMap_nil, List.append_nil, List.getElem?_eq_none hi] at hc
    cases hc
  | cons a as ih =>
    intro before has
    obtain ⟨ha, hrest⟩ := List.forall_mem_cons.mp has
    have hgap := List.length_pos_iff.mpr ha.apart
    have hname := List.length_pos_iff.mpr ha.named
    have hlength : a.chars.length = a.gap.length + (a.name.length + a.valueChars.length) := by
      rw [chars_eq, List.length_append, List.length_append]
    have hbehind := ih (before ++ a.chars) hrest
    rw [List.append_assoc, ← attributeChars_cons_chars, List.length_append] at hbehind
    have htext : ((before ++ attributeChars (a :: as)).take (before.length + a.chars.length)).drop
        (before.length + a.gap.length) = a.name ++ a.valueChars := by
      rw [attributeChars_cons_chars, ← List.append_assoc,
        List.take_left' (by rw [List.length_append]), chars_eq, ← List.append_assoc,
        List.drop_left' (by rw [List.length_append])]
    rw [attributeSpans]
    constructor
    case texts => rw [List.map_cons, List.map_cons, htext, hbehind.texts]
    case apart =>
      refine List.pairwise_cons.mpr ⟨fun s hs => ?_, hbehind.apart⟩
      exact (hbehind.inside s hs).1
    case inside =>
      refine List.forall_mem_cons.mpr ⟨⟨?_, ?_, ?_⟩, fun s hs => ?_⟩
      · show before.length < before.length + a.gap.length
        omega
      · show before.length + a.gap.length < before.length + a.chars.length
        omega
      · rw [attributeChars_cons_chars, List.length_append, List.length_append]
        omega
      · obtain ⟨hlow, hspan, hhigh⟩ := hbehind.inside s hs
        exact ⟨by omega, hspan, hhigh⟩
    case outside =>
      intro i c hi hc hfree
      obtain ⟨hfirst, hothers⟩ := List.forall_mem_cons.mp hfree
      by_cases hend : before.length + a.chars.length ≤ i
      · exact hbehind.outside i c hend hc hothers
      · -- What is neither behind the attribute nor in its span is in the gap before its name.
        have hbefore : i - before.length < a.gap.length := by
          by_contra hnot
          exact hfirst ⟨by show before.length + a.gap.length ≤ i; omega,
            by show i < before.length + a.chars.length; omega⟩
        rw [List.getElem?_append_right hi, attributeChars_cons,
          List.getElem?_append_left hbefore] at hc
        exact ha.gap c (List.mem_of_getElem? hc)

/-- Attributes are placed where their spans begin. -/
theorem places_of_readAttributes {start : Position} {as : List AttributeText} :
    ∀ (before : List Char) {seen : List String} {read : List Attribute},
      readAttributes (start.after before) seen as = .ok read →
        read.map (·.place) = (attributeSpans before.length as).map fun s =>
          start.after ((before ++ attributeChars as).take s.1) := by
  induction as with
  | nil =>
    intro before seen read h
    cases h
    rfl
  | cons a as ih =>
    intro before seen read h
    obtain ⟨-, value, rest, -, hrest, rfl⟩ := readAttributes_cons_eq_ok_iff.mp h
    rw [← Position.after_append] at hrest
    have hbehind := ih (before ++ a.chars) hrest
    rw [List.append_assoc, ← attributeChars_cons_chars, List.length_append] at hbehind
    have htake : (before ++ attributeChars (a :: as)).take (before.length + a.gap.length) =
        before ++ a.gap := by
      rw [attributeChars_cons, ← List.append_assoc, List.take_left' (by rw [List.length_append])]
    rw [attributeSpans, List.map_cons, List.map_cons, htake, Position.after_append, hbehind]

/-- The text at an opening tag of a source has the form of a tag in just the way in which it was cut.
The search for names in the text of its attributes finds these attributes, each from its name to the
end of its value, with nothing but blanks before, between and behind them; and what is read of them
has their names and stands where they begin. -/
theorem attributes_delimited {source : List Char} {before behind : List Lexeme}
    {name blanks : List Char} {as : List AttributeText} {slash : Bool}
    (h : lexemes source = before ++ .openTag name as blanks slash :: behind) :
    (∀ name' as' blanks' slash' rest,
      TagForm (source.drop (before.flatMap Lexeme.chars).length) name' as' blanks' slash' rest ↔
        name' = name ∧ as' = as ∧ blanks' = blanks ∧ slash' = slash ∧
          rest = behind.flatMap Lexeme.chars) ∧
    findAttributes (attributeChars as) = as ∧
    Spanned (attributeChars as) 0 (attributeSpans 0 (findAttributes (attributeChars as))) as ∧
    ∀ start read, readAttributes start [] (findAttributes (attributeChars as)) = .ok read →
      read.map (·.name) = as.map (fun a => String.ofList a.name) ∧
      read.map (·.place) = (attributeSpans 0 as).map fun s =>
        start.after ((attributeChars as).take s.1) := by
  have hmem : .openTag name as blanks slash ∈ lexemes source := by
    rw [h]
    exact List.mem_append_right _ List.mem_cons_self
  have hform := tagForm_of_mem_lexemes hmem (behind.flatMap Lexeme.chars)
  have hfound := findAttributes_attributeChars hform.attributes
  have hrest : source.drop (before.flatMap Lexeme.chars).length =
      (Lexeme.openTag name as blanks slash).chars ++ behind.flatMap Lexeme.chars := by
    have hsource := flatMap_chars_lexemes source
    rw [h, List.flatMap_append, List.flatMap_cons] at hsource
    rw [← hsource, List.drop_left]
  refine ⟨fun name' as' blanks' slash' rest => ?_, hfound, ?_, fun start read hread => ?_⟩
  · rw [hrest]
    constructor
    · exact hform.unique
    · rintro ⟨rfl, rfl, rfl, rfl, rfl⟩
      exact hform
  · rw [hfound]
    exact spanned_attributeSpans [] hform.attributes
  · rw [hfound] at hread
    constructor
    · have hwritten := congrArg (List.map Prod.fst) (written_of_readAttributes hread)
      simpa only [List.map_map, Function.comp_def] using hwritten
    · exact places_of_readAttributes [] hread

/-- A tag with a value between each kind of quotes, with blanks around a sign, and with a bare name. -/
def imageTag : List AttributeText := [
  ⟨[' '], "src".toList, some ⟨[], [], '"', "a b".toList⟩⟩,
  ⟨[' '], "alt".toList, some ⟨[' '], [' '], '\'', "x > y".toList⟩⟩,
  ⟨['\n'], "hidden".toList, none⟩]

theorem attributes_delimited_image :
    lexemes "<p/><img src=\"a b\" alt = 'x > y'\nhidden />".toList =
      [.openTag ['p'] [] [] true, .openTag "img".toList imageTag [' '] true] ∧
    findAttributes " src=\"a b\" alt = 'x > y'\nhidden".toList = imageTag ∧
    Spanned " src=\"a b\" alt = 'x > y'\nhidden".toList 0 [(1, 10), (11, 24), (25, 31)] imageTag := by
  have hlexemes : lexemes "<p/><img src=\"a b\" alt = 'x > y'\nhidden />".toList =
      [.openTag ['p'] [] [] true] ++ .openTag "img".toList imageTag [' '] true :: [] := by
    decide +kernel
  obtain ⟨-, hfound, hspanned, -⟩ := attributes_delimited hlexemes
  rw [hfound] at hspanned
  exact ⟨hlexemes, hfound, hspanned⟩

end LivePreview.Template
