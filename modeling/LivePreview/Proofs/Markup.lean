import LivePreview.Proofs.Closings

/-!
# Attributes in generated text

Markup has every attribute of its tag again: the name, and behind it a literal value between double
quotes. The source may have the value between single quotes, and then with double quotes in it. So
what is written for an attribute reads as the attribute where its value has no double quote, and else
its value ends too early.
-/

namespace LivePreview

namespace Template

/-! ## Tags of a tree in the source -/

/-- Joining text neither loses nor makes any other visit. -/
theorem Visit.mem_foldl_join_iff {v : Visit} (hv : v.isData = false) {vs ws : List Visit} :
    v ∈ vs.foldl Visit.join ws ↔ v ∈ ws ∨ v ∈ vs := by
  have hfilter := Visit.flatMap_foldl_join (f := fun w => if w.isData then [] else [w])
    (fun _ _ _ _ => rfl) vs ws
  have hmem (us : List Visit) : v ∈ us ↔ v ∈ us.flatMap fun w => if w.isData then [] else [w] := by
    rw [List.mem_flatMap]
    constructor
    · exact fun h => ⟨v, h, by simp [hv]⟩
    · rintro ⟨w, hw, hvw⟩
      split at hvw
      · exact absurd hvw List.not_mem_nil
      · rwa [List.mem_singleton.mp hvw]
  rw [hmem, hfilter, List.mem_append, ← hmem, ← hmem]

/-- An element of a tree is read from an opening tag of the source. -/
theorem exists_tag_of_enter {cs : List Char} {t : Template} (h : ofChars cs = .ok t)
    {place : Position} {name : String} {attributes : List Attribute} {closing : Closing}
    (hv : .enter place name attributes closing ∈ bodyVisits t.body) :
    ∃ tag as blanks slash here, .openTag tag as blanks slash ∈ lexemes cs ∧
      name = String.ofList tag ∧ readAttributes here [] as = .ok attributes := by
  obtain ⟨es, hes, hvisits⟩ := visits_of_read h
  rw [hvisits, Visit.mem_foldl_join_iff rfl, or_iff_right List.not_mem_nil] at hv
  obtain ⟨e, he, hv⟩ := List.mem_flatMap.mp hv
  obtain ⟨l, hl, here, heffect⟩ := exists_effect_of_mem hes e he
  cases yields_of_effect heffect with
  | @openTag tag as blanks slash read hread _ =>
    rw [findAttributes_attributeChars (proper_lexemes cs _ hl)] at hread
    rw [visits_tagEffect, List.mem_cons] at hv
    rcases hv with hv | hv
    · cases hv
      exact ⟨tag, as, blanks, slash, _, hl, rfl, hread⟩
    · unfold tagLeave at hv
      split at hv
      · exact absurd hv List.not_mem_nil
      · cases List.mem_singleton.mp hv
  | param _ => exact absurd hv List.not_mem_nil
  | module _ => exact absurd hv List.not_mem_nil
  | _ => cases List.mem_singleton.mp hv

/-- An attribute that was read stands in the text, where nothing is wrong with it. -/
theorem exists_text_of_attribute {place : Position} {seen : List String} {as : List AttributeText}
    {read : List Attribute} (h : readAttributes place seen as = .ok read) {a : Attribute}
    (ha : a ∈ read) : ∃ raw ∈ as, a.name = String.ofList raw.name ∧ a.written = raw.written ∧
      raw.isSound = true := by
  have hmem : (a.name, a.written) ∈ read.map fun b => (b.name, b.written) :=
    List.mem_map.mpr ⟨a, ha, rfl⟩
  rw [written_of_readAttributes h] at hmem
  obtain ⟨raw, hraw, heq⟩ := List.mem_map.mp hmem
  obtain ⟨hname, hwritten⟩ := Prod.mk.inj heq
  obtain ⟨-, -, hsound⟩ := exists_readAttributes_iff.mp ⟨read, h⟩
  exact ⟨raw, hraw, hname.symm, hwritten.symm, hsound raw hraw⟩

/-! ## What is written for an attribute -/

/-- What markup has for an attribute without an expression. -/
def Attribute.markup? (a : Attribute) : Option String :=
  match a.value with
  | .bare => some (" " ++ a.name)
  | .literal text => some (" " ++ a.name ++ "=\"" ++ text ++ "\"")
  | .expression _ => none

/-- The attribute as it stands in markup, the value between double quotes. -/
def Attribute.rewritten (a : Attribute) : AttributeText where
  gap := [' ']
  name := a.name.toList
  value := match a.value with
    | .literal text => some ⟨[], [], '"', text.toList⟩
    | _ => none

/-- No literal value has a double quote in it. -/
def Attribute.FreeOfQuotes (a : Attribute) : Prop :=
  ∀ text, a.value = .literal text → '"' ∉ text.toList

/-- The text reads as the one attribute `a`. -/
def Attribute.ReadsBack (a : Attribute) (s : String) : Prop :=
  ∃ read, readAttributes .start [] (findAttributes s.toList) = .ok read ∧
    read.map (fun b => (b.name, b.written)) = [(a.name, a.written)]

/-- The attribute could be read: it has a name, and a literal value is no expression and shows no mark
of one. -/
structure Attribute.Readable (a : Attribute) : Prop where
  named : a.name.toList ≠ []
  name : ∀ c ∈ a.name.toList, isAttributeChar c = true
  whole : ∀ text, a.value = .literal text → wholeExpression? text.toList = none
  unmarked : ∀ text, a.value = .literal text → Text.occurs ['\x7b', '\x7b'] text.toList = false

theorem exists_value_of_written {raw : AttributeText} {text : String}
    (h : raw.written = .literal text) :
    ∃ v, raw.value = some v ∧ wholeExpression? v.text = none ∧ text = String.ofList v.text := by
  unfold AttributeText.written at h
  split at h
  · cases h
  · next v hv =>
    split at h
    · cases h
    · next hwhole =>
      cases h
      exact ⟨v, hv, hwhole, rfl⟩

theorem readable_of_text {a : Attribute} {raw : AttributeText} (hraw : raw.Proper)
    (hname : a.name = String.ofList raw.name) (hwritten : a.written = raw.written)
    (hsound : raw.isSound = true) : a.Readable := by
  have htext : ∀ text, a.value = .literal text →
      wholeExpression? text.toList = none ∧ Text.occurs ['\x7b', '\x7b'] text.toList = false := by
    intro text hvalue
    have hliteral : raw.written = .literal text := by rw [← hwritten, Attribute.written, hvalue]
    obtain ⟨v, hv, hwhole, rfl⟩ := exists_value_of_written hliteral
    rw [AttributeText.isSound, hv] at hsound
    dsimp only at hsound
    rw [hwhole] at hsound
    rw [String.toList_ofList]
    exact ⟨hwhole, by simpa using hsound⟩
  constructor
  · rw [hname, String.toList_ofList]
    exact hraw.named
  · rw [hname, String.toList_ofList]
    exact hraw.name
  · exact fun text hvalue => (htext text hvalue).1
  · exact fun text hvalue => (htext text hvalue).2

section Attributes

variable {a : Attribute} {s : String}

theorem chars_rewritten (h : a.markup? = some s) : a.rewritten.chars = s.toList := by
  unfold Attribute.markup? at h
  unfold Attribute.rewritten
  split at h
  · cases h
    simp [*, AttributeText.chars]
  · cases h
    simp [*, AttributeText.chars, QuotedValue.chars]
  · cases h

theorem Attribute.Readable.written (h : a.Readable) (hmarkup : a.markup? = some s) :
    a.rewritten.written = a.written := by
  unfold Attribute.markup? at hmarkup
  unfold AttributeText.written Attribute.rewritten Attribute.written
  cases hvalue : a.value with
  | bare => rfl
  | literal text =>
    dsimp only
    rw [h.whole text hvalue]
    exact congrArg WrittenValue.literal String.ofList_toList
  | expression e =>
    rw [hvalue] at hmarkup
    cases hmarkup

theorem Attribute.Readable.isSound (h : a.Readable) : a.rewritten.isSound = true := by
  unfold AttributeText.isSound Attribute.rewritten
  cases hvalue : a.value with
  | literal text =>
    dsimp only
    rw [h.whole text hvalue]
    rw [h.unmarked text hvalue]
    rfl
  | _ => rfl

theorem Attribute.Readable.proper (h : a.Readable) (hfree : a.FreeOfQuotes) :
    a.rewritten.Proper where
  gap := by simp [Attribute.rewritten]; decide
  apart := List.cons_ne_nil _ _
  name := h.name
  named := h.named
  value := by
    intro v hv
    unfold Attribute.rewritten at hv
    cases hvalue : a.value with
    | literal text =>
      rw [hvalue] at hv
      cases hv
      exact ⟨nofun, nofun, .inl rfl, hfree text hvalue⟩
    | _ =>
      rw [hvalue] at hv
      cases hv

end Attributes

/-! ## Reading it back -/

theorem chars_of_markup {attributes : List Attribute}
    (hmarkup : ∀ a ∈ attributes, a.markup?.isSome) :
    (attributes.filterMap Attribute.markup?).flatMap String.toList =
      attributeChars (attributes.map Attribute.rewritten) := by
  rw [attributeChars, List.flatMap_map]
  induction attributes with
  | nil => rfl
  | cons a attributes ih =>
    obtain ⟨ha, hrest⟩ := List.forall_mem_cons.mp hmarkup
    obtain ⟨s, hs⟩ := Option.isSome_iff_exists.mp ha
    rw [List.filterMap_cons_some hs, List.flatMap_cons, List.flatMap_cons, ih hrest,
      chars_rewritten hs]

/-- Attributes without double quotes are read again from what markup has for them. -/
theorem exists_read_of_markup {attributes : List Attribute}
    (hreadable : ∀ a ∈ attributes, a.Readable) (hdistinct : (attributes.map (·.name)).Nodup)
    (hmarkup : ∀ a ∈ attributes, a.markup?.isSome) (hfree : ∀ a ∈ attributes, a.FreeOfQuotes) :
    ∃ read, readAttributes .start []
        (findAttributes ((attributes.filterMap Attribute.markup?).flatMap String.toList)) =
          .ok read ∧
      read.map (fun b => (b.name, b.written)) = attributes.map fun a => (a.name, a.written) := by
  have hproper : ∀ raw ∈ attributes.map Attribute.rewritten, raw.Proper := by
    intro raw hraw
    obtain ⟨a, ha, rfl⟩ := List.mem_map.mp hraw
    exact (hreadable a ha).proper (hfree a ha)
  have hnames : (attributes.map Attribute.rewritten).map (fun raw => String.ofList raw.name) =
      attributes.map (·.name) := by
    rw [List.map_map]
    exact List.map_congr_left fun a _ => String.ofList_toList
  rw [chars_of_markup hmarkup, findAttributes_attributeChars hproper]
  obtain ⟨read, hread⟩ : ∃ read, readAttributes .start [] (attributes.map Attribute.rewritten) =
      .ok read := by
    refine exists_readAttributes_iff.mpr
      ⟨hnames ▸ hdistinct, fun _ _ => List.not_mem_nil, fun raw hraw => ?_⟩
    obtain ⟨a, ha, rfl⟩ := List.mem_map.mp hraw
    exact (hreadable a ha).isSound
  refine ⟨read, hread, ?_⟩
  rw [written_of_readAttributes hread, List.map_map]
  refine List.map_congr_left fun a ha => ?_
  obtain ⟨s, hs⟩ := Option.isSome_iff_exists.mp (hmarkup a ha)
  exact Prod.ext String.ofList_toList ((hreadable a ha).written hs)

/-- An attribute with a value is found whatever stands behind it. -/
theorem nextAttribute?_valued {a : AttributeText} (ha : a.Proper) {v : QuotedValue}
    (hv : a.value = some v) (behind : List Char) :
    nextAttribute? (a.chars ++ behind) = some (a, behind) := by
  have hproper := ha.value v hv
  have hchars : a.chars ++ behind = a.gap ++ (a.name ++ (v.chars ++ behind)) := by
    simp [AttributeText.chars, hv]
  have hname := takeWhile_run _ ha.name (hproper.head behind)
  have hgap : ∀ c ∈ a.gap, (!isAttributeChar c) = true := fun c hc => by
    rw [isAttributeChar_of_isBlank (ha.gap c hc)]
    rfl
  obtain ⟨c, cs, hcons⟩ := List.exists_cons_of_ne_nil ha.named
  have hrest := takeWhile_run (a.name ++ (v.chars ++ behind)) hgap
    (by simpa [hcons] using ha.name c (hcons ▸ List.mem_cons_self))
  have hnonempty : (a.name ++ (v.chars ++ behind)).isEmpty = false := by simp [hcons]
  rw [hchars]
  simp only [nextAttribute?, hrest.1, hrest.2, hname.1, hname.2, hnonempty, Bool.false_eq_true,
    if_false, hproper.quotedValue?]
  rw [← hv]

/-- Of a value with a double quote only what stands before the quote is found. -/
theorem exists_findAttributes_cut {name before : List Char} (hnamed : name ≠ [])
    (hname : ∀ c ∈ name, isAttributeChar c = true) (hbefore : '"' ∉ before) (behind : List Char) :
    ∃ others, findAttributes ((AttributeText.mk [' '] name
        (some ⟨[], [], '"', before ++ '"' :: behind⟩)).chars) =
      ⟨[' '], name, some ⟨[], [], '"', before⟩⟩ :: others := by
  have hproper : (AttributeText.mk [' '] name (some ⟨[], [], '"', before⟩)).Proper := by
    refine ⟨by simp; decide, List.cons_ne_nil _ _, hname, hnamed, fun v hv => ?_⟩
    cases hv
    exact ⟨nofun, nofun, .inl rfl, hbefore⟩
  have hchars : (AttributeText.mk [' '] name
      (some ⟨[], [], '"', before ++ '"' :: behind⟩)).chars =
        (AttributeText.mk [' '] name (some ⟨[], [], '"', before⟩)).chars ++ (behind ++ ['"']) := by
    simp [AttributeText.chars, QuotedValue.chars]
  rw [hchars, findAttributes]
  obtain ⟨rounds, hrounds⟩ : ∃ rounds, ((AttributeText.mk [' '] name
      (some ⟨[], [], '"', before⟩)).chars ++ (behind ++ ['"'])).length = rounds + 1 :=
    Nat.exists_eq_add_one_of_ne_zero (by simp)
  rw [hrounds, findAttributesIn, nextAttribute?_valued hproper rfl]
  exact ⟨_, rfl⟩

/-- What markup has for an attribute reads as the attribute just where no double quote is in it. -/
theorem Attribute.Readable.readsBack_iff {a : Attribute} (h : a.Readable) {s : String}
    (hs : a.markup? = some s) : a.ReadsBack s ↔ a.FreeOfQuotes := by
  constructor
  case mp =>
    rintro ⟨read, hread, hmap⟩ text hvalue hquote
    obtain ⟨before, behind, hsplit, hbefore⟩ := List.eq_append_cons_of_mem hquote
    have hchars : s.toList = (AttributeText.mk [' '] a.name.toList
        (some ⟨[], [], '"', before ++ '"' :: behind⟩)).chars := by
      rw [← chars_rewritten hs, Attribute.rewritten, hvalue, ← hsplit]
    obtain ⟨others, hfound⟩ := exists_findAttributes_cut h.named h.name hbefore behind
    rw [hchars, hfound] at hread
    rw [written_of_readAttributes hread, List.map_cons] at hmap
    have hcut : (AttributeText.mk [' '] a.name.toList (some ⟨[], [], '"', before⟩)).written =
        .literal text := by
      rw [(Prod.mk.inj (List.cons.inj hmap).1).2, Attribute.written, hvalue]
    unfold AttributeText.written at hcut
    dsimp only at hcut
    split at hcut
    · cases hcut
    · cases hcut
      rw [String.toList_ofList] at hsplit
      have hlength := congrArg List.length hsplit
      rw [List.length_append, List.length_cons] at hlength
      omega
  case mpr =>
    intro hfree
    have hreadable : ∀ b ∈ [a], b.Readable := by simpa using h
    obtain ⟨read, hread, hmap⟩ := exists_read_of_markup hreadable (List.nodup_singleton _)
      (by simp [hs]) (by simpa using hfree)
    rw [List.filterMap_cons_some hs] at hread
    exact ⟨read, by simpa using hread, hmap⟩

end Template

namespace Component

open LivePreview.Template

/-! ## What is written for a tag -/

theorem attributeMarkup_eq_text {a : Attribute} {s : String} (h : a.markup? = some s)
    (p : Progress) : p.attributeMarkup a = p.text s := by
  unfold Attribute.markup? at h
  unfold Progress.attributeMarkup
  cases hvalue : a.value with
  | bare =>
    rw [hvalue] at h
    cases h
    rfl
  | literal text =>
    rw [hvalue] at h
    cases h
    rfl
  | expression e =>
    rw [hvalue] at h
    cases h

theorem attributeStatic_eq_solid {a : Attribute} {s : String} (h : a.markup? = some s) :
    attributeStatic a.name a.written = solid s := by
  unfold Attribute.markup? at h
  unfold Attribute.written
  cases hvalue : a.value with
  | bare =>
    rw [hvalue] at h
    cases h
    rfl
  | literal text =>
    rw [hvalue] at h
    cases h
    rfl
  | expression e =>
    rw [hvalue] at h
    cases h

/-- The static text of a tag up to its end. -/
def headStatic (name : String) (attributes : List Attribute) : List (Option Nat) :=
  solid ("<" ++ name) ++ attributes.flatMap fun a => attributeStatic a.name a.written

theorem tagStatic_eq (name : String) (attributes : List Attribute) (ending : String) :
    tagStatic name (attributes.map fun a => (a.name, a.written)) ending =
      headStatic name attributes ++ solid ending := by
  rw [tagStatic, headStatic, List.flatMap_map]

section Infix

variable {c : Context} {closes : String → List Node → Bool} {place : Position} {name : String}
  {attributes : List Attribute} {closing : Closing}

mutual

theorem headStatic_infix_node (n : Node) (hn : n.Told)
    (hv : .enter place name attributes closing ∈ n.visits) (hbinding : binding? c name = none) :
    headStatic name attributes <:+: nodeStatic c closes n := by
  cases n with
  | data other text => cases List.mem_singleton.mp hv
  | output other e => cases List.mem_singleton.mp hv
  | element other tag as body ending =>
    obtain ⟨-, hempty, hbody⟩ := hn
    rw [Node.visits, List.mem_cons, List.mem_append, List.mem_singleton] at hv
    rw [nodeStatic]
    rcases hv with hv | hv | hv
    · cases hv
      rw [hbinding]
      cases closing with
      | paired =>
        simp only [tagStatic_eq, List.append_assoc]
        exact (List.prefix_append _ _).isInfix
      | _ =>
        simp only [tagStatic_eq]
        exact (List.prefix_append _ _).isInfix
    · have hinside := headStatic_infix_body body hbody hv hbinding
      cases binding? c tag with
      | some b => exact hinside.trans (List.prefix_append _ _).isInfix
      | none =>
        cases ending with
        | paired => exact hinside.trans (List.infix_append _ _ _)
        | _ =>
          rw [hempty nofun] at hv
          exact absurd hv List.not_mem_nil
    · cases hv

/-- Every tag of a body that is not resolved is in the static text of the body. -/
theorem headStatic_infix_body (ns : List Node) (hns : BodyTold ns)
    (hv : .enter place name attributes closing ∈ bodyVisits ns) (hbinding : binding? c name = none) :
    headStatic name attributes <:+: bodyStatic c closes ns := by
  cases ns with
  | nil => exact absurd hv List.not_mem_nil
  | cons n ns =>
    rw [bodyVisits, List.mem_append] at hv
    rw [bodyStatic]
    rcases hv with hv | hv
    · exact (headStatic_infix_node n hns.1 hv hbinding).trans (List.prefix_append _ _).isInfix
    · exact (headStatic_infix_body ns hns.2 hv hbinding).trans (List.suffix_append _ _).isInfix

end

end Infix

/-- Of every element and unresolved component of a template that was read, the tag is written with
all its attributes. What is written for one without an expression reads as this one attribute again
exactly if it has no literal value with a double quote in it, which only a value between single
quotes can have. A tag without expressions and such values reads as all its attributes again. -/
theorem attributes_read_back {source : String} {filename : Option String} {t : Template}
    (h : ofText source filename = .ok t) {place : Position} {name : String}
    {attributes : List Attribute} {closing : Closing}
    (hv : .enter place name attributes closing ∈ bodyVisits t.body) :
    (∀ (c : Context) (own : String) (p : Progress), binding? c name = none →
        writeNodes c own ⟨.empty, .empty⟩ t.body = .ok p →
          headStatic name attributes <:+: p.draft.static) ∧
      (∀ a ∈ attributes, ∀ s, a.markup? = some s →
        (∀ p : Progress, p.attributeMarkup a = p.text s) ∧
          attributeStatic a.name a.written = solid s ∧ (a.ReadsBack s ↔ a.FreeOfQuotes)) ∧
      (∀ a ∈ attributes, ¬ a.FreeOfQuotes → ∃ tag as blanks slash raw v,
        .openTag tag as blanks slash ∈ lexemes source.toList ∧ raw ∈ as ∧ raw.value = some v ∧
          a.value = .literal (String.ofList v.text) ∧ v.quote = '\'') ∧
      ((∀ a ∈ attributes, a.markup?.isSome ∧ a.FreeOfQuotes) → ∃ read,
        readAttributes .start []
            (findAttributes ((attributes.filterMap Attribute.markup?).flatMap String.toList)) =
              .ok read ∧
          read.map (fun a => (a.name, a.written)) = attributes.map fun a => (a.name, a.written)) := by
  have hread := ofText_eq_ok_iff.mp h
  obtain ⟨tag, as, blanks, slash, here, htag, -, hattributes⟩ := exists_tag_of_enter hread hv
  have hproper : ∀ raw ∈ as, raw.Proper := proper_lexemes source.toList _ htag
  have hreadable : ∀ a ∈ attributes, a.Readable := by
    intro a ha
    obtain ⟨raw, hraw, hname, hwritten, hsound⟩ := exists_text_of_attribute hattributes ha
    exact readable_of_text (hproper raw hraw) hname hwritten hsound
  refine ⟨fun c own p hbinding hp => ?_, fun a ha s hs => ?_, fun a ha hquote => ?_, fun hall => ?_⟩
  · have htold := bodyTold_of_read hread
    rw [static_writeNodes t.body htold _ p hp]
    exact headStatic_infix_body t.body htold hv hbinding
  · exact ⟨attributeMarkup_eq_text hs, attributeStatic_eq_solid hs, (hreadable a ha).readsBack_iff hs⟩
  · obtain ⟨raw, hraw, -, hwritten, -⟩ := exists_text_of_attribute hattributes ha
    obtain ⟨text, hvalue, hmem⟩ : ∃ text, a.value = .literal text ∧ '"' ∈ text.toList := by
      simpa [Attribute.FreeOfQuotes] using hquote
    obtain ⟨v, hv, -, rfl⟩ := exists_value_of_written (hwritten.symm.trans (by
      rw [Attribute.written, hvalue]))
    refine ⟨tag, as, blanks, slash, raw, v, htag, hraw, hv, hvalue, ?_⟩
    have hvproper := (hproper raw hraw).value v hv
    refine hvproper.quote.resolve_left fun hdouble => hvproper.text ?_
    rw [hdouble]
    rwa [String.toList_ofList] at hmem
  · have hnames : (attributes.map (·.name)).Nodup := by
      obtain ⟨hnodup, -, -⟩ := exists_readAttributes_iff.mp ⟨attributes, hattributes⟩
      have hsame := congrArg (List.map Prod.fst) (written_of_readAttributes hattributes)
      rw [List.map_map, List.map_map] at hsame
      exact hsame ▸ hnodup
    exact exists_read_of_markup hreadable hnames (fun a ha => (hall a ha).1)
      fun a ha => (hall a ha).2

/-- A tag with double quotes in a value between single quotes. -/
def quotedText : String := "<p title='say \"hi\"' lang=\"en\" hidden></p>"

def quotedTitle : Attribute := ⟨⟨1, 3⟩, "title", .literal "say \"hi\""⟩

def quotedAttributes : List Attribute :=
  [quotedTitle, ⟨⟨1, 20⟩, "lang", .literal "en"⟩, ⟨⟨1, 30⟩, "hidden", .bare⟩]

theorem read_quotedText : Template.ofChars quotedText.toList =
    .ok ⟨[], [], [.element ⟨1, 0⟩ "p" quotedAttributes [] .paired]⟩ := rfl

theorem attributes_read_back_quotedText : ∃ t, ofText quotedText none = .ok t ∧
    .enter ⟨1, 0⟩ "p" quotedAttributes .paired ∈ bodyVisits t.body ∧
    ¬ quotedTitle.ReadsBack " title=\"say \"hi\"\"" ∧
    (Attribute.mk ⟨1, 20⟩ "lang" (.literal "en")).ReadsBack " lang=\"en\"" ∧
    (Attribute.mk ⟨1, 30⟩ "hidden" .bare).ReadsBack " hidden" := by
  have ht : ofText quotedText none = .ok _ := ofText_eq_ok_iff.mpr read_quotedText
  have hv : Visit.enter ⟨1, 0⟩ "p" quotedAttributes .paired ∈
      bodyVisits [.element ⟨1, 0⟩ "p" quotedAttributes [] .paired] := List.mem_cons_self
  obtain ⟨-, hback, -, -⟩ := attributes_read_back ht hv
  have htitle := (hback quotedTitle (.head _) _ rfl).2.2
  have hlang := (hback ⟨⟨1, 20⟩, "lang", .literal "en"⟩ (.tail _ (.head _)) _ rfl).2.2
  have hhidden := (hback ⟨⟨1, 30⟩, "hidden", .bare⟩ (.tail _ (.tail _ (.head _))) _ rfl).2.2
  refine ⟨_, ht, hv, fun h => htitle.mp h _ rfl (by decide), hlang.mpr fun text htext => ?_,
    hhidden.mpr nofun⟩
  cases htext
  decide

/-- What is written for an attribute does not always read as the attribute. -/
theorem attributes_not_always_read_back :
    ¬ ∀ (source : String) (t : Template), ofText source none = .ok t →
      ∀ place name attributes closing, .enter place name attributes closing ∈ bodyVisits t.body →
        ∀ a ∈ attributes, ∀ s, a.markup? = some s → a.ReadsBack s := by
  intro hclaim
  obtain ⟨read, hread, hmap⟩ := hclaim quotedText _ (ofText_eq_ok_iff.mpr read_quotedText)
    ⟨1, 0⟩ "p" quotedAttributes .paired List.mem_cons_self quotedTitle List.mem_cons_self _ rfl
  have hcut : readAttributes .start [] (findAttributes " title=\"say \"hi\"\"".toList) =
      .ok [⟨⟨1, 1⟩, "title", .literal "say "⟩, ⟨⟨1, 13⟩, "hi", .bare⟩] := rfl
  cases hcut.symm.trans hread
  exact absurd (congrArg List.length hmap) (by decide)

end Component

end LivePreview
