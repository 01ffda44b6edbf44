import LivePreview.Template.Attribute

/-!
# Lexemes make up their text

Every reader of the lexer takes a piece from the front of a text and leaves the rest, and the two
together are the text. So the lexemes of a text, put together, are the text, and what is found in one
of them stands in the text. How the text is divided is not said here.
-/

namespace LivePreview

namespace Text

theorem behind?_eq_some {mark cs rest : List Char} (h : behind? mark cs = some rest) :
    mark ++ rest = cs := by
  unfold behind? at h
  split at h
  · next hmark =>
    obtain ⟨tail, rfl⟩ := List.isPrefixOf_iff_prefix.mp hmark
    rw [List.drop_left] at h
    rw [Option.some.inj h]
  · cases h

theorem cut?_eq_some {mark before behind : List Char} : ∀ {cs : List Char},
    cut? mark cs = some (before, behind) → before ++ (mark ++ behind) = cs := by
  intro cs
  induction cs generalizing before with
  | nil =>
    intro h
    cases h
  | cons c cs ih =>
    intro h
    unfold cut? at h
    split at h
    · next hmark =>
      obtain ⟨tail, htail⟩ := List.isPrefixOf_iff_prefix.mp hmark
      cases h
      rw [← htail, List.drop_left, List.nil_append]
    · obtain ⟨⟨first, rest⟩, hcut, heq⟩ := Option.map_eq_some_iff.mp h
      cases heq
      rw [List.cons_append, ih hcut]

end Text

namespace Template

open LivePreview.Text (behind?_eq_some cut?_eq_some isBlank)

/-! ## Pieces of tags -/

theorem tagName?_eq_some {cs name rest : List Char} (h : tagName? cs = some (name, rest)) :
    name ++ rest = cs := by
  cases cs with
  | nil => cases h
  | cons c cs =>
    rw [tagName?] at h
    split at h
    · obtain ⟨rfl, rfl⟩ := Prod.mk.inj (Option.some.inj h)
      rw [List.cons_append, List.takeWhile_append_dropWhile]
    · cases h

theorem quotedValue?_eq_some {cs rest : List Char} {v : QuotedValue}
    (h : quotedValue? cs = some (v, rest)) : v.chars ++ rest = cs := by
  obtain ⟨afterSign, hsign, h⟩ := Option.bind_eq_some_iff.mp h
  split at h
  · cases h
  · next quote quoted hquote =>
    split at h
    · obtain ⟨⟨text, behind⟩, hcut, h⟩ := Option.bind_eq_some_iff.mp h
      cases h
      have hchars : (QuotedValue.mk (cs.takeWhile isBlank) (afterSign.takeWhile isBlank) quote
          text).chars ++ rest = cs.takeWhile isBlank ++ (['='] ++ (afterSign.takeWhile isBlank ++
            quote :: (text ++ ([quote] ++ rest)))) := by
        simp [QuotedValue.chars]
      rw [hchars, cut?_eq_some hcut, ← hquote, List.takeWhile_append_dropWhile,
        behind?_eq_some hsign, List.takeWhile_append_dropWhile]
    · cases h

theorem attributeText?_eq_some {cs rest : List Char} {a : AttributeText}
    (h : attributeText? cs = some (a, rest)) : a.chars ++ rest = cs := by
  unfold attributeText? at h
  extract_lets trimmed name behind at h
  have hname : name ++ behind = trimmed := List.takeWhile_append_dropWhile
  have hall : cs.takeWhile isBlank ++ trimmed = cs := List.takeWhile_append_dropWhile
  split at h
  · cases h
  · split at h
    · next value rest' hvalue =>
      obtain ⟨rfl, rfl⟩ := Prod.mk.inj (Option.some.inj h)
      rw [AttributeText.chars, List.append_assoc, quotedValue?_eq_some hvalue, List.append_assoc,
        hname, hall]
    · obtain ⟨rfl, rfl⟩ := Prod.mk.inj (Option.some.inj h)
      rw [AttributeText.chars, List.append_nil, List.append_assoc, hname, hall]

theorem attributeTexts_eq (rounds : Nat) : ∀ {cs rest : List Char} {as : List AttributeText},
    attributeTexts rounds cs = (as, rest) → attributeChars as ++ rest = cs := by
  induction rounds with
  | zero =>
    intro cs rest as h
    cases h
    rfl
  | succ rounds ih =>
    intro cs rest as h
    unfold attributeTexts at h
    split at h
    · cases h
      rfl
    · next a behind hfirst =>
      obtain ⟨rfl, rfl⟩ := Prod.mk.inj h
      rw [attributeChars, List.flatMap_cons, List.append_assoc]
      exact (congrArg _ (ih rfl)).trans (attributeText?_eq_some hfirst)

/-- The characters that end an opening tag. -/
def tagEndChars (slash : Bool) : List Char := if slash then ['/', '>'] else ['>']

theorem tagEnd?_eq_some {cs rest : List Char} {slash : Bool} (h : tagEnd? cs = some (slash, rest)) :
    tagEndChars slash ++ rest = cs := by
  unfold tagEnd? at h
  split at h
  · cases h
    rfl
  · cases h
    rfl
  · cases h

theorem directiveKind?_eq_some {cs rest : List Char} {kind : DirectiveKind}
    (h : directiveKind? cs = some (kind, rest)) : kind.word ++ rest = cs := by
  obtain ⟨_, k, _, -, h, -⟩ := List.findSome?_eq_some_iff.mp h
  obtain ⟨behind, hword, h⟩ := Option.bind_eq_some_iff.mp h
  split at h
  · cases h
  · cases h
    exact behind?_eq_some hword

/-! ## Lexemes -/

variable {cs rest : List Char} {l : Lexeme}

theorem directive?_eq_some (h : directive? cs = some (l, rest)) : l.chars ++ rest = cs := by
  obtain ⟨line, hmark, h⟩ := Option.bind_eq_some_iff.mp h
  obtain ⟨⟨kind, behind⟩, hword, h⟩ := Option.bind_eq_some_iff.mp h
  have hfront : cs.takeWhile isIndent ++ (['@'] ++ (kind.word ++ behind)) = cs := by
    rw [directiveKind?_eq_some hword, behind?_eq_some hmark, List.takeWhile_append_dropWhile]
  have hargs : behind.takeWhile (· ≠ '\n') ++ behind.dropWhile (· ≠ '\n') = behind :=
    List.takeWhile_append_dropWhile
  dsimp only at h
  split at h
  · next hend =>
    obtain ⟨rfl, rfl⟩ := Prod.mk.inj (Option.some.inj h)
    rw [hend, List.append_nil] at hargs
    rw [List.append_nil, Lexeme.chars, hargs]
    simpa using hfront
  · next newline more hend =>
    obtain ⟨rfl, rfl⟩ := Prod.mk.inj (Option.some.inj h)
    have hnewline : newline = '\n' := by
      have hhead := List.head?_dropWhile_not (fun c : Char => decide (c ≠ '\n')) behind
      rw [hend] at hhead
      simpa using hhead
    rw [hend, hnewline] at hargs
    rw [← hargs] at hfront
    simpa [Lexeme.chars] using hfront

theorem comment?_eq_some (h : comment? cs = some (l, rest)) : l.chars ++ rest = cs := by
  obtain ⟨inner, hopen, h⟩ := Option.bind_eq_some_iff.mp h
  obtain ⟨⟨body, behind⟩, hcut, h⟩ := Option.bind_eq_some_iff.mp h
  obtain ⟨rfl, rfl⟩ := Prod.mk.inj (Option.some.inj h)
  rw [← behind?_eq_some hopen, ← cut?_eq_some hcut]
  simp [Lexeme.chars]

theorem output?_eq_some (h : output? cs = some (l, rest)) : l.chars ++ rest = cs := by
  obtain ⟨inner, hopen, h⟩ := Option.bind_eq_some_iff.mp h
  obtain ⟨⟨body, behind⟩, hcut, h⟩ := Option.bind_eq_some_iff.mp h
  obtain ⟨rfl, rfl⟩ := Prod.mk.inj (Option.some.inj h)
  rw [← behind?_eq_some hopen, ← cut?_eq_some hcut]
  simp [Lexeme.chars]

theorem closeTag?_eq_some (h : closeTag? cs = some (l, rest)) : l.chars ++ rest = cs := by
  obtain ⟨inner, hopen, h⟩ := Option.bind_eq_some_iff.mp h
  obtain ⟨⟨name, afterName⟩, hname, h⟩ := Option.bind_eq_some_iff.mp h
  obtain ⟨behind, hclose, h⟩ := Option.bind_eq_some_iff.mp h
  obtain ⟨rfl, rfl⟩ := Prod.mk.inj (Option.some.inj h)
  have hchars : (Lexeme.closeTag name (afterName.takeWhile isBlank)).chars ++ behind =
      ['<', '/'] ++ (name ++ (afterName.takeWhile isBlank ++ (['>'] ++ behind))) := by
    simp [Lexeme.chars]
  rw [hchars, behind?_eq_some hclose, List.takeWhile_append_dropWhile, tagName?_eq_some hname,
    behind?_eq_some hopen]

theorem openTag?_eq_some (h : openTag? cs = some (l, rest)) : l.chars ++ rest = cs := by
  obtain ⟨inner, hopen, h⟩ := Option.bind_eq_some_iff.mp h
  obtain ⟨⟨name, afterName⟩, hname, h⟩ := Option.bind_eq_some_iff.mp h
  obtain ⟨⟨attributes, afterAttributes⟩, hattributes⟩ :
    ∃ found, attributeTexts afterName.length afterName = found := ⟨_, rfl⟩
  simp only [hattributes] at h
  obtain ⟨⟨slash, behind⟩, hend, h⟩ := Option.bind_eq_some_iff.mp h
  obtain ⟨rfl, rfl⟩ := Prod.mk.inj (Option.some.inj h)
  have hchars : (Lexeme.openTag name attributes (afterAttributes.takeWhile isBlank) slash).chars ++
      behind = ['<'] ++ (name ++ (attributeChars attributes ++
        (afterAttributes.takeWhile isBlank ++ (tagEndChars slash ++ behind)))) := by
    simp [Lexeme.chars, tagEndChars]
  rw [hchars, tagEnd?_eq_some hend, List.takeWhile_append_dropWhile,
    attributeTexts_eq _ hattributes, tagName?_eq_some hname, behind?_eq_some hopen]

/-- A lexeme is read by one of the five readers. -/
theorem lexeme?_cases {lineStart : Bool} (h : lexeme? lineStart cs = some (l, rest)) :
    directive? cs = some (l, rest) ∨ comment? cs = some (l, rest) ∨ output? cs = some (l, rest) ∨
      closeTag? cs = some (l, rest) ∨ openTag? cs = some (l, rest) := by
  have hdirective (h : (if lineStart then directive? cs else none) = some (l, rest)) :
      directive? cs = some (l, rest) := by
    split at h
    · exact h
    · cases h
  unfold lexeme? at h
  simp only [Option.orElse_eq_orElse, Option.orElse_eq_or, Option.or_eq_some_iff] at h
  rcases h with h | ⟨-, h | ⟨-, h | ⟨-, h | ⟨-, h⟩⟩⟩⟩
  · exact .inl (hdirective h)
  · exact .inr (.inl h)
  · exact .inr (.inr (.inl h))
  · exact .inr (.inr (.inr (.inl h)))
  · exact .inr (.inr (.inr (.inr h)))

/-- Only the reader of opening tags finds one. -/
theorem openTag?_of_lexeme? {lineStart : Bool} {name blanks : List Char} {as : List AttributeText}
    {slash : Bool} (h : lexeme? lineStart cs = some (.openTag name as blanks slash, rest)) :
    openTag? cs = some (.openTag name as blanks slash, rest) := by
  rcases lexeme?_cases h with h | h | h | h | h
  · obtain ⟨_, -, h⟩ := Option.bind_eq_some_iff.mp h
    obtain ⟨⟨kind, behind⟩, -, h⟩ := Option.bind_eq_some_iff.mp h
    dsimp only at h
    split at h <;> cases h
  · obtain ⟨_, -, h⟩ := Option.bind_eq_some_iff.mp h
    obtain ⟨_, -, h⟩ := Option.bind_eq_some_iff.mp h
    cases h
  · obtain ⟨_, -, h⟩ := Option.bind_eq_some_iff.mp h
    obtain ⟨_, -, h⟩ := Option.bind_eq_some_iff.mp h
    cases h
  · obtain ⟨_, -, h⟩ := Option.bind_eq_some_iff.mp h
    obtain ⟨_, -, h⟩ := Option.bind_eq_some_iff.mp h
    obtain ⟨_, -, h⟩ := Option.bind_eq_some_iff.mp h
    cases h
  · exact h

/-- A lexeme and the text behind it are the text that it was read from. -/
theorem lexeme?_eq_some {lineStart : Bool} (h : lexeme? lineStart cs = some (l, rest)) :
    l.chars ++ rest = cs := by
  rcases lexeme?_cases h with h | h | h | h | h
  · exact directive?_eq_some h
  · exact comment?_eq_some h
  · exact output?_eq_some h
  · exact closeTag?_eq_some h
  · exact openTag?_eq_some h

theorem chars_ne_nil_of_lexeme? {lineStart : Bool} (h : lexeme? lineStart cs = some (l, rest)) :
    l.chars ≠ [] := by
  rcases lexeme?_cases h with h | h | h | h | h
  · obtain ⟨_, -, h⟩ := Option.bind_eq_some_iff.mp h
    obtain ⟨⟨kind, behind⟩, -, h⟩ := Option.bind_eq_some_iff.mp h
    dsimp only at h
    split at h <;> cases h <;> simp [Lexeme.chars]
  · obtain ⟨_, -, h⟩ := Option.bind_eq_some_iff.mp h
    obtain ⟨_, -, h⟩ := Option.bind_eq_some_iff.mp h
    cases h
    simp [Lexeme.chars]
  · obtain ⟨_, -, h⟩ := Option.bind_eq_some_iff.mp h
    obtain ⟨_, -, h⟩ := Option.bind_eq_some_iff.mp h
    cases h
    simp [Lexeme.chars]
  · obtain ⟨_, -, h⟩ := Option.bind_eq_some_iff.mp h
    obtain ⟨_, -, h⟩ := Option.bind_eq_some_iff.mp h
    obtain ⟨_, -, h⟩ := Option.bind_eq_some_iff.mp h
    cases h
    simp [Lexeme.chars]
  · obtain ⟨_, -, h⟩ := Option.bind_eq_some_iff.mp h
    obtain ⟨_, -, h⟩ := Option.bind_eq_some_iff.mp h
    obtain ⟨_, -, h⟩ := Option.bind_eq_some_iff.mp h
    cases h
    simp [Lexeme.chars]

/-- A lexeme that is found takes at least one character. -/
theorem length_lt_of_lexeme? {lineStart : Bool} (h : lexeme? lineStart cs = some (l, rest)) :
    rest.length < cs.length := by
  have hlength := congrArg List.length (lexeme?_eq_some h)
  rw [List.length_append] at hlength
  have := List.length_pos_iff.mpr (chars_ne_nil_of_lexeme? h)
  omega

theorem flatMap_chars_consText (c : Char) (ls : List Lexeme) :
    (consText c ls).flatMap Lexeme.chars = c :: ls.flatMap Lexeme.chars := by
  unfold consText
  split
  · rfl
  · rfl

theorem flatMap_chars_lexemesFrom (rounds : Nat) : ∀ (lineStart : Bool) (cs : List Char),
    (lexemesFrom rounds lineStart cs).flatMap Lexeme.chars = cs := by
  induction rounds with
  | zero =>
    intro lineStart cs
    cases cs with
    | nil => rfl
    | cons c cs => exact List.append_nil _
  | succ rounds ih =>
    intro lineStart cs
    cases cs with
    | nil => rfl
    | cons c cs =>
      rw [lexemesFrom]
      split
      · next l rest hl => rw [List.flatMap_cons, ih, lexeme?_eq_some hl]
      · rw [flatMap_chars_consText, ih]

/-- The lexemes of a text make up the text. -/
theorem flatMap_chars_lexemes (cs : List Char) : (lexemes cs).flatMap Lexeme.chars = cs :=
  flatMap_chars_lexemesFrom cs.length true cs

theorem mem_of_mem_lexemes {cs : List Char} {l : Lexeme} (hl : l ∈ lexemes cs) {c : Char}
    (hc : c ∈ l.chars) : c ∈ cs := by
  rw [← flatMap_chars_lexemes cs]
  exact List.mem_flatMap.mpr ⟨l, hl, hc⟩

/-- What holds of text that is not empty and of all that the readers find holds of every lexeme. -/
theorem forall_mem_lexemes {P : Lexeme → Prop} (htext : ∀ c cs, P (.text (c :: cs)))
    (hfound : ∀ lineStart cs l rest, lexeme? lineStart cs = some (l, rest) → P l)
    (cs : List Char) : ∀ l ∈ lexemes cs, P l := by
  have hcons (c : Char) (ls : List Lexeme) (h : ∀ l ∈ ls, P l) : ∀ l ∈ consText c ls, P l := by
    unfold consText
    split
    · exact List.forall_mem_cons.mpr ⟨htext _ _, (List.forall_mem_cons.mp h).2⟩
    · exact List.forall_mem_cons.mpr ⟨htext _ _, h⟩
  have hall (rounds : Nat) : ∀ (lineStart : Bool) (cs : List Char),
      ∀ l ∈ lexemesFrom rounds lineStart cs, P l := by
    induction rounds with
    | zero =>
      intro lineStart cs
      cases cs with
      | nil => exact fun l hl => absurd hl List.not_mem_nil
      | cons c cs =>
        exact List.forall_mem_cons.mpr ⟨htext c cs, fun l hl => absurd hl List.not_mem_nil⟩
    | succ rounds ih =>
      intro lineStart cs
      cases cs with
      | nil => exact fun l hl => absurd hl List.not_mem_nil
      | cons c cs =>
        rw [lexemesFrom]
        split
        · next l rest hl => exact List.forall_mem_cons.mpr ⟨hfound _ _ l rest hl, ih _ _⟩
        · exact hcons c _ (ih _ _)
  exact hall cs.length true cs

theorem chars_ne_nil_of_mem_lexemes (cs : List Char) : ∀ l ∈ lexemes cs, l.chars ≠ [] :=
  forall_mem_lexemes (P := fun l => l.chars ≠ []) (fun c cs => List.cons_ne_nil c cs)
    (fun _ _ _ _ h => chars_ne_nil_of_lexeme? h) cs

/-! ## Attributes in the text of a tag -/

theorem nextAttribute?_eq_some {a : AttributeText} (h : nextAttribute? cs = some (a, rest)) :
    a.chars ++ rest = cs := by
  unfold nextAttribute? at h
  extract_lets gap found name behind at h
  have hname : name ++ behind = found := List.takeWhile_append_dropWhile
  have hall : gap ++ found = cs := List.takeWhile_append_dropWhile
  split at h
  · cases h
  · split at h
    · next value rest' hvalue =>
      obtain ⟨rfl, rfl⟩ := Prod.mk.inj (Option.some.inj h)
      rw [AttributeText.chars, List.append_assoc, quotedValue?_eq_some hvalue, List.append_assoc,
        hname, hall]
    · obtain ⟨rfl, rfl⟩ := Prod.mk.inj (Option.some.inj h)
      rw [AttributeText.chars, List.append_nil, List.append_assoc, hname, hall]

theorem exists_behind_findAttributesIn (rounds : Nat) : ∀ cs : List Char,
    ∃ behind, (findAttributesIn rounds cs).flatMap AttributeText.chars ++ behind = cs := by
  induction rounds with
  | zero => exact fun cs => ⟨cs, rfl⟩
  | succ rounds ih =>
    intro cs
    rw [findAttributesIn]
    split
    · exact ⟨cs, rfl⟩
    · next a rest ha =>
      obtain ⟨behind, hbehind⟩ := ih rest
      refine ⟨behind, ?_⟩
      rw [List.flatMap_cons, List.append_assoc, hbehind, nextAttribute?_eq_some ha]

/-- What stands in an attribute that is found stands in the text it is found in. -/
theorem mem_of_mem_findAttributes {cs : List Char} {a : AttributeText} (ha : a ∈ findAttributes cs)
    {c : Char} (hc : c ∈ a.chars) : c ∈ cs := by
  obtain ⟨behind, hbehind⟩ := exists_behind_findAttributesIn cs.length cs
  rw [← hbehind]
  exact List.mem_append_left _ (List.mem_flatMap.mpr ⟨a, ha, hc⟩)

end Template

end LivePreview
