import LivePreview.Proofs.BodyText
import LivePreview.Proofs.Division
import LivePreview.Proofs.Heading
import LivePreview.Proofs.Markup
import LivePreview.Proofs.Nesting

/-!
# Two braces in a row

Two braces begin an output. They may also stand inside an output or a comment, in the expressions of
a parameter line, in an attribute that is an expression and in the name of an attribute. Anywhere
else a source with two braces in a row is refused, so that no text and no literal value in a tree
shows the beginning of an output. The lexemes decide this one by one, because no two of them meet
between two braces, not even where the directive lines between them are taken out.
-/

namespace LivePreview

namespace Template

open Text (behind? cut? isBlank isWord occurs)

/-! ## Covered characters -/

/-- Characters, each with whether it belongs to an output, a comment, another expression or the name
of an attribute. -/
abbrev Cover := List (Char × Bool)

def bare (cs : List Char) : Cover := cs.map (·, false)

def covered (cs : List Char) : Cover := cs.map (·, true)

/-- Only covered characters are two braces in a row. -/
def BothCovered (c d : Char × Bool) : Prop :=
  c.1 = '\x7b' → d.1 = '\x7b' → c.2 = true ∧ d.2 = true

def QuotedValue.cover (v : QuotedValue) : Cover :=
  bare (v.before ++ '=' :: v.behind ++ [v.quote]) ++
    ((if (wholeExpression? v.text).isSome then covered v.text else bare v.text) ++ bare [v.quote])

def AttributeText.cover (a : AttributeText) : Cover :=
  bare a.gap ++ (covered a.name ++
    match a.value with
    | some v => v.cover
    | none => [])

/-- The cover of a parameter line with the arguments `args`. -/
def ParamLine.cover (args : List Char) (line : ParamLine) : Cover :=
  match line.hint, line.default with
  | none, none => bare args
  | some hint, none => bare hint.before ++ covered hint.text
  | none, some default => bare default.before ++ covered default.text
  | some hint, some default =>
    bare hint.before ++ (covered hint.text ++ (bare ['='] ++ covered default.text))

/-- The characters of a lexeme with their cover. -/
def Lexeme.cover : Lexeme → Cover
  | .text cs => bare cs
  | .directive indent .param args ended =>
    bare (indent ++ '@' :: DirectiveKind.param.word) ++
      (((paramLine? args).elim (bare args) (·.cover args)) ++ bare (if ended then ['\n'] else []))
  | .directive indent .module args ended => bare (Lexeme.directive indent .module args ended).chars
  | .comment body => covered (Lexeme.comment body).chars
  | .output body => covered (Lexeme.output body).chars
  | .closeTag name blanks => bare (Lexeme.closeTag name blanks).chars
  | .openTag name attributes blanks slash =>
    bare ('<' :: name) ++
      (attributes.flatMap AttributeText.cover ++ bare (blanks ++ tagEndChars slash))

section Covers

variable {cs : List Char} {xs ys : Cover}

@[simp] theorem map_fst_bare (cs : List Char) : (bare cs).map Prod.fst = cs := by
  simp [bare, Function.comp_def]

@[simp] theorem map_fst_covered (cs : List Char) : (covered cs).map Prod.fst = cs := by
  simp [covered, Function.comp_def]

theorem isChain_covered (cs : List Char) : (covered cs).IsChain BothCovered := by
  rw [covered, List.isChain_map]
  exact List.Pairwise.isChain (List.pairwise_of_forall fun _ _ _ _ => ⟨rfl, rfl⟩)

/-- Bare text is as it should be where it has no mark of an output. -/
theorem isChain_bare_iff : (bare cs).IsChain BothCovered ↔ occurs ['\x7b', '\x7b'] cs = false := by
  induction cs with
  | nil => simp [bare, occurs]
  | cons c cs ih =>
    rw [occurs, Bool.or_eq_false_iff, ← ih, bare, List.map_cons, List.isChain_cons, ← bare]
    refine and_congr_left fun _ => ?_
    cases cs with
    | nil => simp [bare, List.isPrefixOf]
    | cons d cs =>
      simp only [bare, BothCovered, List.map_cons, List.head?_cons, Option.mem_some_iff, forall_eq',
        Bool.false_eq_true, and_self, List.isPrefixOf, Bool.and_true]
      grind

theorem occurs_of_notMem (h : '\x7b' ∉ cs) : occurs ['\x7b', '\x7b'] cs = false := by
  induction cs with
  | nil => rfl
  | cons c cs ih =>
    obtain ⟨hc, hcs⟩ := not_or.mp fun hor => h (List.mem_cons.mpr hor)
    rw [occurs, ih hcs, Bool.or_false, List.isPrefixOf, beq_eq_false_iff_ne.mpr hc, Bool.false_and]

theorem isChain_bare (h : '\x7b' ∉ cs) : (bare cs).IsChain BothCovered :=
  isChain_bare_iff.mpr (occurs_of_notMem h)

/-- Text without braces may stand before anything. -/
theorem isChain_bare_append (h : '\x7b' ∉ cs) (hys : ys.IsChain BothCovered) :
    (bare cs ++ ys).IsChain BothCovered := by
  refine (isChain_bare h).append hys fun x hx y _ hbrace => absurd ?_ h
  obtain ⟨c, hc, rfl⟩ := List.mem_map.mp (List.mem_of_mem_getLast? hx)
  exact hbrace ▸ hc

/-- Anything may stand before what begins with no brace. -/
theorem isChain_append_of_head (hxs : xs.IsChain BothCovered) (hys : ys.IsChain BothCovered)
    (hhead : ∀ y ∈ ys.head?, y.1 ≠ '\x7b') : (xs ++ ys).IsChain BothCovered :=
  hxs.append hys fun _ _ y hy _ hbrace => absurd hbrace (hhead y hy)

theorem head_bare_append (hcs : cs ≠ []) (h : '\x7b' ∉ cs) (ys : Cover) :
    ∀ y ∈ (bare cs ++ ys).head?, y.1 ≠ '\x7b' := by
  obtain ⟨c, cs, rfl⟩ := List.exists_cons_of_ne_nil hcs
  intro y hy hbrace
  cases hy
  exact h (hbrace ▸ List.mem_cons_self)

end Covers

/-! ## What the readers find -/

/-- What is found at the beginning of a text, and the text behind it. -/
inductive Found (lineStart : Bool) (cs : List Char) : Lexeme → List Char → Prop
  | unended {indent args : List Char} {kind : DirectiveKind} : lineStart = true →
      '\x7b' ∉ indent → Found lineStart cs (.directive indent kind args false) []
  | ended {indent args rest : List Char} {kind : DirectiveKind} : lineStart = true →
      '\x7b' ∉ indent → Found lineStart cs (.directive indent kind args true) rest
  | comment {body rest : List Char} : Found lineStart cs (.comment body) rest
  | output {body rest : List Char} : output? cs = some (.output body, rest) →
      Found lineStart cs (.output body) rest
  | closeTag {name blanks rest : List Char} : '\x7b' ∉ name → '\x7b' ∉ blanks →
      Found lineStart cs (.closeTag name blanks) rest
  | openTag {name blanks rest : List Char} {attributes : List AttributeText} {slash : Bool} :
      '\x7b' ∉ name → '\x7b' ∉ blanks → Found lineStart cs (.openTag name attributes blanks slash) rest

theorem brace_notMem {p : Char → Bool} (hp : p '\x7b' = false) {cs : List Char}
    (h : ∀ c ∈ cs, p c = true) : '\x7b' ∉ cs := fun hmem =>
  Bool.false_ne_true (hp.symm.trans (h _ hmem))

theorem brace_notMem_takeWhile {p : Char → Bool} (hp : p '\x7b' = false) (cs : List Char) :
    '\x7b' ∉ cs.takeWhile p :=
  brace_notMem hp (forall_mem_takeWhile cs)

theorem isBlank_brace : isBlank '\x7b' = false := by decide

theorem brace_notMem_blanks {cs : List Char} (h : ∀ c ∈ cs, isBlank c = true) : '\x7b' ∉ cs :=
  brace_notMem isBlank_brace h

theorem isWord_brace : isWord '\x7b' = false := by decide +kernel

theorem isTagChar_brace : isTagChar '\x7b' = false := by
  simp [isTagChar, isWord_brace]

theorem brace_notMem_word (kind : DirectiveKind) : '\x7b' ∉ kind.word := by
  cases kind <;> decide

theorem brace_notMem_tagName {cs name rest : List Char} (h : tagName? cs = some (name, rest)) :
    '\x7b' ∉ name := by
  cases cs with
  | nil => cases h
  | cons c cs =>
    rw [tagName?] at h
    split at h
    · next hletter =>
      obtain ⟨rfl, -⟩ := Prod.mk.inj (Option.some.inj h)
      rintro (_ | ⟨_, hmem⟩)
      · exact absurd hletter (by decide)
      · exact brace_notMem_takeWhile isTagChar_brace _ hmem
    · cases h

section Finding

variable {lineStart : Bool} {cs rest : List Char} {l m : Lexeme}

theorem found_of_lexeme? (h : lexeme? lineStart cs = some (l, rest)) :
    Found lineStart cs l rest := by
  unfold lexeme? at h
  simp only [Option.orElse_eq_orElse, Option.orElse_eq_or, Option.or_eq_some_iff] at h
  rcases h with h | ⟨-, h | ⟨-, h | ⟨-, h | ⟨-, h⟩⟩⟩⟩
  · split at h
    · next hstart =>
      obtain ⟨_, -, h⟩ := Option.bind_eq_some_iff.mp h
      obtain ⟨⟨kind, behind⟩, -, h⟩ := Option.bind_eq_some_iff.mp h
      dsimp only at h
      split at h
      · cases h
        exact .unended hstart (brace_notMem_takeWhile (by decide) cs)
      · cases h
        exact .ended hstart (brace_notMem_takeWhile (by decide) cs)
    · cases h
  · obtain ⟨_, -, h⟩ := Option.bind_eq_some_iff.mp h
    obtain ⟨_, -, h⟩ := Option.bind_eq_some_iff.mp h
    cases h
    exact .comment
  · have hfound := h
    obtain ⟨_, -, h⟩ := Option.bind_eq_some_iff.mp h
    obtain ⟨_, -, h⟩ := Option.bind_eq_some_iff.mp h
    cases h
    exact .output hfound
  · obtain ⟨_, -, h⟩ := Option.bind_eq_some_iff.mp h
    obtain ⟨⟨name, afterName⟩, hname, h⟩ := Option.bind_eq_some_iff.mp h
    obtain ⟨_, -, h⟩ := Option.bind_eq_some_iff.mp h
    cases h
    exact .closeTag (brace_notMem_tagName hname) (brace_notMem_takeWhile isBlank_brace _)
  · obtain ⟨_, -, h⟩ := Option.bind_eq_some_iff.mp h
    obtain ⟨⟨name, afterName⟩, hname, h⟩ := Option.bind_eq_some_iff.mp h
    obtain ⟨⟨slash, behind⟩, -, h⟩ := Option.bind_eq_some_iff.mp h
    cases h
    exact .openTag (brace_notMem_tagName hname) (brace_notMem_takeWhile isBlank_brace _)

/-- Only the last lexeme of a text may end with a brace, unless it is text. -/
theorem Found.eq_nil (h : Found lineStart cs l rest) (hlast : l.chars.getLast? = some '\x7b') :
    rest = [] := by
  cases h with
  | unended _ _ => rfl
  | openTag _ _ =>
    rename_i slash _ _
    cases slash <;> simp [Lexeme.chars, List.getLast?_cons] at hlast
  | _ => simp [Lexeme.chars, List.getLast?_cons] at hlast

theorem Found.lineStart_eq (h : Found lineStart cs l rest) (hl : l.isDirective = true) :
    lineStart = true := by
  cases h with
  | unended hstart _ => exact hstart
  | ended hstart _ => exact hstart
  | _ => cases hl

/-- Of what the readers find, only an output begins with a brace. -/
theorem Found.output?_isSome (h : Found lineStart cs l rest)
    (hhead : l.chars.head? = some '\x7b') : (output? cs).isSome := by
  have hindent {indent : List Char} {kind : DirectiveKind} {args : List Char} {ended : Bool}
      (h : '\x7b' ∉ indent)
      (hhead : (Lexeme.directive indent kind args ended).chars.head? = some '\x7b') : False := by
    cases indent with
    | nil => cases hhead
    | cons c indent =>
      cases hhead
      exact h List.mem_cons_self
  cases h with
  | unended _ h => exact (hindent h hhead).elim
  | ended _ h => exact (hindent h hhead).elim
  | output h => exact h ▸ rfl
  | _ => simp [Lexeme.chars] at hhead

/-- A brace before an output begins an output itself. -/
theorem output?_cons_isSome (h : (output? cs).isSome) : (output? ('\x7b' :: cs)).isSome := by
  obtain ⟨found, h⟩ := Option.isSome_iff_exists.mp h
  obtain ⟨inner, hopen, h⟩ := Option.bind_eq_some_iff.mp h
  obtain ⟨⟨body, behind⟩, hcut, -⟩ := Option.bind_eq_some_iff.mp h
  have hcons : cut? ['\x7d', '\x7d'] ('\x7b' :: inner) = some ('\x7b' :: body, behind) := by
    rw [cut?, if_neg (by simp), hcut, Option.map_some]
  have hbehind := Text.behind?_append ['\x7b', '\x7b'] ('\x7b' :: inner)
  rw [← Text.behind?_eq_some hopen]
  change (output? (['\x7b', '\x7b'] ++ '\x7b' :: inner)).isSome
  rw [output?, hbehind]
  simp [hcons]

/-- No brace stands in the indent, the name or the closing blanks of a lexeme. -/
def Lexeme.Framed : Lexeme → Prop
  | .directive indent _ _ _ => '\x7b' ∉ indent
  | .closeTag name blanks => '\x7b' ∉ name ∧ '\x7b' ∉ blanks
  | .openTag name _ blanks _ => '\x7b' ∉ name ∧ '\x7b' ∉ blanks
  | _ => True

theorem framed_lexemes (cs : List Char) : ∀ l ∈ lexemes cs, l.Framed := by
  refine forall_mem_lexemes (fun _ _ => trivial) (fun lineStart cs l rest h => ?_) cs
  cases found_of_lexeme? h with
  | unended _ hindent => exact hindent
  | ended _ hindent => exact hindent
  | closeTag hname hblanks => exact ⟨hname, hblanks⟩
  | openTag hname hblanks => exact ⟨hname, hblanks⟩
  | _ => trivial

/-- What stands first in a list of lexemes and is no text was found. -/
theorem exists_lexeme?_of_head {rounds : Nat} {ls : List Lexeme}
    (h : lexemesFrom rounds lineStart cs = m :: ls) (hm : ∀ ds, m ≠ .text ds) :
    ∃ rest, lexeme? lineStart cs = some (m, rest) := by
  unfold lexemesFrom at h
  split at h
  · cases h
  · cases h
    exact absurd rfl (hm _)
  · split at h
    · next l rest hl =>
      cases h
      exact ⟨rest, hl⟩
    · unfold consText at h
      split at h
      · cases h
        exact absurd rfl (hm _)
      · cases h
        exact absurd rfl (hm _)

theorem ne_nil_of_head_text {rounds : Nat} {ds : List Char} {ls : List Lexeme}
    (h : lexemesFrom rounds lineStart cs = .text ds :: ls) : ds ≠ [] := by
  unfold lexemesFrom at h
  split at h
  · cases h
  · next hcs =>
    cases h
    exact hcs
  · split at h
    · next l rest hl =>
      cases h
      exact chars_ne_nil_of_lexeme? hl
    · unfold consText at h
      split at h
      · cases h
        exact List.cons_ne_nil _ _
      · cases h
        exact List.cons_ne_nil _ _

/-! ## Where lexemes meet -/

/-- Two braces never stand on both sides of where two lexemes meet. -/
def Lexeme.BraceApart (l m : Lexeme) : Prop :=
  l.chars.getLast? = some '\x7b' → m.chars.head? ≠ some '\x7b'

/-- One lexeme may follow another: no braces meet, and a directive stands at the start of a line. -/
structure Lexeme.Meets (l m : Lexeme) : Prop where
  apart : l.BraceApart m
  line : m.isDirective = true → l.endsLine = true

theorem meets_of_found {rounds : Nat} {ls : List Lexeme} (hl : lexeme? lineStart cs = some (l, rest))
    (hls : lexemesFrom rounds l.endsLine rest = m :: ls) : l.Meets m := by
  constructor
  · intro hlast
    rw [(found_of_lexeme? hl).eq_nil hlast, lexemesFrom] at hls
    cases hls
  · intro hm
    obtain ⟨_, hfound⟩ := exists_lexeme?_of_head hls fun ds heq => by cases heq ▸ hm
    exact (found_of_lexeme? hfound).lineStart_eq hm

theorem meets_of_text {rounds : Nat} {c : Char} {ls : List Lexeme}
    (hnone : lexeme? lineStart (c :: cs) = none)
    (hls : lexemesFrom rounds (c = '\n') cs = m :: ls) (hm : ∀ ds, m ≠ .text ds) :
    (Lexeme.text [c]).Meets m := by
  obtain ⟨rest, hfound⟩ := exists_lexeme?_of_head hls hm
  constructor
  · intro hlast hhead
    obtain rfl : c = '\x7b' := by simpa [Lexeme.chars] using hlast
    have hsome := output?_cons_isSome ((found_of_lexeme? hfound).output?_isSome hhead)
    unfold lexeme? at hnone
    simp only [Option.orElse_eq_orElse, Option.orElse_eq_or, Option.or_eq_none_iff] at hnone
    rw [hnone.2.2.1] at hsome
    cases hsome
  · intro hdirective
    have hline := (found_of_lexeme? hfound).lineStart_eq hdirective
    simpa [Lexeme.endsLine, Lexeme.chars] using hline

theorem isChain_lexemesFrom (rounds : Nat) : ∀ (lineStart : Bool) (cs : List Char),
    (lexemesFrom rounds lineStart cs).IsChain Lexeme.Meets := by
  induction rounds with
  | zero =>
    intro lineStart cs
    cases cs with
    | nil => exact .nil
    | cons c cs => exact .singleton _
  | succ rounds ih =>
    intro lineStart cs
    cases cs with
    | nil => exact .nil
    | cons c cs =>
      rw [lexemesFrom]
      split
      · next l rest hl =>
        refine (ih _ _).cons fun m hm => ?_
        obtain ⟨ls, hls⟩ : ∃ ls, lexemesFrom rounds l.endsLine rest = m :: ls :=
          ⟨_, (List.cons_head?_tail hm).symm⟩
        exact meets_of_found hl hls
      · next hnone =>
        have hchain := ih (c = '\n') cs
        cases hls : lexemesFrom rounds (c = '\n') cs with
        | nil => exact .singleton _
        | cons m ls =>
          rw [hls] at hchain
          unfold consText
          split
          · next ds others heq =>
            -- The text only grows at its front, so that it meets the same lexeme as before.
            cases heq
            obtain ⟨d, ds, rfl⟩ := List.exists_cons_of_ne_nil (ne_nil_of_head_text hls)
            rw [List.isChain_cons] at hchain ⊢
            refine ⟨fun k hk => ?_, hchain.2⟩
            have hmeets := hchain.1 k hk
            have hlast : (Lexeme.text (c :: d :: ds)).chars.getLast? =
                (Lexeme.text (d :: ds)).chars.getLast? := List.getLast?_cons_cons
            exact ⟨fun h => hmeets.apart (hlast ▸ h), fun hk => by
              rw [Lexeme.endsLine, hlast]
              exact hmeets.line hk⟩
          · next hm =>
            exact hchain.cons_cons (meets_of_text hnone hls fun ds heq => hm ds ls (heq ▸ rfl))

end Finding

/-- Nor do braces meet where the directive lines are taken out. -/
theorem isChain_filter_lexemes {ls : List Lexeme} (h : ls.IsChain Lexeme.Meets) :
    (ls.filter (!·.isDirective)).IsChain Lexeme.BraceApart := by
  have hnext {l : Lexeme} : ∀ {ls : List Lexeme}, (l :: ls).IsChain Lexeme.Meets →
      ∀ m ∈ (ls.filter (!·.isDirective)).head?, l.BraceApart m := by
    intro ls h m hm
    cases ls with
    | nil => cases hm
    | cons k ls =>
      have hmeets := (List.isChain_cons_cons.mp h).1
      cases hk : k.isDirective with
      | true =>
        -- The line break before the directive keeps the braces apart.
        have hline := hmeets.line hk
        intro hlast
        rw [Lexeme.endsLine, hlast] at hline
        exact absurd hline (by decide)
      | false =>
        rw [List.filter_cons_of_pos (by simp [hk])] at hm
        cases hm
        exact hmeets.apart
  induction ls with
  | nil => exact .nil
  | cons l ls ih =>
    have htail := ih h.tail
    rw [List.filter_cons]
    split
    · exact htail.cons (hnext h)
    · exact htail

/-! ## The cover of a lexeme -/

section Lines

variable {name args : List Char} {line : ParamLine}

/-- Only the expressions of a parameter line have braces in a row, and no characters are lost. -/
theorem cover_paramLine (h : paramLine? args = some line) :
    (line.cover args).map Prod.fst = args ∧ (line.cover args).IsChain BothCovered ∧
      '\x7b' ∉ line.name := by
  obtain ⟨before, c, word, rest, rfl, -, hbefore, hstart, hword, hdivides⟩ :=
    divides_of_paramLine? h
  have hname : '\x7b' ∉ c :: word := by
    refine not_or.mpr ⟨?_, brace_notMem isWord_brace hword⟩ ∘ List.mem_cons.mp
    rintro rfl
    exact absurd hstart (by decide)
  have hfront := brace_notMem_blanks hbefore
  rw [hdivides.name_eq]
  cases hdivides with
  | name hblank =>
    refine ⟨map_fst_bare _, isChain_bare ?_, hname⟩
    simp only [List.mem_append, not_or]
    exact ⟨hfront, hname, brace_notMem_blanks hblank⟩
  | hint hblank _ _ =>
    refine ⟨by simp [ParamLine.cover], isChain_bare_append ?_ (isChain_covered _), hname⟩
    simp only [List.mem_append, not_or]
    exact ⟨⟨⟨hfront, hname⟩, brace_notMem_blanks hblank⟩, by simp⟩
  | default hblank _ =>
    refine ⟨by simp [ParamLine.cover], isChain_bare_append ?_ (isChain_covered _), hname⟩
    simp only [List.mem_append, not_or]
    exact ⟨⟨⟨hfront, hname⟩, brace_notMem_blanks hblank⟩, by simp⟩
  | both hblank _ _ _ =>
    refine ⟨by simp [ParamLine.cover], isChain_bare_append ?_ <| isChain_append_of_head
      (isChain_covered _) (isChain_bare_append (by simp) (isChain_covered _)) ?_, hname⟩
    · simp only [List.mem_append, not_or]
      exact ⟨⟨⟨hfront, hname⟩, brace_notMem_blanks hblank⟩, by simp⟩
    · simp [bare]

theorem brace_notMem_moduleLine (h : moduleLine? args = some name) :
    '\x7b' ∉ args ∧ '\x7b' ∉ name := by
  unfold moduleLine? at h
  extract_lets trimmed found behind segments at h
  split at h
  · next hline =>
    have hfound : '\x7b' ∉ found := brace_notMem_takeWhile (by simp [isWord_brace]) trimmed
    refine ⟨?_, Option.some.inj h ▸ hfound⟩
    simp only [Bool.and_eq_true] at hline
    have hbehind : '\x7b' ∉ behind := brace_notMem_blanks (List.all_eq_true.mp hline.1.2)
    have hgap : '\x7b' ∉ args.takeWhile isBlank := brace_notMem_takeWhile isBlank_brace args
    rw [← List.takeWhile_append_dropWhile (p := isBlank) (l := args),
      ← List.takeWhile_append_dropWhile (p := fun c => isWord c || c = '.')
        (l := args.dropWhile isBlank)]
    simp only [List.mem_append, not_or]
    exact ⟨hgap, hfound, hbehind⟩
  · cases h

end Lines

theorem cover_attribute {a : AttributeText} (ha : a.Proper) (hsound : a.isSound = true) :
    a.cover.IsChain BothCovered := by
  have hgap : '\x7b' ∉ a.gap := brace_notMem_blanks ha.gap
  refine isChain_bare_append hgap ?_
  unfold AttributeText.isSound at hsound
  split at hsound
  · next hvalue =>
    rw [hvalue, List.append_nil]
    exact isChain_covered _
  · next v hvalue =>
    have hv := ha.value v hvalue
    have hquote : '\x7b' ∉ [v.quote] := by
      rcases hv.quote with h | h <;> rw [h] <;> decide
    have hfront : '\x7b' ∉ v.before ++ '=' :: v.behind ++ [v.quote] := by
      simpa [brace_notMem_blanks hv.before, brace_notMem_blanks hv.behind] using hquote
    rw [hvalue]
    refine isChain_append_of_head (isChain_covered _) (isChain_bare_append hfront ?_)
      (head_bare_append (by simp) hfront _)
    refine isChain_append_of_head ?_ (isChain_bare hquote) (by simpa [bare, eq_comm] using hquote)
    split
    · exact isChain_covered _
    · next hwhole =>
      rw [Option.not_isSome_iff_eq_none.mp hwhole] at hsound
      exact isChain_bare_iff.mpr (by simpa using hsound)

/-- The attributes of a tag with what follows them. -/
theorem cover_attributes {as : List AttributeText} (has : ∀ a ∈ as, a.Proper)
    (hsound : ∀ a ∈ as, a.isSound = true) {cs : List Char} (hcs : cs ≠ []) (h : '\x7b' ∉ cs) :
    (as.flatMap AttributeText.cover ++ bare cs).IsChain BothCovered ∧
      ∀ c ∈ (as.flatMap AttributeText.cover ++ bare cs).head?, c.1 ≠ '\x7b' := by
  induction as with
  | nil => exact ⟨isChain_bare h, by simpa using head_bare_append hcs h []⟩
  | cons a as ih =>
    obtain ⟨ha, has⟩ := List.forall_mem_cons.mp has
    obtain ⟨hfirst, hsound⟩ := List.forall_mem_cons.mp hsound
    obtain ⟨hchain, hhead⟩ := ih has hsound
    rw [List.flatMap_cons, List.append_assoc]
    refine ⟨isChain_append_of_head (cover_attribute ha hfirst) hchain hhead, ?_⟩
    rw [AttributeText.cover, List.append_assoc]
    exact head_bare_append ha.apart (brace_notMem_blanks ha.gap) _

theorem map_fst_cover (l : Lexeme) : l.cover.map Prod.fst = l.chars := by
  cases l with
  | directive indent kind args ended =>
    cases kind with
    | param =>
      have hargs : ((paramLine? args).elim (bare args) (·.cover args)).map Prod.fst = args := by
        cases hline : paramLine? args with
        | none => exact map_fst_bare args
        | some line => exact (cover_paramLine hline).1
      simp [Lexeme.cover, Lexeme.chars, hargs]
    | module => exact map_fst_bare _
  | openTag name attributes blanks slash =>
    have hattributes : (attributes.flatMap AttributeText.cover).map Prod.fst =
        attributeChars attributes := by
      rw [List.map_flatMap, attributeChars]
      congr 1
      funext a
      obtain ⟨gap, name, value⟩ := a
      cases value with
      | none => simp [AttributeText.cover, AttributeText.chars]
      | some v =>
        have hv : v.cover.map Prod.fst = v.chars := by
          unfold QuotedValue.cover
          split <;> simp [QuotedValue.chars]
        simp [AttributeText.cover, AttributeText.chars, hv]
    simp [Lexeme.cover, Lexeme.chars, hattributes, tagEndChars]
  | text cs => exact map_fst_bare _
  | comment body => exact map_fst_covered _
  | output body => exact map_fst_covered _
  | closeTag name blanks => exact map_fst_bare _

/-- A lexeme with nothing wrong has two braces in a row only where they are covered. -/
theorem isChain_cover {l : Lexeme} (hframed : l.Framed) (hproper : l.Proper)
    (hsound : l.isSound = true) : l.cover.IsChain BothCovered := by
  cases l with
  | text cs => exact isChain_bare_iff.mpr (by simpa [Lexeme.isSound] using hsound)
  | comment body => exact isChain_covered _
  | output body => exact isChain_covered _
  | closeTag name blanks =>
    exact isChain_bare (by simp [Lexeme.chars, hframed.1, hframed.2])
  | openTag name attributes blanks slash =>
    have hend : '\x7b' ∉ blanks ++ tagEndChars slash := by
      cases slash <;> simp [hframed.2, tagEndChars]
    simp only [Lexeme.isSound, Bool.and_eq_true, List.all_eq_true] at hsound
    exact isChain_bare_append (by simp [hframed.1])
      (cover_attributes hproper hsound.1.2 (by cases slash <;> simp [tagEndChars]) hend).1
  | directive indent kind args ended =>
    have hindent : '\x7b' ∉ indent := hframed
    cases kind with
    | param =>
      have hfront : '\x7b' ∉ indent ++ '@' :: DirectiveKind.param.word := by
        simp [brace_notMem_word, hindent]
      cases hline : paramLine? args with
      | none =>
        rw [Lexeme.isSound, hline] at hsound
        cases hsound
      | some line =>
        rw [Lexeme.cover, hline, Option.elim_some]
        refine isChain_bare_append hfront
          (isChain_append_of_head (cover_paramLine hline).2.1 (isChain_bare ?_) ?_)
        · cases ended <;> simp
        · cases ended <;> simp [bare]
    | module =>
      obtain ⟨name, hname⟩ := Option.isSome_iff_exists.mp hsound
      refine isChain_bare ?_
      cases ended <;>
        simp [Lexeme.chars, brace_notMem_word, hindent, (brace_notMem_moduleLine hname).1]

section Declarations

variable {place : Position} {l : Lexeme} {e : Effect}

theorem brace_notMem_param (h : l.effect place = .ok e) :
    ∀ p ∈ e.params, '\x7b' ∉ p.name.toList := by
  intro p hp
  cases yields_of_effect h with
  | param hread =>
    obtain ⟨line, hint, default, hline, -, -, -, rfl⟩ := readParam_eq_ok_iff.mp hread
    rw [List.mem_singleton.mp hp, String.toList_ofList]
    exact (cover_paramLine hline).2.2
  | openTag _ _ =>
    rw [(declarations_tagEffect ..).1] at hp
    exact absurd hp List.not_mem_nil
  | _ => exact absurd hp List.not_mem_nil

theorem brace_notMem_using (h : l.effect place = .ok e) :
    ∀ u ∈ e.usings, '\x7b' ∉ u.module.toList := by
  intro u hu
  cases yields_of_effect h with
  | module hread =>
    unfold readUsing at hread
    split at hread
    · cases hread
    · next name hname =>
      cases hread
      rw [List.mem_singleton.mp hu, String.toList_ofList]
      exact (brace_notMem_moduleLine hname).2
  | openTag _ _ =>
    rw [(declarations_tagEffect ..).2] at hu
    exact absurd hu List.not_mem_nil
  | _ => exact absurd hu List.not_mem_nil

end Declarations

/-! ## Text of a tree -/

/-- A text is put together from lexemes that are kept. -/
def MadeOf (text : String) (pieces : List Lexeme) : Prop :=
  (∀ l ∈ pieces, l.isKept = true) ∧ text.toList = pieces.flatMap Lexeme.chars

/-- All text that a walk meets is made of lexemes in a row, and the last visit, if it is to text, of
the last of them. -/
structure Pieced (done : List Lexeme) (vs : List Visit) : Prop where
  inside : ∀ place text, .data place text ∈ vs → ∃ pieces, pieces <:+: done ∧ MadeOf text pieces
  last : ∀ place text, vs.getLast? = some (.data place text) →
    ∃ pieces, pieces <:+ done ∧ MadeOf text pieces

/-- Text that comes last is made of the last lexemes. -/
theorem Pieced.snoc {done pieces : List Lexeme} {vs : List Visit} {l : Lexeme} {text : String}
    (hinside : ∀ place text, .data place text ∈ vs →
      ∃ pieces, pieces <:+: done ∧ MadeOf text pieces)
    (hpieces : pieces <:+ done ++ [l]) (hmade : MadeOf text pieces) (place : Position) :
    Pieced (done ++ [l]) (vs ++ [.data place text]) := by
  constructor
  · intro here found hfound
    rcases List.mem_append.mp hfound with hfound | hfound
    · obtain ⟨others, hothers, hmadeOf⟩ := hinside here found hfound
      exact ⟨others, hothers.trans (List.prefix_append _ _).isInfix, hmadeOf⟩
    · cases List.mem_singleton.mp hfound
      exact ⟨pieces, hpieces.isInfix, hmade⟩
  · intro here found hfound
    rw [List.getLast?_concat] at hfound
    cases hfound
    exact ⟨pieces, hpieces, hmade⟩

theorem Pieced.join {done : List Lexeme} {vs : List Visit} (h : Pieced done vs) {l : Lexeme}
    (hl : l.isKept = true) (place : Position) :
    Pieced (done ++ [l]) (Visit.join vs (.data place (String.ofList l.chars))) := by
  rcases Visit.join_cases vs (.data place (String.ofList l.chars)) with
    ⟨others, first, text, other, more, rfl, hmore, heq⟩ | ⟨heq, -⟩
  · cases hmore
    obtain ⟨pieces, ⟨front, rfl⟩, hpieces, htext⟩ := h.last first text (by simp)
    have hmade : MadeOf (text ++ String.ofList l.chars) (pieces ++ [l]) :=
      ⟨by simpa [or_imp, forall_and, hl] using hpieces, by simp [htext]⟩
    rw [heq]
    exact .snoc (fun here found hfound => h.inside here found (List.mem_append_left _ hfound))
      ⟨front, by simp⟩ hmade first
  · rw [heq]
    have hone : MadeOf (String.ofList l.chars) [l] := ⟨by simp [hl], by simp⟩
    exact .snoc h.inside (List.suffix_append _ _) hone place

theorem Pieced.append {done : List Lexeme} {vs : List Visit} (h : Pieced done vs) (l : Lexeme)
    {ws : List Visit} (hws : ws ≠ []) (hdata : ∀ w ∈ ws, w.isData = false) :
    Pieced (done ++ [l]) (vs ++ ws) := by
  constructor
  · intro place text hmem
    rcases List.mem_append.mp hmem with hmem | hmem
    · obtain ⟨pieces, hpieces, hmade⟩ := h.inside place text hmem
      exact ⟨pieces, hpieces.trans (List.prefix_append _ _).isInfix, hmade⟩
    · cases hdata _ hmem
  · intro place text hlast
    rw [List.getLast?_append_of_ne_nil _ hws] at hlast
    cases hdata _ (List.mem_of_getLast? hlast)

theorem visits_ne_nil_of_effect {place : Position} {l : Lexeme} {e : Effect}
    (h : l.effect place = .ok e) (hl : l.isDirective = false) : e.visits ≠ [] := by
  cases yields_of_effect h with
  | param _ => cases hl
  | module _ => cases hl
  | openTag _ _ =>
    rw [visits_tagEffect]
    exact List.cons_ne_nil _ _
  | _ => exact List.cons_ne_nil _ _

theorem visits_of_directive {place : Position} {l : Lexeme} {e : Effect}
    (h : l.effect place = .ok e) (hl : l.isDirective = true) : e.visits = [] := by
  cases yields_of_effect h with
  | param _ => rfl
  | module _ => rfl
  | _ => cases hl

theorem pieced_effects {ls : List Lexeme} : ∀ {place : Position} {es : List Effect}
    {done : List Lexeme} {vs : List Visit}, effects place ls = .ok es → Pieced done vs →
      Pieced (done ++ ls.filter (!·.isDirective))
        ((es.flatMap Effect.visits).foldl Visit.join vs) := by
  induction ls with
  | nil =>
    intro place es done vs h hvs
    cases h
    simpa using hvs
  | cons l ls ih =>
    intro place es done vs h hvs
    obtain ⟨e, others, he, hothers, rfl⟩ := effects_cons_eq_ok h
    rw [List.flatMap_cons, List.foldl_append]
    cases hdirective : l.isDirective with
    | true =>
      rw [List.filter_cons_of_neg (by simp [hdirective]), visits_of_directive he hdirective]
      exact ih hothers hvs
    | false =>
      rw [List.filter_cons_of_pos (by simp [hdirective]), List.append_cons]
      refine ih hothers ?_
      cases hkept : l.isKept with
      | true =>
        rw [effect_of_kept he hkept]
        exact hvs.join hkept place
      | false =>
        have hdata := not_isData_of_effect he hkept
        rw [Visit.foldl_join_of_not_data hdata]
        exact hvs.append l (visits_ne_nil_of_effect he hdirective) hdata

/-! ## Whole sources -/

theorem sound_of_effects {ls : List Lexeme} (hproper : ∀ l ∈ ls, l.Proper) :
    ∀ {place : Position} {es : List Effect}, effects place ls = .ok es →
      ∀ l ∈ ls, l.isSound = true := by
  induction ls with
  | nil => exact fun _ l hl => absurd hl List.not_mem_nil
  | cons l ls ih =>
    intro place es h
    obtain ⟨hl, hls⟩ := List.forall_mem_cons.mp hproper
    obtain ⟨e, others, he, hothers, -⟩ := effects_cons_eq_ok h
    exact List.forall_mem_cons.mpr ⟨(exists_effect_iff hl).mp ⟨e, he⟩, ih hls hothers⟩

/-- Sound lexemes between which no braces meet have two braces in a row only where they are
covered. -/
theorem isChain_flatMap_cover {ls : List Lexeme} (hls : ∀ l ∈ ls, l.cover.IsChain BothCovered)
    (hne : ∀ l ∈ ls, l.chars ≠ []) (hapart : ls.IsChain Lexeme.BraceApart) :
    (ls.flatMap Lexeme.cover).IsChain BothCovered := by
  have hnil : [] ∉ ls.map Lexeme.cover := by
    intro h
    obtain ⟨l, hl, hcover⟩ := List.mem_map.mp h
    refine hne l hl ?_
    rw [← map_fst_cover, hcover, List.map_nil]
  rw [List.flatMap_def, List.isChain_flatten hnil, List.isChain_map]
  refine ⟨by simpa using hls, hapart.imp fun l m h c hc d hd hbrace hother => absurd ?_ (h ?_)⟩
  · rw [← map_fst_cover, List.head?_map, hd, Option.map_some, hother]
  · rw [← map_fst_cover, List.getLast?_map, hc, Option.map_some, hbrace]

/-- The characters of a source with their cover. -/
def sourceCover (cs : List Char) : Cover := (lexemes cs).flatMap Lexeme.cover

/-- Where a source is read, two braces in a row stand in outputs, comments, expressions of parameter
lines, attributes that are expressions, and names of attributes, and nowhere else: any other two
braces have the source refused. In the tree, each text is made of text and comments that follow one
another, directive lines apart, and has two braces in a row only inside a comment; no name of an
element, no literal value, no name of a parameter and no module has any. -/
theorem braces_covered_of_read {source : String} {filename : Option String} {t : Template}
    (h : ofText source filename = .ok t) :
    ((sourceCover source.toList).map Prod.fst = source.toList ∧
        (sourceCover source.toList).IsChain BothCovered) ∧
      (∀ place text, .data place text ∈ bodyVisits t.body → ∃ pieces,
        pieces <:+: (lexemes source.toList).filter (!·.isDirective) ∧ MadeOf text pieces ∧
          (pieces.flatMap Lexeme.cover).IsChain BothCovered) ∧
      (∀ place name attributes closing, .enter place name attributes closing ∈ bodyVisits t.body →
        '\x7b' ∉ name.toList ∧ ∀ a ∈ attributes, ∀ text, a.value = .literal text →
          occurs ['\x7b', '\x7b'] text.toList = false) ∧
      (∀ p ∈ t.params, '\x7b' ∉ p.name.toList) ∧ ∀ u ∈ t.usings, '\x7b' ∉ u.module.toList := by
  have hread := ofText_eq_ok_iff.mp h
  have hproper := proper_lexemes source.toList
  have hframed := framed_lexemes source.toList
  have hne := chars_ne_nil_of_mem_lexemes source.toList
  have hmeets : (lexemes source.toList).IsChain Lexeme.Meets := isChain_lexemesFrom ..
  obtain ⟨es, hes, hvisits⟩ := visits_of_read hread
  have hcover : ∀ l ∈ lexemes source.toList, l.cover.IsChain BothCovered := fun l hl =>
    isChain_cover (hframed l hl) (hproper l hl) (sound_of_effects hproper hes l hl)
  refine ⟨⟨?_, isChain_flatMap_cover hcover hne (hmeets.imp fun _ _ h => h.apart)⟩,
    fun place text hv => ?_, fun place name attributes closing hv => ⟨?_, fun a ha text hvalue => ?_⟩,
    fun p hp => ?_, fun u hu => ?_⟩
  · rw [sourceCover, List.map_flatMap]
    simp only [map_fst_cover]
    exact flatMap_chars_lexemes source.toList
  · have hempty : Pieced [] [] := ⟨nofun, nofun⟩
    rw [hvisits] at hv
    obtain ⟨pieces, hpieces, hmade⟩ := (pieced_effects hes hempty).inside place text hv
    rw [List.nil_append] at hpieces
    have hmem : ∀ l ∈ pieces, l ∈ lexemes source.toList := fun l hl =>
      List.mem_of_mem_filter (hpieces.subset hl)
    have happart : pieces.IsChain Lexeme.BraceApart := by
      obtain ⟨front, behind, hsplit⟩ := hpieces
      exact (hsplit ▸ isChain_filter_lexemes hmeets).left_of_append.right_of_append
    exact ⟨pieces, hpieces, hmade, isChain_flatMap_cover (fun l hl => hcover l (hmem l hl))
      (fun l hl => hne l (hmem l hl)) happart⟩
  · obtain ⟨tag, as, blanks, slash, here, htag, rfl, -⟩ := exists_tag_of_enter hread hv
    rw [String.toList_ofList]
    exact (hframed _ htag).1
  · obtain ⟨tag, as, blanks, slash, here, htag, -, hattributes⟩ := exists_tag_of_enter hread hv
    obtain ⟨raw, hraw, hname, hwritten, hsound⟩ := exists_text_of_attribute hattributes ha
    exact (readable_of_text (hproper _ htag raw hraw) hname hwritten hsound).unmarked text hvalue
  · obtain ⟨es, hes, hparams, -⟩ := declarations_of_read hread
    rw [hparams] at hp
    obtain ⟨e, he, hp⟩ := List.mem_flatMap.mp hp
    obtain ⟨l, -, here, heffect⟩ := exists_effect_of_mem hes e he
    exact brace_notMem_param heffect p hp
  · obtain ⟨es, hes, -, husings⟩ := declarations_of_read hread
    rw [husings] at hu
    obtain ⟨e, he, hu⟩ := List.mem_flatMap.mp hu
    obtain ⟨l, -, here, heffect⟩ := exists_effect_of_mem hes e he
    exact brace_notMem_using heffect u hu

/-- A page with braces in a default, a comment, an attribute that is an expression and an output, and
single ones in text and a value. -/
def bracedPage : String :=
  "@param x = \"\x7b\x7b\"\n<!-- \x7b\x7b -->" ++
    "<p k=\"\x7b\x7b x \x7d\x7d\" l='\x7b'>\x7b \x7b\x7b x \x7d\x7d</p>"

theorem braces_covered_of_read_bracedPage : ∃ t, ofText bracedPage none = .ok t ∧
    (sourceCover bracedPage.toList).IsChain BothCovered ∧
    bodyText t.body = "<!-- \x7b\x7b -->\x7b ".toList ∧
    ∀ place text, .data place text ∈ bodyVisits t.body → ∃ pieces, MadeOf text pieces ∧
      (pieces.flatMap Lexeme.cover).IsChain BothCovered := by
  obtain ⟨t, ht, htext⟩ := exists_of_map_eq_some bracedPage
    (f := fun t => bodyText t.body) (b := "<!-- \x7b\x7b -->\x7b ".toList) (by decide +kernel) none
  obtain ⟨⟨-, hsource⟩, hdata, -⟩ := braces_covered_of_read ht
  refine ⟨t, ht, hsource, htext, fun place text hv => ?_⟩
  obtain ⟨pieces, -, hmade, hchain⟩ := hdata place text hv
  exact ⟨pieces, hmade, hchain⟩

/-- A parameter line with braces in its default. -/
def bracedDefault : String := "@param x = \"\x7b\x7b\""

/-- Not only outputs, comments and attributes of a source that is read have braces in a row. -/
theorem braces_not_only_in_body :
    ¬ ∀ (source : String) (t : Template), ofText source none = .ok t → ∀ p ∈ t.params,
      ∀ e, p.default = some e → occurs ['\x7b', '\x7b'] e.source.toList = false := by
  intro hclaim
  obtain ⟨t, ht, hdefaults⟩ := exists_of_map_eq_some bracedDefault
    (f := fun t => t.params.map fun p => p.default.map (·.source))
    (b := [some "\"\x7b\x7b\""]) (by decide +kernel) none
  obtain ⟨p, hp, hdefault⟩ : ∃ p ∈ t.params, p.default.map (·.source) = some "\"\x7b\x7b\"" :=
    List.mem_map.mp (hdefaults ▸ List.mem_singleton_self _)
  obtain ⟨e, he, hsource⟩ := Option.map_eq_some_iff.mp hdefault
  have hfree := hclaim bracedDefault t ht p hp e he
  rw [hsource] at hfree
  exact absurd hfree (by decide)

end Template

end LivePreview
