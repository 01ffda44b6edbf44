import LivePreview.Proofs.Dotted
import LivePreview.Proofs.Literal

/-!
# Cutting printed text

A piece of printed text is cut into the same tokens wherever it stands, as long as what follows it
does not go on with its last token. Pieces with this property are put one behind the other, with
blanks between them or none. Brackets are followed on the side: tokens that leave them as they were
do so among fewer brackets as well.
-/

namespace LivePreview.Code

open LivePreview.Text (Points isIdentifier isKeyword)

/-! ## Brackets -/

/-- The brackets after these tokens, unless they get out of balance. -/
def Layout.follow : Layout → List Token → Option Layout
  | l, [] => some l
  | l, .symbol s :: ts => (l.bracket s).bind fun l => l.follow ts
  | l, _ :: ts => l.follow ts

namespace Layout

@[simp] theorem follow_nil (l : Layout) : l.follow [] = some l := by rw [follow]

theorem follow_append (l : Layout) (ts us : List Token) :
    l.follow (ts ++ us) = (l.follow ts).bind fun l => l.follow us := by
  induction ts generalizing l with
  | nil => rw [List.nil_append, follow_nil, Option.bind_some]
  | cons t ts ih =>
    cases t with
    | symbol s =>
      rw [List.cons_append, follow, follow, Option.bind_assoc]
      exact congrArg _ (funext fun l => ih l)
    | _ => exact ih l

end Layout

/-- The tokens leave the brackets as they were, and do so among fewer brackets too. -/
def Balanced (ts : List Token) : Prop :=
  ∀ l l' : Layout, l.follow ts = some l' →
    ∀ m : Layout, m.brackets.length ≤ l.brackets.length → m.follow ts = some m

namespace Balanced

theorem nil : Balanced [] := fun _ _ _ m _ => m.follow_nil

theorem append {ts us : List Token} (h : Balanced ts) (h' : Balanced us) :
    Balanced (ts ++ us) := by
  intro l l' hl m hm
  rw [Layout.follow_append] at hl ⊢
  obtain ⟨between, hts, hus⟩ := Option.bind_eq_some_iff.mp hl
  have hbetween : between = l := by
    rw [h l between hts l (Nat.le_refl _)] at hts
    exact (Option.some.inj hts).symm
  rw [h l between hts m hm, Option.bind_some]
  exact h' between l' hus m (by rwa [hbetween])

/-- A token that is no bracket. -/
theorem single {t : Token} (ht : ∀ s, t = .symbol s → opens s = false ∧ opener? s = none) :
    Balanced [t] := by
  intro l l' _ m _
  cases t with
  | symbol s =>
    obtain ⟨hopens, hopener⟩ := ht s rfl
    simp [Layout.follow, Layout.bracket, hopens, hopener]
  | _ => rfl

theorem cons {t : Token} (ht : ∀ s, t = .symbol s → opens s = false ∧ opener? s = none)
    {ts : List Token} (h : Balanced ts) : Balanced (t :: ts) := (single ht).append h

/-- Tokens between two brackets that belong together. -/
theorem bracketed {o c : String} {b : Char} (ho : opens o = true) (hb : o.toList = [b])
    (hc : opens c = false) (hcb : opener? c = some b) {ts : List Token} (h : Balanced ts) :
    Balanced (.symbol o :: (ts ++ [.symbol c])) := by
  intro l l' hl m hm
  have hopen (n : Layout) (hn : n.brackets.length < bracketLimit) :
      n.bracket o = some { n with brackets := b :: n.brackets } := by
    rw [Layout.bracket, if_pos ho, if_neg (Nat.not_le.mpr hn), hb]
    rfl
  have hclose (n : Layout) :
      Layout.bracket { n with brackets := b :: n.brackets } c = some n := by
    simp [Layout.bracket, hc, hcb]
  have hlimit : l.brackets.length < bracketLimit := by
    refine Nat.lt_of_not_le fun hlimit => ?_
    rw [Layout.follow, Layout.bracket, if_pos ho, if_pos hlimit] at hl
    cases hl
  rw [Layout.follow, hopen l hlimit, Option.bind_some, Layout.follow_append] at hl
  obtain ⟨inner, hinner, -⟩ := Option.bind_eq_some_iff.mp hl
  rw [Layout.follow, hopen m (Nat.lt_of_le_of_lt hm hlimit), Option.bind_some,
    Layout.follow_append, h _ _ hinner { m with brackets := b :: m.brackets }
      (Nat.succ_le_succ hm), Option.bind_some, Layout.follow, hclose m, Option.bind_some,
    Layout.follow_nil]

end Balanced

/-! ## Pieces of text and their tokens -/

/-- Nothing is cut off in front of the character before the next token begins. -/
def Begins (c : Char) : Prop := isSpace c = false ∧ c ≠ '\n' ∧ c ≠ '#' ∧ c ≠ '\\'

instance : DecidablePred Begins := fun _ => inferInstanceAs (Decidable (_ ∧ _))

/-- A token takes one round. -/
theorem tokensFrom_nextToken {c : Char} {cs rest : List Char} {token : Token} (hc : Begins c)
    (hnext : nextToken (c :: cs) = some (token, rest)) (rounds : Nat) (l : Layout)
    (found : List Token) :
    tokensFrom (rounds + 1) l false found (c :: cs) =
      (l.follow [token]).bind fun l => tokensFrom rounds l false (token :: found) rest := by
  obtain ⟨hspace, hline, hhash, hslash⟩ := hc
  rw [tokensFrom, List.dropWhile_cons_of_neg (by simp [hspace])]
  split
  · next h => cases h
  · next h => exact absurd (List.cons.inj h).1 hline
  · next h => exact absurd (List.cons.inj h).1 hhash
  · next h => exact absurd (List.cons.inj h).1 hslash
  · next h => exact absurd (List.cons.inj h).1 hslash
  · simp only [hnext, Option.bind_eq_bind, Option.bind_some]
    cases token with
    | symbol s => simp only [Layout.follow, Option.bind_fun_some]
    | _ => simp only [Layout.follow, Option.bind_some]

/-- A blank takes no round of its own. -/
theorem tokensFrom_space (rounds : Nat) (l : Layout) (found : List Token) (cs : List Char) :
    tokensFrom rounds l false found (' ' :: cs) = tokensFrom rounds l false found cs := by
  cases rounds with
  | zero => rfl
  | succ rounds => rw [tokensFrom, tokensFrom, List.dropWhile_cons_of_pos (by decide)]

/-- The text is cut into these tokens wherever nothing follows it, or a character of which `P`
holds. -/
structure Cut (P : Char → Prop) (cs : List Char) (ts : List Token) : Prop where
  clean : ∀ c ∈ cs, ¬ NeverWritten c
  length_le : ts.length ≤ cs.length
  tokens_eq (rounds : Nat) (l : Layout) (found : List Token) (rest : List Char) :
    (∀ c ∈ rest.head?, P c) →
      tokensFrom (rounds + ts.length) l false found (cs ++ rest) =
        (l.follow ts).bind fun l => tokensFrom rounds l false (ts.reverse ++ found) rest

namespace Cut

variable {P Q : Char → Prop} {cs ds : List Char} {ts us : List Token}

theorem nil : Cut P [] [] where
  clean := fun _ h => absurd h List.not_mem_nil
  length_le := Nat.le_refl 0
  tokens_eq := fun _ l _ _ _ => by rw [Layout.follow_nil, Option.bind_some]; rfl

theorem mono (h : Cut P cs ts) (hPQ : ∀ c, Q c → P c) : Cut Q cs ts where
  clean := h.clean
  length_le := h.length_le
  tokens_eq := fun rounds l found rest hrest =>
    h.tokens_eq rounds l found rest fun c hc => hPQ c (hrest c hc)

/-- One piece after another, if the first may end where the second begins. -/
theorem append {c : Char} (h : Cut P cs ts) (hc : P c) (h' : Cut Q (c :: ds) us) :
    Cut Q (cs ++ c :: ds) (ts ++ us) where
  clean := List.forall_mem_append.mpr ⟨h.clean, h'.clean⟩
  length_le := by
    have hts := h.length_le
    have hus := h'.length_le
    rw [List.length_append, List.length_append]
    omega
  tokens_eq := by
    intro rounds l found rest hrest
    have hnext : ∀ d ∈ (c :: ds ++ rest).head?, P d := by
      intro d hd
      cases hd
      exact hc
    have hrounds : rounds + (ts ++ us).length = rounds + us.length + ts.length := by
      rw [List.length_append]
      omega
    rw [hrounds, List.append_assoc, h.tokens_eq _ l found _ hnext, Layout.follow_append,
      Option.bind_assoc]
    congr 1
    funext l
    rw [h'.tokens_eq rounds l _ rest hrest, List.reverse_append, List.append_assoc]

theorem space (h : Cut P cs ts) : Cut P (' ' :: cs) ts where
  clean := List.forall_mem_cons.mpr ⟨by decide, h.clean⟩
  length_le := Nat.le_succ_of_le h.length_le
  tokens_eq := by
    intro rounds l found rest hrest
    rw [List.cons_append, tokensFrom_space]
    exact h.tokens_eq rounds l found rest hrest

/-- A piece that is one token. -/
theorem single {c : Char} {token : Token} (hc : Begins c) (hclean : ∀ d ∈ c :: cs, ¬ NeverWritten d)
    (hnext : ∀ rest : List Char, (∀ d ∈ rest.head?, P d) →
      nextToken (c :: (cs ++ rest)) = some (token, rest)) :
    Cut P (c :: cs) [token] where
  clean := hclean
  length_le := Nat.succ_le_succ (Nat.zero_le _)
  tokens_eq := fun rounds l found rest hrest =>
    tokensFrom_nextToken hc (hnext rest hrest) rounds l found

end Cut

/-! ## Symbols -/

/-- The character does not go on with the symbol. -/
def apart (s : String) (c : Char) : Bool :=
  !(s.toList ++ [c]).isPrefixOf ['<', '>'] && !(s = "." && isDecimal c) &&
    symbols.all fun t => !(s.toList ++ [c]).isPrefixOf t.toList

theorem isPrefixOf_append_cons {t s : List Char} {c : Char} (rest : List Char)
    (h : (s ++ [c]).isPrefixOf t = false) : t.isPrefixOf (s ++ c :: rest) = t.isPrefixOf s := by
  induction s generalizing t with
  | nil =>
    cases t with
    | nil => rfl
    | cons d t =>
      have hdc : (d == c) = false := by
        rw [List.nil_append, List.isPrefixOf, List.isPrefixOf_nil_left, Bool.and_true] at h
        rwa [Bool.beq_comm]
      simp [List.isPrefixOf, hdc]
  | cons e s ih =>
    cases t with
    | nil => rfl
    | cons d t =>
      rw [List.cons_append, List.isPrefixOf] at h
      rw [List.cons_append, List.isPrefixOf, List.isPrefixOf]
      by_cases hde : d = e
      · rw [hde, BEq.rfl, Bool.true_and] at h
        rw [ih h]
      · rw [beq_false_of_ne hde, Bool.false_and, Bool.false_and]

theorem literalStart_of_head {c : Char} (hname : isNameStart c = false) (hs : c ≠ '\'')
    (hd : c ≠ '"') (cs : List Char) : literalStart (c :: cs) = none := by
  have hmarks : ((c :: cs).take 2).takeWhile isNameStart = [] := by
    rw [List.take_succ_cons, List.takeWhile_cons_of_neg (by simp [hname])]
  unfold literalStart
  simp only [hmarks, List.length_nil, List.drop_zero]
  rw [if_neg (by simp [hs, hd])]

theorem find?_congr {α : Type} {p q : α → Bool} {xs : List α} (h : ∀ x ∈ xs, p x = q x) :
    xs.find? p = xs.find? q := by
  induction xs with
  | nil => rfl
  | cons x xs ih =>
    obtain ⟨hx, hxs⟩ := List.forall_mem_cons.mp h
    rw [List.find?_cons, List.find?_cons, hx, ih hxs]

theorem symbolStart_append {s : String} (hs : s ∈ symbols) {rest : List Char}
    (hrest : ∀ c ∈ rest.head?, apart s c = true) :
    symbolStart (s.toList ++ rest) = some (s, rest) := by
  have halone : ∀ t ∈ symbols, (['<', '>'].isPrefixOf t.toList = false) ∧
      symbols.find? (fun u => u.toList.isPrefixOf t.toList) = some t ∧
        t.toList.length = t.length := by
    decide +kernel
  obtain ⟨hpair, hfind, hlength⟩ := halone s hs
  have hdrop : (s.toList ++ rest).drop s.length = rest := by
    rw [← hlength, List.drop_left]
  cases rest with
  | nil =>
    rw [List.append_nil] at hdrop ⊢
    rw [symbolStart, hpair, if_neg (by decide), hfind, Option.map_some, hdrop]
  | cons c rest =>
    have hc := hrest c rfl
    rw [apart, Bool.and_eq_true, Bool.and_eq_true, List.all_eq_true, Bool.not_eq_true'] at hc
    obtain ⟨⟨hless, -⟩, hall⟩ := hc
    have hsame : symbols.find? (fun u => u.toList.isPrefixOf (s.toList ++ c :: rest)) = some s := by
      rw [← hfind]
      refine find?_congr fun t ht => ?_
      have hlonger := hall t ht
      rw [Bool.not_eq_true'] at hlonger
      exact isPrefixOf_append_cons rest hlonger
    have hpair' : ['<', '>'].isPrefixOf (s.toList ++ c :: rest) = false := by
      rw [isPrefixOf_append_cons rest hless, hpair]
    rw [symbolStart, hpair', if_neg (by decide), hsame, Option.map_some, hdrop]

/-- How the text of a symbol begins. -/
theorem head_of_symbol {s : String} (hs : s ∈ symbols) :
    ∃ c cs, s.toList = c :: cs ∧ Begins c ∧ isNameStart c = false ∧ isDecimal c = false ∧
      c ≠ '\'' ∧ c ≠ '"' ∧ (∀ d ∈ c :: cs, ¬ NeverWritten d) ∧ (c = '.' → s = "." ∨ s = "...") := by
  have hhead : ∀ t ∈ symbols, (t.toList.head?.any fun c => decide (t.toList = c :: t.toList.tail ∧
      Begins c ∧ isNameStart c = false ∧ isDecimal c = false ∧ c ≠ '\'' ∧ c ≠ '"' ∧
      (c = '.' → t = "." ∨ t = "..."))) = true := by
    decide +kernel
  have hclean : ∀ t ∈ symbols, (t.toList.all fun d => decide (¬ NeverWritten d)) = true := by
    decide +kernel
  obtain ⟨c, -, hc⟩ := (Option.any_eq_true ..).mp (hhead s hs)
  obtain ⟨hcons, hbegins, hname, hdecimal, hquote, hquotes, hpoint⟩ := of_decide_eq_true hc
  refine ⟨c, _, hcons, hbegins, hname, hdecimal, hquote, hquotes, fun d hd => ?_, hpoint⟩
  exact of_decide_eq_true (List.all_eq_true.mp (hclean s hs) d (hcons ▸ hd))

theorem cut_symbol {s : String} (hs : s ∈ symbols) :
    Cut (fun c => apart s c = true) s.toList [.symbol s] := by
  obtain ⟨c, cs, hcons, hbegins, hname, hdecimal, hquote, hquotes, hclean, hpoint⟩ :=
    head_of_symbol hs
  rw [hcons]
  refine .single hbegins hclean fun rest hrest => ?_
  have hsymbol := symbolStart_append hs hrest
  rw [hcons, List.cons_append] at hsymbol
  have hnumeral : (c = '.' && (cs ++ rest).head?.any isDecimal) = false := by
    rw [Bool.and_eq_false_iff, decide_eq_false_iff_not]
    by_cases hc : c = '.'
    · right
      rcases hpoint hc with rfl | rfl
      · obtain rfl : cs = [] := (List.cons.inj hcons).2.symm
        rw [List.nil_append, Option.any_eq_false]
        intro d hd
        refine Bool.eq_false_iff.mpr fun hdigit => ?_
        have hapart := hrest d hd
        rw [apart, hdigit] at hapart
        simp at hapart
      · obtain rfl : cs = ['.', '.'] := (List.cons.inj hcons).2.symm
        rfl
    · exact .inl hc
  rw [nextToken, literalStart_of_head hname hquote hquotes]
  change (if isNameStart c = true then nameToken _
    else if (isDecimal c || (c = '.' && (cs ++ rest).head?.any isDecimal)) = true then _
    else (symbolStart (c :: (cs ++ rest))).map _) = _
  rw [hname, if_neg Bool.false_ne_true, hdecimal, hnumeral, Bool.or_self,
    if_neg Bool.false_ne_true, hsymbol, Option.map_some]

/-! ## Words -/

/-- The character ends a word, and does not make the word the mark of a literal. -/
def EndsName (c : Char) : Prop := isNameChar c = false ∧ ¬ IsQuote c

theorem literalStart_word {cs rest : List Char} (hcs : ∀ d ∈ cs, isNameChar d = true)
    (hrest : ∀ c ∈ rest.head?, EndsName c) : literalStart (cs ++ rest) = none := by
  unfold literalStart
  extract_lets marks
  have hmarks : ∀ d ∈ marks, isNameChar d = true := fun d hd =>
    isNameChar_of_isNameStart (List.all_eq_true.mp List.all_takeWhile d hd)
  have hprefix : marks <+: cs ++ rest :=
    (List.takeWhile_prefix _).trans (List.take_prefix 2 _)
  -- The marks do not go past the word, since its end is no letter.
  have hlength : marks.length ≤ cs.length := by
    refine Nat.le_of_not_lt fun hlt => ?_
    obtain ⟨tail, htail⟩ := (List.prefix_of_prefix_length_le (List.prefix_append cs rest) hprefix
      (Nat.le_of_lt hlt))
    cases tail with
    | nil =>
      rw [← htail, List.append_nil] at hlt
      exact absurd hlt (Nat.lt_irrefl _)
    | cons c tail =>
      have hc : isNameChar c = true := hmarks c (by rw [← htail]; simp)
      obtain ⟨more, hmore⟩ := hprefix
      rw [← htail, List.append_assoc, List.append_cancel_left_eq] at hmore
      have hhead := hrest c (by rw [← hmore]; rfl)
      rw [hhead.1] at hc
      cases hc
  rw [List.drop_append_of_le_length hlength]
  split
  · next c others hdrop =>
    have hc : ¬ IsQuote c := by
      cases hword : cs.drop marks.length with
      | nil =>
        rw [hword, List.nil_append] at hdrop
        exact (hrest c (by rw [hdrop]; rfl)).2
      | cons d ds =>
        rw [hword, List.cons_append] at hdrop
        have hd : d ∈ cs := List.mem_of_mem_drop (hword ▸ List.mem_cons_self)
        obtain ⟨hs, hq, -⟩ := ne_of_isNameChar (hcs d hd)
        rw [← (List.cons.inj hdrop).1]
        rintro (h | h)
        · exact hs h
        · exact hq h
    rw [if_neg (fun h => hc h.1)]
  · rfl

theorem takeWhile_isNameChar {cs rest : List Char} (hcs : ∀ d ∈ cs, isNameChar d = true)
    (hrest : ∀ c ∈ rest.head?, EndsName c) : (cs ++ rest).takeWhile isNameChar = cs := by
  rw [List.takeWhile_append_of_pos hcs]
  cases rest with
  | nil => rw [List.takeWhile_nil, List.append_nil]
  | cons c rest =>
    have hc := (hrest c rfl).1
    rw [List.takeWhile_cons_of_neg (by rw [hc]; decide), List.append_nil]

theorem not_neverWritten_of_isNameChar {c : Char} (h : isNameChar c = true) :
    ¬ NeverWritten c := by
  rintro (rfl | rfl) <;> exact absurd h (by decide)

theorem cut_word {s : String} (hs : isIdentifier s.toList = true) :
    Cut EndsName s.toList [wordToken s] := by
  obtain ⟨c, cs, hcons, hstart, hname⟩ := exists_cons_of_isIdentifier hs
  have hbegins : Begins c := by
    obtain ⟨-, -, hhash, hline, -, hslash, -, hspace⟩ :=
      ne_of_isNameChar (isNameChar_of_isNameStart hstart)
    exact ⟨hspace, hline, hhash, hslash⟩
  have hclean : ∀ d ∈ c :: cs, ¬ NeverWritten d := fun d hd =>
    not_neverWritten_of_isNameChar (hname d (hcons ▸ hd))
  rw [hcons]
  refine .single hbegins hclean fun rest hrest => ?_
  have htoken : nameToken (s.toList ++ rest) = some (wordToken s, rest) := by
    rw [nameToken, takeWhile_isNameChar hname hrest, List.drop_left, String.ofList_toList,
      wordToken, hs]
    simp only [Bool.or_true, if_true]
    split <;> rfl
  have hliteral := literalStart_word hname hrest
  rw [hcons, List.cons_append] at htoken hliteral
  rw [nextToken, hliteral]
  dsimp only
  rw [List.headD_cons, if_pos hstart, htoken]

theorem cut_keyword {s : String} (hs : isIdentifier s.toList = true)
    (hkeyword : isKeyword s = true) :
    Cut EndsName s.toList [.keyword s] := by
  have hcut := cut_word hs
  rwa [wordToken, if_pos hkeyword] at hcut

/-- What can stand as a name in program text. -/
def isName (s : String) : Bool := isIdentifier s.toList && !isKeyword s

theorem cut_name {s : String} (hs : isName s = true) : Cut EndsName s.toList [.name s] := by
  obtain ⟨hidentifier, hkeyword⟩ := Bool.and_eq_true_iff.mp hs
  have hcut := cut_word hidentifier
  rwa [wordToken, if_neg (by simpa using hkeyword)] at hcut

/-! ## Literals -/

theorem begins_of_isQuote {quote : Char} (hq : IsQuote quote) : Begins quote := by
  rcases hq with rfl | rfl <;> decide

/-- What stands between the quotes of a literal is cut off with them. -/
theorem cut_literal {quote : Char} (hq : IsQuote quote) {body : List Char}
    (hin : Inside quote 1 0 body) (hbody : ∀ c ∈ body, ¬ NeverWritten c) :
    Cut (fun c => ¬ IsQuote c) (quote :: (body ++ [quote])) [.literal [] body] := by
  refine .single (begins_of_isQuote hq) ?_ fun rest hrest => ?_
  · have hquote : ¬ NeverWritten quote := fun h => h.ne_quote hq rfl
    exact List.forall_mem_cons.mpr ⟨hquote, List.forall_mem_append.mpr
      ⟨hbody, List.forall_mem_singleton.mpr hquote⟩⟩
  · have hstart : literalStart (quote :: (body ++ [quote] ++ rest)) =
        some ([], quote, body ++ [quote] ++ rest) := by
      rcases hq with rfl | rfl <;> rfl
    have hfrom := literalFrom_inside hq hin fun h => hrest quote h hq
    rw [nextToken, hstart, List.append_assoc]
    simp only [List.singleton_append, hfrom, Option.map_some]

/-- A literal with a letter in front. -/
theorem cut_marked {mark quote : Char} (hmark : mark ∈ ['u', 'b']) (hq : IsQuote quote)
    {body : List Char} (hin : Inside quote 1 0 body) (hbody : ∀ c ∈ body, ¬ NeverWritten c) :
    Cut (fun c => ¬ IsQuote c) (mark :: quote :: (body ++ [quote])) [.literal [mark] body] := by
  have hbegins : Begins mark ∧ ¬ NeverWritten mark := by
    rw [List.mem_cons, List.mem_singleton] at hmark
    rcases hmark with rfl | rfl <;> decide
  refine .single hbegins.1 ?_ fun rest hrest => ?_
  · exact List.forall_mem_cons.mpr ⟨hbegins.2, (cut_literal hq hin hbody).clean⟩
  · have hstart : literalStart (mark :: quote :: (body ++ [quote] ++ rest)) =
        some ([mark], quote, body ++ [quote] ++ rest) := by
      rw [List.mem_cons, List.mem_singleton] at hmark
      rcases hmark with rfl | rfl <;> rcases hq with rfl | rfl <;> rfl
    have hfrom := literalFrom_inside hq hin fun h => hrest quote h hq
    rw [List.cons_append, nextToken, hstart, List.append_assoc]
    simp only [List.singleton_append, hfrom, Option.map_some]

/-- Documentation, which may go over several lines. -/
theorem cut_documentation {quote : Char} (hq : IsQuote quote) {body : List Char}
    (hin : Inside quote 3 0 body) (hbody : ∀ c ∈ body, ¬ NeverWritten c) :
    Cut (fun _ => True) (List.replicate 3 quote ++ body ++ List.replicate 3 quote)
      [.literal [] body] := by
  have hquotes : List.replicate 3 quote ++ body ++ List.replicate 3 quote =
      quote :: quote :: quote :: (body ++ List.replicate 3 quote) := by
    rw [List.append_assoc]
    rfl
  have hquote : ∀ c ∈ List.replicate 3 quote, ¬ NeverWritten c := fun c hc h =>
    h.ne_quote hq (List.eq_of_mem_replicate hc)
  rw [hquotes]
  refine .single (begins_of_isQuote hq) ?_ fun rest _ => ?_
  · rw [← hquotes]
    exact List.forall_mem_append.mpr ⟨List.forall_mem_append.mpr ⟨hquote, hbody⟩, hquote⟩
  · have hstart (cs : List Char) : literalStart (quote :: cs) = some ([], quote, cs) := by
      rcases hq with rfl | rfl <;> rfl
    have hfrom := literalFrom_triple hq hin rest
    rw [nextToken, hstart]
    simp only [List.cons_append, List.append_assoc, hfrom, Option.map_some]

/-- The text of a plain literal. -/
theorem cut_quoted {ps : Points} (hps : ∀ p ∈ ps, p ≤ 0x10ffff) :
    Cut (fun c => ¬ IsQuote c) (quoted ps) [.literal [] (quotedBody ps)] := by
  have hq := isQuote_plainQuote ps
  exact cut_literal hq (inside_quotedBody hq 1 hps) fun c hc h => h.notMem_quotedBody hps hc

theorem cut_quotedMarked {ps : Points} (hps : ∀ p ∈ ps, p ≤ 0x10ffff) :
    Cut (fun c => ¬ IsQuote c) ('u' :: quoted ps) [.literal ['u'] (quotedBody ps)] := by
  have hq := isQuote_plainQuote ps
  exact cut_marked (by decide) hq (inside_quotedBody hq 1 hps) fun c hc h =>
    h.notMem_quotedBody hps hc

theorem cut_quotedBytes {bs : List Nat} (hbs : ∀ b ∈ bs, b < 256) :
    Cut (fun c => ¬ IsQuote c) (quotedBytes bs)
      [.literal ['b'] (bs.flatMap (quotedByte (plainQuote bs)))] := by
  have hq := isQuote_plainQuote bs
  refine cut_marked (by decide) hq (inside_quotedBytes hq hbs) fun c hc h => ?_
  have hvisible := (visible_of_mem_quotedBytes hq hbs hc).1
  rcases h with rfl | rfl <;> exact absurd hvisible (by decide)

/-! ## Phrases -/

/-- A piece of text whose tokens leave the brackets as they were. -/
structure Phrase (P : Char → Prop) (cs : List Char) (ts : List Token) : Prop extends
    Cut P cs ts where
  balanced : Balanced ts

namespace Phrase

variable {P Q : Char → Prop} {cs ds : List Char} {ts us : List Token}

theorem nil : Phrase P [] [] := ⟨.nil, .nil⟩

theorem mono (h : Phrase P cs ts) (hPQ : ∀ c, Q c → P c) : Phrase Q cs ts :=
  ⟨h.toCut.mono hPQ, h.balanced⟩

theorem append {c : Char} (h : Phrase P cs ts) (hc : P c) (h' : Phrase Q (c :: ds) us) :
    Phrase Q (cs ++ c :: ds) (ts ++ us) :=
  ⟨h.toCut.append hc h'.toCut, h.balanced.append h'.balanced⟩

theorem space (h : Phrase P cs ts) : Phrase P (' ' :: cs) ts := ⟨h.toCut.space, h.balanced⟩

/-- One phrase after another that may be empty. -/
theorem andThen (h : Phrase P cs ts) (h' : Phrase Q ds us) (hds : ∀ c ∈ ds.head?, P c)
    (hend : ds = [] → ∀ c, Q c → P c) : Phrase Q (cs ++ ds) (ts ++ us) := by
  cases ds with
  | nil =>
    obtain rfl : us = [] := List.eq_nil_of_length_eq_zero (Nat.le_zero.mp h'.length_le)
    rw [List.append_nil, List.append_nil]
    exact h.mono (hend rfl)
  | cons c ds => exact h.append (hds c rfl) h'

/-- A word, a number or a literal. -/
theorem single {t : Token} (h : Cut P cs [t]) (ht : ∀ s, t ≠ .symbol s) : Phrase P cs [t] :=
  ⟨h, .single fun s hs => absurd hs (ht s)⟩

theorem constant {k : Constant} (h : Cut P cs [.constant k]) : Phrase P cs [.constant k] :=
  single h nofun

theorem literal {mark body : List Char} (h : Cut P cs [.literal mark body]) :
    Phrase P cs [.literal mark body] := single h nofun

theorem symbol {s : String} (hs : s ∈ symbols) (hopens : opens s = false)
    (hopener : opener? s = none) : Phrase (fun c => apart s c = true) s.toList [.symbol s] := by
  refine ⟨cut_symbol hs, .single fun t ht => ?_⟩
  rw [← Token.symbol.inj ht]
  exact ⟨hopens, hopener⟩

theorem word {s : String} (hs : isIdentifier s.toList = true) (hkeyword : isKeyword s = true) :
    Phrase EndsName s.toList [.keyword s] := single (cut_keyword hs hkeyword) nofun

theorem name {s : String} (hs : isName s = true) : Phrase EndsName s.toList [.name s] :=
  single (cut_name hs) nofun

section Brackets

variable {o c : String} {a b : Char}

/-- A phrase between brackets that belong together may be followed by anything. -/
theorem bracketed (ho : o.toList = [a]) (hc : c.toList = [b]) (hos : o ∈ symbols)
    (hcs : c ∈ symbols) (hopens : opens o = true) (hcloses : opens c = false)
    (hopener : opener? c = some a) (hfree : ∀ d, apart o d = true ∧ apart c d = true)
    (h : Phrase P cs ts) (hend : P b) :
    Phrase Q (a :: (cs ++ [b])) (.symbol o :: (ts ++ [.symbol c])) := by
  have hopen : Cut (fun _ => True) [a] [.symbol o] :=
    ho ▸ (cut_symbol hos).mono fun d _ => (hfree d).1
  have hclose : Cut Q [b] [.symbol c] := hc ▸ (cut_symbol hcs).mono fun d _ => (hfree d).2
  have hinner : Cut Q (cs ++ [b]) (ts ++ [.symbol c]) := h.toCut.append hend hclose
  obtain ⟨d, ds, hds⟩ := List.exists_cons_of_ne_nil
    (List.append_ne_nil_of_right_ne_nil cs (List.cons_ne_nil b []))
  rw [hds] at hinner ⊢
  exact ⟨hopen.append trivial hinner, .bracketed hopens ho hcloses hopener h.balanced⟩

theorem apart_bracket {s : String} (hs : s ∈ ["(", ")", "[", "]", "\x7b", "\x7d"]) (d : Char) :
    apart s d = true := by
  simp only [List.mem_cons, List.not_mem_nil, or_false] at hs
  rcases hs with rfl | rfl | rfl | rfl | rfl | rfl <;> simp [apart, symbols, List.isPrefixOf]

theorem parentheses (h : Phrase P cs ts) (hend : P ')') :
    Phrase Q ('(' :: (cs ++ [')'])) (.symbol "(" :: (ts ++ [.symbol ")"])) :=
  bracketed (by decide) (by decide) (by decide) (by decide) (by decide) (by decide) (by decide)
    (fun d => ⟨apart_bracket (by decide) d, apart_bracket (by decide) d⟩) h hend

theorem squares (h : Phrase P cs ts) (hend : P ']') :
    Phrase Q ('[' :: (cs ++ [']'])) (.symbol "[" :: (ts ++ [.symbol "]"])) :=
  bracketed (by decide) (by decide) (by decide) (by decide) (by decide) (by decide) (by decide)
    (fun d => ⟨apart_bracket (by decide) d, apart_bracket (by decide) d⟩) h hend

theorem braces (h : Phrase P cs ts) (hend : P '\x7d') :
    Phrase Q ('\x7b' :: (cs ++ ['\x7d'])) (.symbol "\x7b" :: (ts ++ [.symbol "\x7d"])) :=
  bracketed (by decide) (by decide) (by decide) (by decide) (by decide) (by decide) (by decide)
    (fun d => ⟨apart_bracket (by decide) d, apart_bracket (by decide) d⟩) h hend

end Brackets

end Phrase

end LivePreview.Code
