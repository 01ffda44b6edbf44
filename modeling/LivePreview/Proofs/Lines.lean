import LivePreview.Code.Statement
import LivePreview.Proofs.Parsable
import LivePreview.Proofs.Spelling

/-!
# Lines are cut into tokens

A line that is set in by whole steps has an indent or dedents before its tokens, depending on the
line before it, and a newline behind them. The dedents of a block come with the next line that is
set in less, or at the end of the text. So lines of a block are cut into all of their tokens except
the dedents at the end, and these the next line makes good.
-/

namespace LivePreview.Code

/-! ## Brackets that fit -/

/-- The tokens leave a layout as it was in which `depth` brackets at most are open. -/
def Fits (depth : Nat) (ts : List Token) : Prop :=
  ∀ l : Layout, l.brackets.length ≤ depth → l.follow ts = some l

section Fits

variable {depth : Nat} {ts us : List Token}

theorem Balanced.fits (h : Balanced ts) {l l' : Layout} (hl : l.follow ts = some l') :
    Fits l.brackets.length ts := fun m hm => h l l' hl m hm

theorem Fits.mono {other : Nat} (h : Fits depth ts) (hle : other ≤ depth) : Fits other ts :=
  fun l hl => h l (Nat.le_trans hl hle)

theorem fits_nil : Fits depth [] := fun l _ => l.follow_nil

theorem Fits.append (h : Fits depth ts) (h' : Fits depth us) : Fits depth (ts ++ us) := by
  intro l hl
  rw [Layout.follow_append, h l hl, Option.bind_some, h' l hl]

/-- A token that is no bracket. -/
theorem Fits.cons {t : Token} (ht : ∀ s, t = .symbol s → opens s = false ∧ opener? s = none)
    (h : Fits depth ts) : Fits depth (t :: ts) := by
  intro l hl
  cases t with
  | symbol s =>
    obtain ⟨hopens, hopener⟩ := ht s rfl
    have hbracket : l.bracket s = some l := by simp [Layout.bracket, hopens, hopener]
    rw [Layout.follow, hbracket, Option.bind_some, h l hl]
  | _ => exact h l hl

/-- Tokens between two brackets that belong together, where one more bracket may be open. -/
theorem Fits.bracketed {o c : String} {b : Char} (ho : opens o = true) (hb : o.toList = [b])
    (hc : opens c = false) (hcb : opener? c = some b) (hdepth : depth < bracketLimit)
    (h : Fits (depth + 1) ts) : Fits depth (.symbol o :: (ts ++ [.symbol c])) := by
  intro l hl
  have hopen : l.bracket o = some { l with brackets := b :: l.brackets } := by
    rw [Layout.bracket, if_pos ho, if_neg (by omega), hb]
    rfl
  have hclose : Layout.bracket { l with brackets := b :: l.brackets } c = some l := by
    simp [Layout.bracket, hc, hcb]
  have hinner := h { l with brackets := b :: l.brackets } (Nat.succ_le_succ hl)
  rw [Layout.follow, hopen, Option.bind_some, Layout.follow_append, hinner, Option.bind_some,
    Layout.follow, hclose, Option.bind_some, Layout.follow_nil]

theorem Fits.parentheses (hdepth : depth < bracketLimit) (h : Fits (depth + 1) ts) :
    Fits depth (.symbol "(" :: (ts ++ [.symbol ")"])) :=
  h.bracketed (b := '(') (by decide) (by decide) (by decide) (by decide) hdepth

end Fits

/-! ## Margins -/

def marginsTo : Nat → List Margin
  | 0 => []
  | n + 1 => ⟨4 * (n + 1), 4 * (n + 1)⟩ :: marginsTo n

/-- The layout behind a line that is set in by `n` steps. -/
def layoutAt (n : Nat) : Layout := ⟨marginsTo n, []⟩

/-- What comes before the tokens of a line that is set in by `d` steps, behind one by `n`. -/
def leadTokens (n d : Nat) : List Token :=
  if d ≤ n then List.replicate (n - d) .dedent else [.indent]

/-- A line may be set in as many steps as the one before, fewer, or one more. -/
def MayFollow (n d : Nat) : Prop := d ≤ n ∨ d = n + 1 ∧ n < marginLimit

section Margins

variable {n d : Nat}

@[simp] theorem length_marginsTo (n : Nat) : (marginsTo n).length = n := by
  induction n with
  | zero => rfl
  | succ n ih => rw [marginsTo, List.length_cons, ih]

@[simp] theorem margin_layoutAt (n : Nat) : (layoutAt n).margin = ⟨4 * n, 4 * n⟩ := by
  cases n <;> rfl

theorem dropWhile_marginsTo (h : d ≤ n) :
    (marginsTo n).dropWhile (fun m => 4 * d < m.wide) = marginsTo d := by
  induction n with
  | zero =>
    obtain rfl : d = 0 := Nat.le_zero.mp h
    rfl
  | succ n ih =>
    rcases Nat.lt_or_eq_of_le h with hlt | rfl
    · rw [marginsTo, List.dropWhile_cons_of_pos (by simp; omega), ih (Nat.le_of_lt_succ hlt)]
    · rw [marginsTo, List.dropWhile_cons_of_neg (by simp)]

theorem settle_layoutAt (h : MayFollow n d) :
    (layoutAt n).settle ⟨4 * d, 4 * d⟩ = some (leadTokens n d, layoutAt d) := by
  unfold Layout.settle leadTokens
  rw [margin_layoutAt]
  dsimp only
  rcases Nat.lt_trichotomy d n with hlt | rfl | hgt
  · rw [if_neg (by omega), if_neg (by omega), if_pos (Nat.le_of_lt hlt)]
    have hkept : (layoutAt n).margins.dropWhile (fun m => 4 * d < m.wide) = marginsTo d :=
      dropWhile_marginsTo (Nat.le_of_lt hlt)
    have hmargin : Layout.margin { layoutAt n with margins := marginsTo d } = ⟨4 * d, 4 * d⟩ :=
      margin_layoutAt d
    rw [hkept, if_pos hmargin, length_marginsTo]
    change some (List.replicate ((marginsTo n).length - d) _, _) = _
    rw [length_marginsTo]
    rfl
  · rw [if_pos rfl, if_pos rfl, if_pos (Nat.le_refl d), Nat.sub_self]
    rfl
  · obtain ⟨rfl, hlimit⟩ := h.resolve_left (Nat.not_le.mpr hgt)
    have hroom : ¬ ((decide (4 * (n + 1) ≤ 4 * n) ||
        decide (marginLimit ≤ (layoutAt n).margins.length)) = true) := by
      simp [layoutAt]
      omega
    rw [if_neg (by omega), if_pos (by omega), if_neg hroom, if_neg (by omega)]
    rfl

theorem measure_margin (j : Nat) (m : Margin) (cs : List Char) :
    measure none m (List.replicate j ' ' ++ cs) = measure none ⟨m.wide + j, m.narrow + j⟩ cs := by
  induction j generalizing m with
  | zero => rfl
  | succ j ih =>
    rw [List.replicate_succ, List.cons_append, measure, ih]
    simp only [Nat.add_assoc, Nat.add_comm 1]

theorem measure_begins {c : Char} (hc : Begins c) (m : Margin) (cs : List Char) :
    measure none m (c :: cs) = some (m, c :: cs) := by
  obtain ⟨hspace, -, -, hslash⟩ := hc
  simp only [isSpace, Bool.or_eq_false_iff, decide_eq_false_iff_not] at hspace
  unfold measure
  split
  · next h => exact absurd (List.cons.inj h).1 hspace.1.1
  · next h => exact absurd (List.cons.inj h).1 hspace.1.2
  · next h => exact absurd (List.cons.inj h).1 hspace.2
  · next h => exact absurd (List.cons.inj h).1 hslash
  · next h => exact absurd (List.cons.inj h).1 hslash
  · rfl

/-- A line begins with what its margin stands for. -/
theorem tokensFrom_margin (h : MayFollow n d) {c : Char} (hc : Begins c) (rounds : Nat)
    (found : List Token) (cs : List Char) :
    tokensFrom (rounds + 1) (layoutAt n) true found (Statement.margin d ++ c :: cs) =
      tokensFrom rounds (layoutAt d) false (leadTokens n d ++ found) (c :: cs) := by
  have hmeasure : measure none ⟨0, 0⟩ (Statement.margin d ++ c :: cs) =
      some (⟨4 * d, 4 * d⟩, c :: cs) := by
    rw [Statement.margin, measure_margin, measure_begins hc, Nat.zero_add]
  have hhead : ¬ ((decide ((c :: cs).head? = some '#') || decide ((c :: cs).head? = some '\n')) =
      true) := by
    simp [hc.2.1, hc.2.2.1]
  rw [tokensFrom, hmeasure]
  simp only [Option.bind_eq_bind, Option.bind_some]
  rw [if_neg hhead, if_neg (by simp [layoutAt]), settle_layoutAt h]
  rfl

theorem tokensFrom_newline {l : Layout} (hl : l.brackets = []) (rounds : Nat) (found : List Token)
    (cs : List Char) :
    tokensFrom (rounds + 1) l false found ('\n' :: cs) =
      tokensFrom rounds l true (.newline :: found) cs := by
  rw [tokensFrom, List.dropWhile_cons_of_neg (by decide)]
  change tokensFrom rounds l true (if l.brackets = [] then .newline :: found else found) cs = _
  rw [if_pos hl]

theorem tokensFrom_blank (rounds : Nat) (l : Layout) (found : List Token) (cs : List Char) :
    tokensFrom (rounds + 1) l true found ('\n' :: cs) = tokensFrom rounds l true found cs := by
  have hmeasure : measure none ⟨0, 0⟩ ('\n' :: cs) = some (⟨0, 0⟩, '\n' :: cs) := by
    rw [measure] <;> simp
  rw [tokensFrom, hmeasure]
  rfl

end Margins

/-! ## Lines of a block -/

/-- The lines, with a line break after each, are cut into the tokens of a block that is set in by
`d` steps; the last dedents are still to come. The margins are longer than the tokens that indents
and dedents add. -/
structure CutLines (d : Nat) (cs : List Char) (ts : List Token) : Prop where
  clean : ∀ c ∈ cs, ¬ NeverWritten c
  length_le : ts.length + 4 * d ≤ cs.length
  tokens_eq : ∃ opened last cost, ts = opened ++ List.replicate last .dedent ∧
    cost ≤ 2 * cs.length ∧
    ∀ n, MayFollow n d → ∀ (rounds : Nat) (found : List Token) (rest : List Char),
      tokensFrom (rounds + cost) (layoutAt n) true found (cs ++ rest) =
        tokensFrom rounds (layoutAt (d + last)) true
          (opened.reverse ++ (leadTokens n d ++ found)) rest

namespace CutLines

variable {P : Char → Prop} {d : Nat} {c : Char} {cs ds : List Char} {ts us : List Token}

theorem clean_margin (d : Nat) : ∀ c ∈ Statement.margin d, ¬ NeverWritten c := fun c hc => by
  rw [List.eq_of_mem_replicate hc]
  decide

theorem tokensFrom_line (h : Phrase P (c :: cs) ts) (hc : Begins c) (hend : P '\n')
    (hfits : Fits 0 ts) {n : Nat} (hn : MayFollow n d) (rounds : Nat) (found : List Token)
    (rest : List Char) :
    tokensFrom (rounds + (ts.length + 2)) (layoutAt n) true found
        (Statement.margin d ++ c :: cs ++ ['\n'] ++ rest) =
      tokensFrom rounds (layoutAt d) true
        ((ts ++ [Token.newline]).reverse ++ (leadTokens n d ++ found)) rest := by
  have hline : ∀ d ∈ ('\n' :: rest).head?, P d := by
    rintro d hd
    cases hd
    exact hend
  have hcut := h.tokens_eq (rounds + 1) (layoutAt d) (leadTokens n d ++ found) ('\n' :: rest) hline
  have hfollow : (layoutAt d).follow ts = some (layoutAt d) := hfits _ (Nat.le_refl 0)
  have hrounds : rounds + (ts.length + 2) = rounds + 1 + ts.length + 1 := by omega
  rw [hrounds, List.append_assoc, List.append_assoc, List.cons_append,
    tokensFrom_margin hn hc, ← List.cons_append, List.singleton_append, hcut, hfollow,
    Option.bind_some, tokensFrom_newline rfl, List.reverse_append]
  rfl

theorem clean_line (h : Phrase P (c :: cs) ts) (d : Nat) :
    ∀ b ∈ Statement.margin d ++ c :: cs ++ ['\n'], ¬ NeverWritten b :=
  List.forall_mem_append.mpr ⟨List.forall_mem_append.mpr ⟨clean_margin d, h.clean⟩,
    List.forall_mem_singleton.mpr (by decide)⟩

theorem line (h : Phrase P (c :: cs) ts) (hc : Begins c) (hend : P '\n') (hfits : Fits 0 ts) :
    CutLines d (Statement.margin d ++ c :: cs ++ ['\n']) (ts ++ [.newline]) := by
  have hlength := h.length_le
  refine ⟨clean_line h d, ?_, ts ++ [.newline], 0, ts.length + 2, ?_, ?_,
    fun n hn => tokensFrom_line h hc hend hfits hn⟩
  · simp only [List.length_append, List.length_singleton, Statement.margin, List.length_replicate]
    omega
  · rw [List.replicate_zero, List.append_nil]
  · rw [List.length_append, List.length_append, List.length_singleton]
    omega

/-- Blank lines count for nothing. -/
theorem blank (h : CutLines d cs ts) : CutLines d ('\n' :: cs) ts := by
  obtain ⟨opened, last, cost, hts, hcost, heq⟩ := h.tokens_eq
  refine ⟨List.forall_mem_cons.mpr ⟨by decide, h.clean⟩, Nat.le_succ_of_le h.length_le, opened, last,
    cost + 1, hts, ?_, fun n hn rounds found rest => ?_⟩
  · rw [List.length_cons]
    omega
  · rw [← Nat.add_assoc, List.cons_append, tokensFrom_blank, heq n hn]

theorem append (h : CutLines d cs ts) (h' : CutLines d ds us) :
    CutLines d (cs ++ ds) (ts ++ us) := by
  have hlength := h.length_le
  have hlength' := h'.length_le
  obtain ⟨opened, last, cost, rfl, hcost, heq⟩ := h.tokens_eq
  obtain ⟨opened', last', cost', rfl, hcost', heq'⟩ := h'.tokens_eq
  refine ⟨List.forall_mem_append.mpr ⟨h.clean, h'.clean⟩, ?_,
    opened ++ List.replicate last .dedent ++ opened', last', cost' + cost, ?_, ?_,
    fun n hn rounds found rest => ?_⟩
  · simp only [List.length_append] at hlength hlength' ⊢
    omega
  · simp only [List.append_assoc]
  · rw [List.length_append]
    omega
  · have hlead : leadTokens (d + last) d = List.replicate last .dedent := by
      rw [leadTokens, if_pos (Nat.le_add_right d last), Nat.add_sub_cancel_left]
    rw [← Nat.add_assoc, List.append_assoc, heq n hn, heq' _ (.inl (Nat.le_add_right d last)),
      hlead]
    simp only [List.reverse_append, List.reverse_replicate, List.append_assoc]

/-- A line, and lines behind it that are set in by one step more. -/
theorem block (h : Phrase P (c :: cs) ts) (hc : Begins c) (hend : P '\n') (hfits : Fits 0 ts)
    (hlimit : d < marginLimit) (h' : CutLines (d + 1) ds us) :
    CutLines d (Statement.margin d ++ c :: cs ++ ['\n'] ++ ds)
      (ts ++ .newline :: .indent :: (us ++ [.dedent])) := by
  have hlength := h.length_le
  have hlength' := h'.length_le
  obtain ⟨opened, last, cost, rfl, hcost, heq⟩ := h'.tokens_eq
  refine ⟨List.forall_mem_append.mpr ⟨clean_line h d, h'.clean⟩, ?_,
    ts ++ .newline :: .indent :: opened, last + 1, cost + (ts.length + 2), ?_, ?_,
    fun n hn rounds found rest => ?_⟩
  · simp only [List.length_append, List.length_cons, List.length_nil, Statement.margin,
      List.length_replicate] at hlength hlength' ⊢
    omega
  · simp only [List.append_assoc, List.cons_append, List.replicate_succ']
  · simp only [List.length_append, List.length_singleton]
    omega
  · have hlead : leadTokens d (d + 1) = [.indent] := if_neg (Nat.not_succ_le_self d)
    have hlast : d + 1 + last = d + (last + 1) := by omega
    rw [← Nat.add_assoc, List.append_assoc, tokensFrom_line h hc hend hfits hn,
      heq d (.inr ⟨rfl, hlimit⟩), hlead, hlast]
    simp only [List.reverse_append, List.reverse_cons, List.append_assoc, List.nil_append,
      List.cons_append, List.reverse_nil]

end CutLines

/-! ## Whole texts -/

theorem unifyNewlines_clean {cs : List Char} (h : ∀ c ∈ cs, ¬ NeverWritten c) :
    unifyNewlines cs = cs := by
  have hreturn : '\r' ∉ cs := fun hmem => h '\r' hmem (.inr rfl)
  have happend := unifyNewlines_append hreturn []
  rw [List.append_nil] at happend
  rw [happend, unifyNewlines, List.append_nil]

theorem tokensFrom_end (n rounds : Nat) (found : List Token) :
    tokensFrom (rounds + 2) (layoutAt n) true found [] =
      some (found.reverse ++ List.replicate n .dedent) := by
  have hsettle : (layoutAt n).settle ⟨0, 0⟩ = some (List.replicate n .dedent, layoutAt 0) := by
    have hlead := settle_layoutAt (n := n) (d := 0) (.inl (Nat.zero_le n))
    rwa [leadTokens, if_pos (Nat.zero_le n)] at hlead
  have hmeasure : measure none ⟨0, 0⟩ [] = some (⟨0, 0⟩, []) := by rw [measure] <;> simp
  rw [tokensFrom, hmeasure]
  simp only [Option.bind_eq_bind, Option.bind_some]
  rw [if_neg (by simp), if_neg (by simp [layoutAt]), hsettle]
  change some (List.replicate n Token.dedent ++ found).reverse = _
  rw [List.reverse_append, List.reverse_replicate]

/-- The tokens of a module whose lines are cut. -/
theorem CutLines.moduleTokens {cs : List Char} {ts : List Token} (h : CutLines 0 cs ts)
    (hline : cs.getLast? = some '\n') : moduleTokens cs = some ts := by
  obtain ⟨opened, last, cost, rfl, hcost, heq⟩ := h.tokens_eq
  obtain ⟨rounds, hrounds⟩ : ∃ rounds, 2 * cs.length + 3 = rounds + 2 + cost :=
    ⟨2 * cs.length + 1 - cost, by omega⟩
  have hcut := heq 0 (.inl (Nat.le_refl 0)) (rounds + 2) [] []
  have hlead : leadTokens 0 0 = [] := rfl
  rw [List.append_nil, hlead, List.append_nil, List.append_nil, tokensFrom_end, Nat.zero_add,
    List.reverse_reverse] at hcut
  unfold Code.moduleTokens
  rw [unifyNewlines_clean h.clean, hline, tokens, hrounds]
  exact hcut

/-- The tokens of a phrase that is a whole text, if it has no more brackets than can be open. -/
theorem Phrase.tokens {P : Char → Prop} {c : Char} {cs : List Char} {ts : List Token}
    (h : Phrase P (c :: cs) ts) (hc : Begins c) (hfits : (Layout.start.follow ts).isSome = true) :
    tokens (c :: cs) = some ts := by
  obtain ⟨l, hl⟩ := Option.isSome_iff_exists.mp hfits
  have hfollow : Layout.start.follow ts = some .start :=
    h.balanced _ _ hl _ (Nat.le_refl _)
  have hlength := h.length_le
  obtain ⟨rounds, hrounds⟩ : ∃ rounds, 2 * (c :: cs).length + 3 = rounds + 1 + ts.length + 1 :=
    ⟨2 * (c :: cs).length + 1 - ts.length, by omega⟩
  have hcut := h.tokens_eq (rounds + 1) .start [] [] (by simp)
  have hstart := tokensFrom_margin (n := 0) (d := 0) (.inl (Nat.le_refl 0)) hc
    (rounds + 1 + ts.length) [] cs
  rw [hfollow, Option.bind_some, List.append_nil, List.append_nil] at hcut
  rw [Code.tokens, hrounds]
  refine hstart.trans (hcut.trans ?_)
  change some ts.reverse.reverse = _
  rw [List.reverse_reverse]

end LivePreview.Code
