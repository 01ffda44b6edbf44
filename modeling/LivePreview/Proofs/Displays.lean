import LivePreview.Proofs.ReadBack

/-!
# What stands between brackets is read back

Items in a row are read one by one up to the bracket that ends them, and the loops of a
comprehension one by one behind its item. An expression in brackets is an atom, whatever it is made
of.
-/

namespace LivePreview.Code

open Reader
open LivePreview.Text (normalForm)

/-! ## Rows -/

/-- Brackets that end a row. -/
def brackets : List Token := [.symbol ")", .symbol "]", .symbol "\x7d"]

/-- Tokens that end a row, and begin none of its items. -/
def closings : List Token := .keyword "in" :: brackets

/-- The tokens are read as an item, where what follows is as `Follows` says. -/
structure ReadsItem {α : Type} (Follows : List Token → Prop) (item : Within → Reader α)
    (ts : List Token) (a : α) : Prop where
  starts : ∃ t ∈ ts.head?, t ∉ closings
  reads (depth : Nat) (rest : List Token) : ts.length < depth → Follows rest →
    item (.ofDepth depth) (ts ++ rest) = some (a, rest)

/-- What stands behind the first item of a row. -/
def moreTokens : List (List Token) → List Token
  | [] => []
  | ts :: tss => .symbol "," :: commaTokens (ts :: tss)

theorem commaTokens_cons (ts : List Token) (tss : List (List Token)) :
    commaTokens (ts :: tss) = ts ++ moreTokens tss := by
  cases tss with
  | nil => exact (List.append_nil ts).symm
  | cons us tss => rfl

/-- A tuple of one item has a comma as well. -/
theorem tupleTokens_cons (ts : List Token) (tss : List (List Token)) :
    tupleTokens (ts :: tss) = ts ++ .symbol "," :: commaTokens tss := by
  cases tss with
  | nil => rfl
  | cons us tss => rfl

/-- Read the items behind the first one, and go on with them. -/
def Within.moreItems {α β : Type} (w : Within) (closing : Token) (item : Within → Reader α)
    (next : List α → Reader β) : Reader β := do
  let rest ← if ← acceptSymbol "," then sequence (isNext closing) (item w) w.bound else pure []
  next rest

section Rows

variable {α : Type} {Follows : List Token → Prop} {item : Within → Reader α} {ts rest : List Token}
  {tss : List (List Token)} {a : α} {as : List α} {closing : Token} {depth : Nat}

theorem ReadsItem.head_ne (h : ReadsItem Follows item ts a) (hclosing : closing ∈ closings)
    (rest : List Token) : (ts ++ rest).head? ≠ some closing := by
  obtain ⟨t, ht, hstarts⟩ := h.starts
  intro hhead
  cases ts with
  | nil => cases ht
  | cons u ts =>
    cases ht
    cases hhead
    exact hstarts hclosing

theorem ReadsItem.length_pos (h : ReadsItem Follows item ts a) : 0 < ts.length := by
  obtain ⟨t, ht, -⟩ := h.starts
  cases ts with
  | nil => cases ht
  | cons u ts => exact Nat.succ_pos _

/-- A row is read up to the token that ends it. -/
theorem sequence_commaTokens (h : List.Forall₂ (ReadsItem Follows item) tss as)
    (hclosing : closing ∈ closings) (hcomma : ∀ us, Follows (.symbol "," :: us))
    (hend : Follows (closing :: rest)) {rounds : Nat} (hdepth : (commaTokens tss).length < depth)
    (hrounds : (commaTokens tss).length ≤ rounds) :
    sequence (isNext closing) (item (.ofDepth depth)) rounds (commaTokens tss ++ closing :: rest) =
      some (as, closing :: rest) := by
  have hne : closing ≠ .symbol "," := by
    rintro rfl
    revert hclosing
    decide
  induction h generalizing rounds with
  | nil =>
    cases rounds with
    | zero => rfl
    | succ rounds =>
      change sequence (isNext closing) (item (.ofDepth depth)) (rounds + 1) (closing :: rest) = _
      rw [Reader.sequence, isNext_bind_cons, if_pos rfl]
      rfl
  | @cons ts a tss as hitem hitems ih =>
    have hpos := hitem.length_pos
    rw [commaTokens_cons, List.length_append] at hdepth hrounds
    obtain ⟨rounds, rfl⟩ : ∃ n, rounds = n + 1 := ⟨rounds - 1, by omega⟩
    rw [commaTokens_cons, List.append_assoc, Reader.sequence, isNext_bind (hitem.head_ne hclosing _),
      if_neg Bool.false_ne_true]
    unfold acceptSymbol
    cases hitems with
    | nil =>
      rw [moreTokens, List.nil_append, bind_of_eq (hitem.reads depth _ (by omega) hend),
        accept_bind (by simpa using hne)]
      rfl
    | cons hnext hothers =>
      rw [moreTokens, List.length_cons] at hdepth hrounds
      rw [moreTokens, List.cons_append, bind_of_eq (hitem.reads depth _ (by omega) (hcomma _)),
        accept_bind_cons, if_pos rfl, bind_of_eq (ih (by omega) (by omega))]
      rfl

theorem moreItems_moreTokens (h : List.Forall₂ (ReadsItem Follows item) tss as)
    (hclosing : closing ∈ closings) (hcomma : ∀ us, Follows (.symbol "," :: us))
    (hend : Follows (closing :: rest)) (hdepth : (moreTokens tss).length < depth) {β : Type}
    (next : List α → Reader β) :
    (Within.ofDepth depth).moreItems closing item next (moreTokens tss ++ closing :: rest) =
      next as (closing :: rest) := by
  unfold Within.moreItems acceptSymbol
  cases h with
  | nil =>
    have hne : closing ≠ .symbol "," := by
      rintro rfl
      revert hclosing
      decide
    rw [moreTokens, List.nil_append, accept_bind (by simpa using hne)]
    rfl
  | cons hitem hitems =>
    rw [moreTokens, List.length_cons] at hdepth
    have hothers := sequence_commaTokens (.cons hitem hitems) hclosing hcomma hend
      (Nat.lt_of_succ_lt hdepth) (Nat.le_of_lt (Nat.lt_of_succ_lt hdepth))
    rw [moreTokens, List.cons_append, accept_bind_cons, if_pos rfl]
    exact bind_of_eq hothers next

theorem parted_bracket (hclosing : closing ∈ brackets) : Parted (closing :: rest) := by
  have hall : ∀ t ∈ brackets, t ∈ separators := by decide
  exact parted_cons (hall closing hclosing)

/-- Behind an item of a row comes a comma or its end. -/
theorem parted_moreTokens (tss : List (List Token)) (hclosing : closing ∈ brackets) :
    Parted (moreTokens tss ++ closing :: rest) := by
  cases tss with
  | nil => exact parted_bracket hclosing
  | cons ts tss => exact parted_cons (by decide)

theorem moreItems_row (closing : Token) (rest : List Token)
    (h : List.Forall₂ (ReadsItem Parted item) tss as) (hclosing : closing ∈ brackets)
    (hdepth : (moreTokens tss).length < depth) {β : Type} (next : List α → Reader β) :
    (Within.ofDepth depth).moreItems closing item next (moreTokens tss ++ closing :: rest) =
      next as (closing :: rest) :=
  moreItems_moreTokens h (List.mem_cons_of_mem _ hclosing) (fun _ => parted_cons (by decide))
    (parted_bracket hclosing) hdepth next

theorem head_moreTokens_ne (tss : List (List Token)) {t : Token} (hcomma : t ≠ .symbol ",")
    (hclosing : t ≠ closing) : (moreTokens tss ++ closing :: rest).head? ≠ some t := by
  cases tss with
  | nil => exact fun h => hclosing (Option.some.inj h).symm
  | cons ts tss => exact fun h => hcomma (Option.some.inj h).symm

end Rows

/-! ## Parts that are read back -/

/-- A part that may be missing. -/
def OptionRereads (e : Option Expr) : Prop := ∀ a ∈ e, a.Rereads

mutual

/-- The expression is read back, or what it unpacks or slices by is. -/
def Expr.Kept : Expr → Prop
  | .starred v => v.Rereads
  | .slice l u s => OptionRereads l ∧ OptionRereads u ∧ OptionRereads s
  | .tuple es => AreKept es ∧ ((Expr.tuple es).isValue = true → (Expr.tuple es).Rereads)
  | e => e.isValue = true → e.Rereads

def AreKept : List Expr → Prop
  | [] => True
  | e :: es => e.Kept ∧ AreKept es

end

theorem Expr.Kept.rereads {e : Expr} (h : e.Kept) (hvalue : e.isValue = true) : e.Rereads := by
  cases e with
  | starred | slice => cases hvalue
  | tuple es => exact h.2 hvalue
  | _ => exact h hvalue

theorem Expr.Rereads.kept {e : Expr} (h : e.Rereads) (hvalue : e.isValue = true)
    (htuple : ∀ es, e = .tuple es → AreKept es) : e.Kept := by
  cases e with
  | starred | slice => cases hvalue
  | tuple es => exact ⟨htuple es rfl, fun _ => h⟩
  | _ => exact fun _ => h

theorem isStarred_reread (e : Expr) : isStarred e.reread = isStarred e := by
  cases e <;> rfl

mutual

theorem isTarget_reread (e : Expr) : isTarget e.reread = isTarget e := by
  cases e with
  | starred v => simp only [Expr.reread, isTarget, isStarred_reread, isTarget_reread v]
  | tuple es => simp only [Expr.reread, isTarget, areTargets_reread es]
  | list es => simp only [Expr.reread, isTarget, areTargets_reread es]
  | _ => rfl

theorem areTargets_reread (es : List Expr) : areTargets (listReread es) = areTargets es := by
  cases es with
  | nil => rfl
  | cons e es => simp only [listReread, areTargets, isTarget_reread e, areTargets_reread es]

end

section Items

variable {Follows : List Token → Prop} {e v : Expr} {ts : List Token}

/-- What begins an expression ends no row. -/
theorem Reads.starts {level : Nat} (h : Reads level ts e) (hlevel : 0 < level) :
    ∃ t ∈ ts.head?, t ∉ closings := by
  obtain ⟨t, ht, hopens⟩ := h.head
  have hall : ∀ t ∈ closings, t.opens = 0 := by decide
  exact ⟨t, ht, fun hmem => absurd (hall t hmem) (by omega)⟩

theorem Reads.starItem_item (h : Reads Level.test ts e) :
    ReadsItem Parted Within.starItem ts e :=
  ⟨h.starts (by decide), fun _ _ hdepth hrest =>
    h.starItem hdepth (hrest.stops (by decide)) (hrest.head_ne (by decide))⟩

theorem starItem_starred {depth : Nat} {rest : List Token} (h : Reads Level.bitOr ts v)
    (hdepth : ts.length < depth) (hrest : Stops Level.bitOr rest) :
    (Within.ofDepth depth).starItem (.symbol "*" :: (ts ++ rest)) =
      some (.starred v, rest) := by
  unfold Within.starItem acceptSymbol
  rw [accept_bind_cons, if_pos rfl, bind_of_eq (h.part .union rfl nofun hdepth hrest)]
  rfl

theorem Expr.Kept.starItem (h : e.Kept) (hitem : e.isItem = true) :
    ReadsItem Parted Within.starItem (e.tokens Level.test) e.reread := by
  cases hstar : isStarred e with
  | true =>
    obtain ⟨v, rfl⟩ : ∃ v, e = .starred v := by
      cases e <;> first | exact ⟨_, rfl⟩ | cases hstar
    rw [Expr.tokens, Expr.reread]
    refine ⟨⟨_, rfl, by decide⟩, fun depth rest hdepth hrest => ?_⟩
    exact starItem_starred (h Level.bitOr (by decide) (by decide)) (Nat.lt_of_succ_lt hdepth)
      (hrest.stops (by decide))
  | false =>
    have hvalue : e.isValue = true := by simpa [Expr.isItem, hstar] using hitem
    exact (h.rereads hvalue Level.test (Nat.le_refl _) (by decide)).starItem_item

theorem starItems_reread {es : List Expr} (h : AreKept es) (hitems : es.all (·.isItem) = true) :
    List.Forall₂ (ReadsItem Parted Within.starItem) (listTokens Level.test es) (listReread es) := by
  induction es with
  | nil =>
    rw [listTokens, listReread]
    exact .nil
  | cons e es ih =>
    rw [List.all_cons, Bool.and_eq_true] at hitems
    rw [AreKept] at h
    rw [listTokens, listReread]
    exact .cons (h.1.starItem hitems.1) (ih h.2 hitems.2)

end Items

/-! ## Collections -/

section Collections

variable {ts rest : List Token} {tss : List (List Token)} {a : Expr} {as : List Expr}

theorem isLoopNext_of_ne (hfor : rest.head? ≠ some (.keyword "for"))
    (hasync : rest.head? ≠ some (.keyword "async")) :
    isLoopNext rest = some (false, rest) := by
  unfold isLoopNext isKeywordNext
  rw [isNext_bind hfor, isNext_bind hasync]
  rfl

/-- Behind an item of a row that is no comprehension comes no loop. -/
theorem isLoopNext_moreTokens {closing : Token} (hclosing : closing ∈ brackets) :
    isLoopNext (moreTokens tss ++ closing :: rest) =
      some (false, moreTokens tss ++ closing :: rest) := by
  have hall : ∀ t ∈ brackets, .keyword "for" ≠ t ∧ .keyword "async" ≠ t := by decide
  obtain ⟨hfor, hasync⟩ := hall closing hclosing
  exact isLoopNext_of_ne (head_moreTokens_ne tss (by decide) hfor)
    (head_moreTokens_ne tss (by decide) hasync)

theorem reads_list (h : List.Forall₂ (ReadsItem Parted Within.starItem) tss as) :
    Reads Level.atom (.symbol "[" :: (commaTokens tss ++ [.symbol "]"])) (.list as) := by
  refine .of_atom ⟨_, rfl, Nat.le_refl _⟩ fun depth rest hdepth _ => ?_
  rw [List.length_cons, List.length_append] at hdepth
  change (Within.ofDepth depth).listDisplay (commaTokens tss ++ [.symbol "]"] ++ rest) = _
  rw [List.append_assoc, List.singleton_append]
  unfold Within.listDisplay acceptSymbol
  cases h with
  | nil => rfl
  | @cons ts a tss as hitem hitems =>
    rw [commaTokens_cons, List.length_append] at hdepth
    have hfirst := hitem.reads depth (moreTokens tss ++ .symbol "]" :: rest) (by omega)
      (parted_moreTokens tss (by decide))
    have hothers := moreItems_row (.symbol "]") rest hitems (by decide) (show _ < depth by omega)
      (fun others => do
        expectSymbol "]"
        return Expr.list (a :: others))
    rw [commaTokens_cons, List.append_assoc, accept_bind (hitem.head_ne (by decide) _),
      if_neg Bool.false_ne_true, bind_of_eq hfirst, bind_of_eq (isLoopNext_moreTokens (by decide)),
      if_neg Bool.false_ne_true]
    exact hothers

theorem exists_isNameBefore (s : String) (ts : List Token) :
    ∃ b, isNameBefore s ts = some (b, ts) := by
  unfold isNameBefore
  split
  · exact ⟨_, rfl⟩
  · exact ⟨_, rfl⟩

/-- What follows an item between braces that is no key. -/
def Within.afterItem (w : Within) (first : Expr) : Reader Expr := do
  if ← isLoopNext then
    require !(isStarred first)
    let clauses ← w.clauses
    expectSymbol "\x7d"
    return .comprehension .set first clauses
  else
    w.moreItems (.symbol "\x7d") Within.starItem fun rest => do
      expectSymbol "\x7d"
      return .set (first :: rest)

theorem braceDisplay_item {depth : Nat} (hitem : ReadsItem Parted Within.starItem ts a)
    (hstars : (ts ++ rest).head? ≠ some (.symbol "**")) (hdepth : ts.length < depth)
    (hrest : Parted rest) :
    (Within.ofDepth depth).braceDisplay (ts ++ rest) = (Within.ofDepth depth).afterItem a rest := by
  obtain ⟨named, hnamed⟩ := exists_isNameBefore ":=" (ts ++ rest)
  unfold Within.braceDisplay acceptSymbol isSymbolNext isAssignmentNext
  rw [accept_bind (hitem.head_ne (by decide) _), if_neg Bool.false_ne_true, accept_bind hstars,
    if_neg Bool.false_ne_true, bind_of_eq hnamed, bind_of_eq (r := isNext (.symbol "*")) rfl]
  dsimp only
  rw [bind_of_eq (hitem.reads depth rest hdepth hrest), isNext_bind (hrest.head_ne (by decide)),
    Bool.and_false, if_neg Bool.false_ne_true]
  rfl

theorem reads_set (h : List.Forall₂ (ReadsItem Parted Within.starItem) (ts :: tss) (a :: as))
    (hstars : ts.head? ≠ some (.symbol "**")) :
    Reads Level.atom (.symbol "\x7b" :: (commaTokens (ts :: tss) ++ [.symbol "\x7d"]))
      (.set (a :: as)) := by
  obtain ⟨hitem, hitems⟩ := List.forall₂_cons.mp h
  refine .of_atom ⟨_, rfl, Nat.le_refl _⟩ fun depth rest hdepth _ => ?_
  rw [List.length_cons, List.length_append, commaTokens_cons, List.length_append] at hdepth
  have hhead : (ts ++ (moreTokens tss ++ .symbol "\x7d" :: rest)).head? ≠ some (.symbol "**") := by
    obtain ⟨t, us, rfl⟩ := List.exists_cons_of_length_pos hitem.length_pos
    exact hstars
  have hothers := moreItems_row (.symbol "\x7d") rest hitems (by decide)
    (show _ < depth by omega) (fun others => do
      expectSymbol "\x7d"
      return Expr.set (a :: others))
  change (Within.ofDepth depth).braceDisplay
    (commaTokens (ts :: tss) ++ [.symbol "\x7d"] ++ rest) = _
  rw [commaTokens_cons, List.append_assoc, List.append_assoc, List.singleton_append,
    braceDisplay_item hitem hhead (by omega) (parted_moreTokens tss (by decide))]
  unfold Within.afterItem
  rw [bind_of_eq (isLoopNext_moreTokens (by decide)), if_neg Bool.false_ne_true, hothers]
  rfl

/-- A tuple in parentheses. -/
theorem reads_tuple (h : List.Forall₂ (ReadsItem Parted Within.starItem) tss as)
    (hyield : ∀ ts ∈ tss.head?, ts.head? ≠ some (.keyword "yield")) :
    Reads Level.atom (.symbol "(" :: (tupleTokens tss ++ [.symbol ")"])) (.tuple as) := by
  refine .of_atom ⟨_, rfl, Nat.le_refl _⟩ fun depth rest hdepth _ => ?_
  rw [List.length_cons, List.length_append] at hdepth
  change (Within.ofDepth depth).parenthesis (tupleTokens tss ++ [.symbol ")"] ++ rest) = _
  rw [List.append_assoc, List.singleton_append]
  unfold Within.parenthesis acceptSymbol isKeywordNext
  cases h with
  | nil => rfl
  | @cons ts a tss as hitem hitems =>
    rw [tupleTokens_cons, List.length_append, List.length_cons] at hdepth
    have hhead : (ts ++ .symbol "," :: (commaTokens tss ++ .symbol ")" :: rest)).head? ≠
        some (.keyword "yield") := by
      obtain ⟨t, us, rfl⟩ := List.exists_cons_of_length_pos hitem.length_pos
      exact hyield (t :: us) rfl
    have hfirst := hitem.reads depth (.symbol "," :: (commaTokens tss ++ .symbol ")" :: rest))
      (by omega) (parted_cons (by decide))
    have hend : Parted (.symbol ")" :: rest) := parted_cons (by decide)
    have hothers := sequence_commaTokens hitems (by decide) (fun _ => parted_cons (by decide)) hend
      (show _ < depth by omega) (show _ ≤ depth by omega)
    rw [tupleTokens_cons, List.append_assoc, List.cons_append,
      accept_bind (hitem.head_ne (by decide) _), if_neg Bool.false_ne_true, isNext_bind hhead,
      if_neg Bool.false_ne_true, bind_of_eq hfirst, accept_bind_cons, if_pos rfl]
    change (sequence (isNext (.symbol ")")) (Within.starItem (.ofDepth depth)) depth >>= _) _ = _
    rw [bind_of_eq hothers]
    rfl

/-! ### Mappings -/

/-- What follows the first key and value between braces. -/
def Within.afterPair (w : Within) (key value : Expr) : Reader Expr := do
  if ← isLoopNext then
    let clauses ← w.clauses
    expectSymbol "\x7d"
    return .mappingComprehension key value clauses
  else w.mappingRest (.pair key value)

variable {ks vs : List Token} {k v : Expr}

theorem braceDisplay_pair {depth : Nat} (hk : Reads Level.test ks k) (hv : Reads Level.test vs v)
    (hdepth : ks.length + vs.length < depth) (hrest : Parted rest) :
    (Within.ofDepth depth).braceDisplay (ks ++ .symbol ":" :: (vs ++ rest)) =
      (Within.ofDepth depth).afterPair k v rest := by
  have hcolon : Stops Level.test (.symbol ":" :: (vs ++ rest)) := stops_cons (by decide)
  have hkey := hk.starItem (show _ < depth by omega) hcolon (by simp)
  have hvalue := hv.expression (show _ < depth by omega)
    (hrest.stops (by decide))
  have hnamed : isNameBefore ":=" (ks ++ .symbol ":" :: (vs ++ rest)) = some (false, _) :=
    hk.isNameBefore (Nat.le_refl _) (by decide) (by decide) (by simp)
  unfold Within.braceDisplay acceptSymbol isSymbolNext isAssignmentNext expectSymbol
  rw [accept_bind (hk.head_ne (by decide) _), if_neg Bool.false_ne_true,
    accept_bind (hk.head_ne (by decide) _), if_neg Bool.false_ne_true, bind_of_eq hnamed,
    isNext_bind (hk.head_ne (by decide) _)]
  dsimp only
  rw [bind_of_eq hkey, isNext_bind_cons, if_pos (by decide), expect_bind_cons, bind_of_eq hvalue]
  rfl

theorem mappingItem_pair (hk : Reads Level.test ks k) (hv : Reads Level.test vs v) :
    ReadsItem Parted Within.mappingItem (ks ++ .symbol ":" :: vs) (.pair k v) := by
  constructor
  · obtain ⟨t, ht, hstarts⟩ := hk.starts (by decide)
    refine ⟨t, ?_, hstarts⟩
    rw [Option.mem_def, List.head?_append, ht]
    rfl
  · intro depth rest hdepth hrest
    rw [List.length_append, List.length_cons] at hdepth
    have hcolon : Stops Level.test (.symbol ":" :: (vs ++ rest)) := stops_cons (by decide)
    have hkey := hk.expression (show _ < depth by omega) hcolon
    have hvalue := hv.expression (show _ < depth by omega)
      (hrest.stops (by decide))
    unfold Within.mappingItem acceptSymbol expectSymbol
    rw [List.append_assoc, List.cons_append, accept_bind (hk.head_ne (by decide) _),
      if_neg Bool.false_ne_true, bind_of_eq hkey, expect_bind_cons, bind_of_eq hvalue]
    rfl

theorem mappingItem_unpacked (hv : Reads Level.bitOr vs v) :
    ReadsItem Parted Within.mappingItem (.symbol "**" :: vs) (.unpacked v) := by
  refine ⟨⟨_, rfl, by decide⟩, fun depth rest hdepth hrest => ?_⟩
  have hvalue := hv.part .union rfl nofun (Nat.lt_of_succ_lt hdepth)
    (hrest.stops (by decide))
  unfold Within.mappingItem acceptSymbol
  rw [List.cons_append, accept_bind_cons, if_pos rfl, bind_of_eq hvalue]
  rfl

def MappingItem.Rereads : MappingItem → Prop
  | .pair k v => k.Rereads ∧ v.Rereads
  | .unpacked v => v.Rereads

theorem mappingItems_reread {items : List MappingItem} (h : ∀ item ∈ items, item.Rereads) :
    List.Forall₂ (ReadsItem Parted Within.mappingItem) (mappingTokens items)
      (mappingReread items) := by
  induction items with
  | nil =>
    rw [mappingTokens, mappingReread]
    exact .nil
  | cons item items ih =>
    have hitem := h item List.mem_cons_self
    have hitems := ih fun i hi => h i (List.mem_cons_of_mem _ hi)
    cases item with
    | pair k v =>
      rw [mappingTokens, mappingReread]
      exact .cons (mappingItem_pair (hitem.1 _ (Nat.le_refl _) (by decide))
        (hitem.2 _ (Nat.le_refl _) (by decide))) hitems
    | unpacked v =>
      rw [mappingTokens, mappingReread]
      exact .cons (mappingItem_unpacked (hitem _ (by decide) (by decide))) hitems

theorem mappingRest_row {depth : Nat} {first : MappingItem} {items : List MappingItem}
    (h : List.Forall₂ (ReadsItem Parted Within.mappingItem) tss items)
    (hdepth : (moreTokens tss).length < depth) :
    (Within.ofDepth depth).mappingRest first (moreTokens tss ++ .symbol "\x7d" :: rest) =
      some (.mapping (first :: items), rest) :=
  moreItems_row (.symbol "\x7d") rest h (by decide) hdepth fun others => do
    expectSymbol "\x7d"
    return Expr.mapping (first :: others)

theorem reads_mapping {items : List MappingItem} (h : ∀ item ∈ items, item.Rereads) :
    Reads Level.atom (.symbol "\x7b" :: (commaTokens (mappingTokens items) ++ [.symbol "\x7d"]))
      (.mapping (mappingReread items)) := by
  refine .of_atom ⟨_, rfl, Nat.le_refl _⟩ fun depth rest hdepth _ => ?_
  rw [List.length_cons, List.length_append] at hdepth
  change (Within.ofDepth depth).braceDisplay
    (commaTokens (mappingTokens items) ++ [.symbol "\x7d"] ++ rest) = _
  rw [List.append_assoc, List.singleton_append]
  cases items with
  | nil =>
    rw [mappingTokens, mappingReread]
    rfl
  | cons item items =>
    have hfirst := h item List.mem_cons_self
    have hitems := mappingItems_reread fun i hi => h i (List.mem_cons_of_mem _ hi)
    have hparted : Parted (moreTokens (mappingTokens items) ++ .symbol "\x7d" :: rest) :=
      parted_moreTokens _ (by decide)
    cases item with
    | pair k v =>
      rw [mappingTokens, commaTokens_cons, List.length_append, List.length_append,
        List.length_cons] at hdepth
      rw [mappingTokens, mappingReread, commaTokens_cons, List.append_assoc, List.append_assoc,
        List.cons_append, braceDisplay_pair (hfirst.1 _ (Nat.le_refl _) (by decide))
          (hfirst.2 _ (Nat.le_refl _) (by decide)) (by omega) hparted]
      unfold Within.afterPair
      rw [bind_of_eq (isLoopNext_moreTokens (by decide)), if_neg Bool.false_ne_true,
        mappingRest_row hitems (by omega)]
    | unpacked v =>
      rw [mappingTokens, commaTokens_cons, List.length_append, List.length_cons] at hdepth
      have hv : Reads Level.bitOr (v.tokens Level.bitOr) v.reread :=
        hfirst _ (by decide) (by decide)
      have hvalue := hv.part .union rfl nofun (show _ < depth by omega)
        (hparted.stops (by decide))
      rw [mappingTokens, mappingReread, commaTokens_cons, List.append_assoc, List.cons_append]
      unfold Within.braceDisplay acceptSymbol
      rw [accept_bind (by simp), if_neg Bool.false_ne_true, accept_bind_cons, if_pos rfl,
        bind_of_eq hvalue, mappingRest_row hitems (by omega)]

end Collections

/-! ## Comprehensions -/

section Comprehensions

variable {e v t s : Expr} {ts rest : List Token} {depth : Nat}

/-- What a loop assigns to is one value, or an unpacked one. -/
theorem isItem_of_isTarget (h : isTarget e = true) : e.isItem = true := by
  cases e with
  | tuple es =>
    have hslices : es.any isSlice = false := by
      rw [isTarget] at h
      induction es with
      | nil => rfl
      | cons e es ih =>
        rw [areTargets, Bool.and_eq_true] at h
        rw [List.any_cons, ih h.2, Bool.or_false]
        cases e <;> first | rfl | cases h.1
    simp only [Expr.isItem, Expr.isValue, hslices, Bool.not_false, Bool.or_true]
  | name | «attribute» | subscript | starred | list => rfl
  | _ => cases h

/-- A tuple apart, what a loop assigns to has no parentheses anywhere. -/
theorem tokens_of_isTarget (h : isTarget e = true) (hstar : isStarred e = false) {level : Nat}
    (hlevel : Level.test ≤ level) : e.tokens level = e.tokens Level.atom := by
  cases e with
  | tuple es =>
    have hlow : Level.tuple < level := Nat.lt_of_lt_of_le (by decide) hlevel
    rw [Expr.tokens, Expr.tokens, decide_eq_true hlow, decide_eq_true (by decide)]
  | starred => cases hstar
  | name | «attribute» | subscript | list => rw [Expr.tokens.eq_def, Expr.tokens.eq_def]
  | _ => cases h

theorem tokens_of_isTarget_of_ne (h : isTarget e = true) (htuple : ∀ es, e ≠ .tuple es) :
    e.tokens Level.tuple = e.tokens Level.test := by
  cases e with
  | tuple es => exact absurd rfl (htuple es)
  | name | «attribute» | subscript | list | starred => rw [Expr.tokens.eq_def, Expr.tokens.eq_def]
  | _ => cases h

theorem require_target (h : isTarget e = true) :
    (require (isTarget e) >>= fun _ => (pure e : Reader Expr)) rest = some (e, rest) := by
  rw [h]
  rfl

theorem Expr.Kept.target (hk : e.Kept) (h : isTarget e = true) :
    ReadsItem (Stops Level.atom) Within.target (e.tokens Level.test) e.reread := by
  cases hstar : isStarred e with
  | false =>
    have hvalue : e.isValue = true := by simpa [Expr.isItem, hstar] using isItem_of_isTarget h
    have he : Reads Level.atom (e.tokens Level.test) e.reread := by
      rw [tokens_of_isTarget h hstar (Nat.le_refl _)]
      exact hk.rereads hvalue _ (by decide) (Nat.le_refl _)
    refine ⟨he.starts (by decide), fun depth rest hdepth hrest => ?_⟩
    unfold Within.target acceptSymbol
    rw [accept_bind (he.head_ne (by decide) _), if_neg Bool.false_ne_true,
      bind_of_eq (he.part .primary rfl nofun hdepth hrest)]
    exact require_target ((isTarget_reread e).trans h)
  | true =>
    obtain ⟨v, rfl⟩ : ∃ v, e = .starred v := by
      cases e <;> first | exact ⟨_, rfl⟩ | cases hstar
    have hself := h
    rw [isTarget, Bool.and_eq_true, Bool.not_eq_true'] at hself
    have hv : Reads Level.atom (v.tokens Level.bitOr) v.reread := by
      rw [tokens_of_isTarget hself.2 hself.1 (by decide)]
      exact hk _ (by decide) (Nat.le_refl _)
    rw [Expr.tokens, Expr.reread]
    refine ⟨⟨_, rfl, by decide⟩, fun depth rest hdepth hrest => ?_⟩
    unfold Within.target acceptSymbol
    rw [List.cons_append, accept_bind_cons, if_pos rfl,
      bind_of_eq (hv.part .primary rfl nofun (Nat.lt_of_succ_lt hdepth) hrest)]
    exact require_target (e := .starred v.reread) ((isTarget_reread (.starred v)).trans h)

theorem targets_reread {es : List Expr} (hk : AreKept es) (h : areTargets es = true) :
    List.Forall₂ (ReadsItem (Stops Level.atom) Within.target) (listTokens Level.test es)
      (listReread es) := by
  induction es with
  | nil =>
    rw [listTokens, listReread]
    exact .nil
  | cons e es ih =>
    rw [areTargets, Bool.and_eq_true] at h
    rw [AreKept] at hk
    rw [listTokens, listReread]
    exact .cons (hk.1.target h.1) (ih hk.2 h.2)

/-- The targets of a loop are read up to its `in`. -/
theorem Expr.Kept.targets (hk : t.Kept) (h : isTarget t = true)
    (hdepth : (t.tokens Level.tuple).length < depth) (rest : List Token) :
    (Within.ofDepth depth).targets (t.tokens Level.tuple ++ .keyword "in" :: rest) =
      some (t.reread, .keyword "in" :: rest) := by
  unfold Within.targets acceptSymbol
  by_cases htuple : ∃ e es, t = .tuple (e :: es)
  · obtain ⟨e, es, rfl⟩ := htuple
    rw [Expr.Kept, AreKept] at hk
    rw [isTarget, areTargets, Bool.and_eq_true] at h
    have htokens : (Expr.tuple (e :: es)).tokens Level.tuple = e.tokens Level.test ++
        .symbol "," :: commaTokens (listTokens Level.test es) := by
      rw [Expr.tokens, listTokens, tupleTokens_cons]
      rfl
    rw [htokens, List.length_append, List.length_cons] at hdepth
    have hfirst := (hk.1.1.target h.1).reads depth
      (.symbol "," :: (commaTokens (listTokens Level.test es) ++ .keyword "in" :: rest)) (by omega)
      (stops_cons (by decide))
    have hend : Stops Level.atom (.keyword "in" :: rest) := stops_cons (by decide)
    have hothers := sequence_commaTokens (targets_reread hk.1.2 h.2) (by decide)
      (fun _ => stops_cons (by decide)) hend (show _ < depth by omega) (show _ ≤ depth by omega)
    rw [htokens, List.append_assoc, List.cons_append, bind_of_eq hfirst, accept_bind_cons,
      if_pos rfl]
    change (sequence (isNext (.keyword "in")) (Within.target (.ofDepth depth)) depth >>= _) _ = _
    rw [bind_of_eq hothers, Expr.reread, listReread]
    rfl
  · have htokens : t.tokens Level.tuple = t.tokens Level.test := by
      by_cases hempty : t = .tuple []
      · rw [hempty, Expr.tokens, Expr.tokens]
        rfl
      · refine tokens_of_isTarget_of_ne h fun es hes => ?_
        cases es with
        | nil => exact hempty hes
        | cons e es => exact htuple ⟨e, es, hes⟩
    rw [htokens] at hdepth ⊢
    rw [bind_of_eq ((hk.target h).reads depth (.keyword "in" :: rest) hdepth
      (stops_cons (by decide))), accept_bind (by simp)]
    rfl

theorem gather_conditions {cs : List Expr} (h : ∀ c ∈ cs, c.Rereads) {rounds : Nat}
    (hdepth : (conditionTokens cs).length ≤ depth) (hrounds : (conditionTokens cs).length ≤ rounds)
    (hrest : Stops Level.test rest) :
    gather (Within.ofDepth depth).condition rounds (conditionTokens cs ++ rest) =
      some (listReread cs, rest) := by
  induction cs generalizing rounds with
  | nil =>
    have hnone : (Within.ofDepth depth).condition rest = some (none, rest) := by
      unfold Within.condition acceptKeyword
      rw [accept_bind (hrest.head_ne (by decide))]
      rfl
    rw [conditionTokens, listReread]
    exact gather_of_none hnone rounds
  | cons c cs ih =>
    rw [conditionTokens, List.length_append, List.length_cons] at hdepth hrounds
    have hnext : Stops Level.or (conditionTokens cs ++ rest) := by
      cases cs with
      | nil =>
        rw [conditionTokens]
        exact hrest.mono (by decide)
      | cons d cs =>
        rw [conditionTokens]
        exact stops_cons (by decide)
    have hc : Reads Level.or (c.tokens (Level.next Level.test)) c.reread :=
      h c List.mem_cons_self _ (by decide) (by decide)
    have hcondition : (Within.ofDepth depth).condition (.keyword "if" ::
        (c.tokens (Level.next Level.test) ++ (conditionTokens cs ++ rest))) =
        some (some c.reread, conditionTokens cs ++ rest) := by
      unfold Within.condition acceptKeyword
      rw [accept_bind_cons, if_pos rfl,
        bind_of_eq (hc.part .disjunction rfl nofun (by omega) hnext)]
      rfl
    obtain ⟨rounds, rfl⟩ : ∃ n, rounds = n + 1 := ⟨rounds - 1, by omega⟩
    rw [conditionTokens, listReread, List.append_assoc, List.cons_append, gather,
      bind_of_eq hcondition]
    dsimp only
    rw [bind_of_eq (ih (fun d hd => h d (List.mem_cons_of_mem _ hd)) (by omega) (by omega))]
    rfl

def Clause.Rereads : Clause → Prop
  | .loop _ t s cs => isTarget t = true ∧ t.Kept ∧ s.Rereads ∧ ∀ c ∈ cs, c.Rereads

/-- The words that a loop begins with. -/
def loopTokens (isAsync : Bool) : List Token :=
  if isAsync then [.keyword "async", .keyword "for"] else [.keyword "for"]

theorem clauseTokens_cons (isAsync : Bool) (cs : List Expr) (clauses : List Clause) :
    clauseTokens (.loop isAsync t s cs :: clauses) = loopTokens isAsync ++
      (t.tokens Level.tuple ++ .keyword "in" :: (s.tokens (Level.next Level.test) ++
        (conditionTokens cs ++ clauseTokens clauses))) := by
  rw [clauseTokens]
  simp only [loopTokens, List.append_assoc, List.cons_append]

theorem stops_clauseTokens {level : Nat} (hlevel : 0 < level) (clauses : List Clause)
    (hrest : Stops level rest) : Stops level (clauseTokens clauses ++ rest) := by
  cases clauses with
  | nil =>
    rw [clauseTokens]
    exact hrest
  | cons c clauses =>
    obtain ⟨isAsync, t, s, cs⟩ := c
    rw [clauseTokens_cons, List.append_assoc]
    cases isAsync <;> exact stops_cons hlevel

theorem stops_conditionTokens (cs : List Expr) (hrest : Stops Level.or rest) :
    Stops Level.or (conditionTokens cs ++ rest) := by
  cases cs with
  | nil =>
    rw [conditionTokens]
    exact hrest
  | cons c cs =>
    rw [conditionTokens]
    exact stops_cons (by decide)

theorem clause_loop {isAsync : Bool} {cs : List Expr}
    (h : (Clause.loop isAsync t s cs).Rereads)
    (hdepth : (t.tokens Level.tuple).length + (s.tokens (Level.next Level.test)).length +
      (conditionTokens cs).length < depth) (hrest : Stops Level.test rest) :
    (Within.ofDepth depth).clause (loopTokens isAsync ++ (t.tokens Level.tuple ++ .keyword "in" ::
        (s.tokens (Level.next Level.test) ++ (conditionTokens cs ++ rest)))) =
      some (some (.loop isAsync t.reread s.reread (listReread cs)), rest) := by
  obtain ⟨htarget, ht, hs, hcs⟩ := h
  have hsource : Reads Level.or (s.tokens (Level.next Level.test)) s.reread :=
    hs _ (by decide) (by decide)
  have htargets := ht.targets htarget (show _ < depth by omega)
    (s.tokens (Level.next Level.test) ++ (conditionTokens cs ++ rest))
  have hpart := hsource.part .disjunction rfl nofun (show _ < depth by omega)
    (stops_conditionTokens cs (hrest.mono (by decide)))
  have hlength : (conditionTokens cs).length ≤ depth := by omega
  have hconditions := gather_conditions hcs hlength hlength hrest
  have hloop (us : List Token) :
      isLoopNext (loopTokens isAsync ++ us) = some (true, loopTokens isAsync ++ us) := by
    cases isAsync <;> rfl
  unfold Within.clause acceptKeyword expectKeyword
  rw [bind_of_eq (hloop _), if_pos rfl]
  cases isAsync with
  | true =>
    change (accept (.keyword "async") >>= _)
      (.keyword "async" :: .keyword "for" :: (t.tokens Level.tuple ++ _)) = _
    rw [accept_bind_cons, expect_bind_cons, bind_of_eq htargets, expect_bind_cons,
      bind_of_eq hpart]
    change (gather (Within.ofDepth depth).condition depth >>= _) _ = _
    rw [bind_of_eq hconditions]
    rfl
  | false =>
    change (accept (.keyword "async") >>= _) (.keyword "for" :: (t.tokens Level.tuple ++ _)) = _
    rw [accept_bind (by simp), expect_bind_cons, bind_of_eq htargets, expect_bind_cons,
      bind_of_eq hpart]
    change (gather (Within.ofDepth depth).condition depth >>= _) _ = _
    rw [bind_of_eq hconditions]
    rfl

/-- The loops of a comprehension are read up to the bracket that ends it. -/
theorem gather_clauses {clauses : List Clause} (h : ∀ c ∈ clauses, c.Rereads) {closing : Token}
    (hclosing : closing ∈ brackets) {rounds : Nat} (hdepth : (clauseTokens clauses).length ≤ depth)
    (hrounds : (clauseTokens clauses).length ≤ rounds) :
    gather (Within.ofDepth depth).clause rounds (clauseTokens clauses ++ closing :: rest) =
      some (clausesReread clauses, closing :: rest) := by
  have hparted : Parted (closing :: rest) := parted_bracket hclosing
  induction clauses generalizing rounds with
  | nil =>
    have hnone : (Within.ofDepth depth).clause (closing :: rest) =
        some (none, closing :: rest) := by
      have hloop : isLoopNext (moreTokens [] ++ closing :: rest) = some (false, _) :=
        isLoopNext_moreTokens hclosing
      rw [moreTokens, List.nil_append] at hloop
      unfold Within.clause
      rw [bind_of_eq hloop]
      rfl
    rw [clauseTokens, clausesReread]
    exact gather_of_none hnone rounds
  | cons c clauses ih =>
    obtain ⟨isAsync, t, s, cs⟩ := c
    have hwords : 0 < (loopTokens isAsync).length := by cases isAsync <;> decide
    rw [clauseTokens_cons] at hdepth hrounds
    simp only [List.length_append, List.length_cons] at hdepth hrounds
    have hclause := clause_loop (h _ List.mem_cons_self) (show _ < depth by omega)
      (stops_clauseTokens (by decide) clauses (hparted.stops (by decide)))
    obtain ⟨rounds, rfl⟩ : ∃ n, rounds = n + 1 := ⟨rounds - 1, by omega⟩
    rw [clauseTokens_cons, clausesReread]
    simp only [List.append_assoc, List.cons_append]
    rw [gather, bind_of_eq hclause]
    dsimp only
    rw [bind_of_eq (ih (fun d hd => h d (List.mem_cons_of_mem _ hd)) (by omega) (by omega))]
    rfl

/-- The loops of a comprehension, of which there is one at least, stand behind its item. -/
theorem clauseTokens_spec {clauses : List Clause} (hne : clauses ≠ []) (rest : List Token) :
    Parted (clauseTokens clauses ++ rest) ∧
      isLoopNext (clauseTokens clauses ++ rest) = some (true, clauseTokens clauses ++ rest) ∧
      (clauseTokens clauses ++ rest).head? ≠ some (.symbol ",") := by
  obtain ⟨⟨isAsync, t, s, cs⟩, clauses, rfl⟩ := List.exists_cons_of_ne_nil hne
  rw [clauseTokens_cons, List.append_assoc]
  cases isAsync with
  | true => exact ⟨parted_cons (by decide), rfl, nofun⟩
  | false => exact ⟨parted_cons (by decide), rfl, nofun⟩

theorem require_true_bind {α : Type} (f : Unit → Reader α) :
    (require true >>= f) ts = f () ts := rfl

/-- The loops of a comprehension and the bracket behind them. -/
theorem clauses_closing {clauses : List Clause} (h : ∀ c ∈ clauses, c.Rereads) {closing : Token}
    (hclosing : closing ∈ brackets) (hdepth : (clauseTokens clauses).length ≤ depth)
    (f : List Clause → Expr) :
    ((Within.ofDepth depth).clauses >>= fun cs => expect closing >>= fun _ =>
        (pure (f cs) : Reader Expr)) (clauseTokens clauses ++ closing :: rest) =
      some (f (clausesReread clauses), rest) := by
  have hclauses : (Within.ofDepth depth).clauses (clauseTokens clauses ++ closing :: rest) =
      some (clausesReread clauses, closing :: rest) :=
    gather_clauses h hclosing hdepth hdepth
  rw [bind_of_eq hclauses, expect_bind_cons]
  rfl

theorem reads_comprehension (collects : Collects) {clauses : List Clause}
    (he : Reads Level.test ts e) (hstar : isStarred e = false) (hne : clauses ≠ [])
    (h : ∀ c ∈ clauses, c.Rereads) :
    Reads Level.atom (match collects with
      | .list => .symbol "[" :: (ts ++ clauseTokens clauses ++ [.symbol "]"])
      | .set => .symbol "\x7b" :: (ts ++ clauseTokens clauses ++ [.symbol "\x7d"])
      | .generator => .symbol "(" :: (ts ++ clauseTokens clauses ++ [.symbol ")"]))
      (.comprehension collects e (clausesReread clauses)) := by
  cases collects with
  | list =>
    refine .of_atom ⟨_, rfl, Nat.le_refl _⟩ fun depth rest hdepth _ => ?_
    simp only [List.length_cons, List.length_append] at hdepth
    obtain ⟨hparted, hloop, hcomma⟩ := clauseTokens_spec hne (.symbol "]" :: rest)
    change (Within.ofDepth depth).listDisplay
      (ts ++ clauseTokens clauses ++ [.symbol "]"] ++ rest) = _
    simp only [List.append_assoc, List.singleton_append]
    unfold Within.listDisplay acceptSymbol
    rw [accept_bind (he.head_ne (by decide) _), if_neg Bool.false_ne_true,
      bind_of_eq (he.starItem_item.reads depth _ (by omega) hparted), bind_of_eq hloop, if_pos rfl,
      hstar, Bool.not_false, require_true_bind]
    exact clauses_closing h (by decide) (by omega) (.comprehension .list e)
  | set =>
    refine .of_atom ⟨_, rfl, Nat.le_refl _⟩ fun depth rest hdepth _ => ?_
    simp only [List.length_cons, List.length_append] at hdepth
    obtain ⟨hparted, hloop, hcomma⟩ := clauseTokens_spec hne (.symbol "\x7d" :: rest)
    change (Within.ofDepth depth).braceDisplay
      (ts ++ clauseTokens clauses ++ [.symbol "\x7d"] ++ rest) = _
    simp only [List.append_assoc, List.singleton_append]
    rw [braceDisplay_item he.starItem_item (he.head_ne (by decide) _) (by omega) hparted]
    unfold Within.afterItem
    rw [bind_of_eq hloop, if_pos rfl, hstar, Bool.not_false, require_true_bind]
    exact clauses_closing h (by decide) (by omega) (.comprehension .set e)
  | generator =>
    refine .of_atom ⟨_, rfl, Nat.le_refl _⟩ fun depth rest hdepth _ => ?_
    simp only [List.length_cons, List.length_append] at hdepth
    obtain ⟨hparted, hloop, hcomma⟩ := clauseTokens_spec hne (.symbol ")" :: rest)
    change (Within.ofDepth depth).parenthesis
      (ts ++ clauseTokens clauses ++ [.symbol ")"] ++ rest) = _
    simp only [List.append_assoc, List.singleton_append]
    unfold Within.parenthesis acceptSymbol isKeywordNext
    rw [accept_bind (he.head_ne (by decide) _), if_neg Bool.false_ne_true,
      isNext_bind (he.head_ne (by decide) _), if_neg Bool.false_ne_true,
      bind_of_eq (he.starItem_item.reads depth _ (by omega) hparted),
      accept_bind hcomma, if_neg Bool.false_ne_true, hstar, Bool.not_false, require_true_bind,
      bind_of_eq hloop, if_pos rfl]
    exact clauses_closing h (by decide) (by omega) (.comprehension .generator e)

theorem reads_mappingComprehension {us : List Token} {clauses : List Clause}
    (hk : Reads Level.test ts e) (hv : Reads Level.test us v) (hne : clauses ≠ [])
    (h : ∀ c ∈ clauses, c.Rereads) :
    Reads Level.atom (.symbol "\x7b" :: (ts ++ .symbol ":" :: us ++ clauseTokens clauses ++
      [.symbol "\x7d"])) (.mappingComprehension e v (clausesReread clauses)) := by
  refine .of_atom ⟨_, rfl, Nat.le_refl _⟩ fun depth rest hdepth _ => ?_
  simp only [List.length_cons, List.length_append] at hdepth
  obtain ⟨hparted, hloop, -⟩ := clauseTokens_spec hne (.symbol "\x7d" :: rest)
  change (Within.ofDepth depth).braceDisplay
    (ts ++ .symbol ":" :: us ++ clauseTokens clauses ++ [.symbol "\x7d"] ++ rest) = _
  simp only [List.append_assoc, List.cons_append, List.nil_append]
  rw [braceDisplay_pair hk hv (by omega) hparted]
  unfold Within.afterPair
  rw [bind_of_eq hloop, if_pos rfl]
  exact clauses_closing h (by decide) (by omega) (.mappingComprehension e v)

end Comprehensions

/-! ## Forms that need parentheses -/

section Parentheses

variable {v : Expr} {ts rest : List Token}

theorem reads_assignment (target : String) (h : Reads Level.test ts v) :
    Reads Level.atom (.symbol "(" :: (.name target :: .symbol ":=" :: ts ++ [.symbol ")"]))
      (.assignment (normalForm target) v) := by
  refine .of_atom ⟨_, rfl, Nat.le_refl _⟩ fun depth rest hdepth _ => ?_
  simp only [List.length_cons, List.length_append] at hdepth
  have hclose : Stops Level.test (.symbol ")" :: rest) := stops_cons (by decide)
  have hvalue := h.expression (show _ < depth by omega) hclose
  have hfirst : (Within.ofDepth depth).starItem
      (.name target :: .symbol ":=" :: (ts ++ .symbol ")" :: rest)) =
      some (.assignment (normalForm target) v, .symbol ")" :: rest) := by
    unfold Within.starItem Within.named acceptSymbol isAssignmentNext
    rw [accept_bind (by simp), if_neg Bool.false_ne_true,
      bind_of_eq (r := isNameBefore ":=") rfl, if_pos (by decide),
      bind_of_eq (r := name) rfl, bind_of_eq (r := skip) rfl, List.tail_cons, bind_of_eq hvalue]
    rfl
  change (Within.ofDepth depth).parenthesis
    (.name target :: .symbol ":=" :: ts ++ [.symbol ")"] ++ rest) = _
  simp only [List.append_assoc, List.cons_append, List.nil_append]
  unfold Within.parenthesis acceptSymbol isKeywordNext
  rw [accept_bind (by simp), if_neg Bool.false_ne_true, isNext_bind (by simp),
    if_neg Bool.false_ne_true, bind_of_eq hfirst]
  rfl

/-- Whatever begins an expression is taken for its beginning. -/
theorem startsExpression_of_opens {t : Token} (h : 0 < t.opens) : startsExpression t = true := by
  rcases t with s | s | _ | _ | s | _ | _ | _
  case keyword =>
    by_contra hne
    simp only [startsExpression, List.contains_eq_mem, List.mem_cons, List.not_mem_nil, or_false,
      decide_eq_true_eq, not_or] at hne
    simp [Token.opens, hne] at h
  case symbol =>
    by_contra hne
    simp only [startsExpression, List.contains_eq_mem, List.mem_cons, List.not_mem_nil, or_false,
      decide_eq_true_eq, not_or] at hne
    simp [Token.opens, hne] at h
  all_goals first | rfl | exact absurd h (by decide)

/-- A value is read where items may stand. -/
theorem Reads.items_ofDepth {level depth : Nat} (h : Reads level ts v) (hlow : Level.test ≤ level)
    (hhigh : level ≤ Level.atom) (hdepth : ts.length ≤ depth) (hrest : Stops Level.test rest)
    (hcomma : rest.head? ≠ some (.symbol ",")) :
    (Within.ofDepth depth).items (ts ++ rest) = some (v, rest) := by
  have hv := h.widen (Nat.le_refl _) hlow hhigh
  have hread := hv.read hdepth hrest
  have hfirst : (Within.ofDepth depth).starExpression (ts ++ rest) = some (v, rest) := by
    unfold Within.starExpression acceptSymbol
    rw [accept_bind (hv.head_ne (by decide) _), if_neg Bool.false_ne_true]
    exact hread
  unfold Within.items Within.tupleOf acceptSymbol
  rw [bind_of_eq hfirst, accept_bind hcomma]
  rfl

theorem Reads.items {level depth : Nat} (h : Reads level ts v) (hlow : Level.test ≤ level)
    (hhigh : level ≤ Level.atom) (hdepth : ts.length < depth)
    (hrest : Stops Level.test rest) (hcomma : rest.head? ≠ some (.symbol ",")) :
    (Within.ofDepth depth).read .items (ts ++ rest) = some (v, rest) := by
  obtain ⟨depth, rfl⟩ : ∃ d, depth = d + 1 := ⟨depth - 1, by omega⟩
  exact h.items_ofDepth hlow hhigh (Nat.le_of_lt_succ hdepth) hrest hcomma

theorem yield_closing {depth : Nat}
    (hv : (Within.ofDepth depth).yield ts = some (v, .symbol ")" :: rest))
    (hkeyword : ts.head? = some (.keyword "yield")) :
    (Within.ofDepth depth).parenthesis ts = some (v, rest) := by
  obtain ⟨us, rfl⟩ := List.head?_eq_some_iff.mp hkeyword
  unfold Within.parenthesis acceptSymbol isKeywordNext
  rw [accept_bind (by simp), if_neg Bool.false_ne_true, isNext_bind_cons, if_pos rfl, bind_of_eq hv]
  rfl

theorem reads_yield_none :
    Reads Level.atom [.symbol "(", .keyword "yield", .symbol ")"] (.yield none) :=
  .of_atom ⟨_, rfl, Nat.le_refl _⟩ fun _ _ _ _ => rfl

theorem reads_yield (h : Reads Level.atom ts v) :
    Reads Level.atom (.symbol "(" :: (.keyword "yield" :: ts ++ [.symbol ")"]))
      (.yield (some v)) := by
  refine .of_atom ⟨_, rfl, Nat.le_refl _⟩ fun depth rest hdepth _ => ?_
  simp only [List.length_cons, List.length_append] at hdepth
  have hclose : Stops Level.test (.symbol ")" :: rest) := stops_cons (by decide)
  have hitems := h.items (by decide) (Nat.le_refl _) (show _ < depth by omega) hclose (by simp)
  obtain ⟨t, ht, hopens⟩ := h.head_append (Nat.le_refl _) (.symbol ")" :: rest)
  have hstarts : isExpressionNext (ts ++ .symbol ")" :: rest) =
      some (true, ts ++ .symbol ")" :: rest) := by
    unfold isExpressionNext
    rw [bind_of_eq (r := peek) rfl, ht, Option.any_some,
      startsExpression_of_opens (Nat.lt_of_lt_of_le (by decide) hopens)]
    rfl
  change (Within.ofDepth depth).parenthesis (.keyword "yield" :: ts ++ [.symbol ")"] ++ rest) = _
  simp only [List.append_assoc, List.cons_append, List.nil_append]
  refine yield_closing ?_ rfl
  unfold Within.yield expectKeyword acceptKeyword
  rw [expect_bind_cons, accept_bind (h.head_ne (by decide) _), if_neg Bool.false_ne_true,
    bind_of_eq hstarts, if_pos rfl, bind_of_eq hitems]
  rfl

theorem reads_yieldFrom (h : Reads Level.test ts v) :
    Reads Level.atom (.symbol "(" :: (.keyword "yield" :: .keyword "from" :: ts ++ [.symbol ")"]))
      (.yieldFrom v) := by
  refine .of_atom ⟨_, rfl, Nat.le_refl _⟩ fun depth rest hdepth _ => ?_
  simp only [List.length_cons, List.length_append] at hdepth
  have hclose : Stops Level.test (.symbol ")" :: rest) := stops_cons (by decide)
  have hvalue := h.expression (show _ < depth by omega) hclose
  change (Within.ofDepth depth).parenthesis
    (.keyword "yield" :: .keyword "from" :: ts ++ [.symbol ")"] ++ rest) = _
  simp only [List.append_assoc, List.cons_append, List.nil_append]
  refine yield_closing ?_ rfl
  unfold Within.yield expectKeyword acceptKeyword
  rw [expect_bind_cons, accept_bind_cons, if_pos rfl, bind_of_eq hvalue]
  rfl

end Parentheses

end LivePreview.Code
