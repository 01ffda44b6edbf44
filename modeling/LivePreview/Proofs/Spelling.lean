import LivePreview.Proofs.Numerals
import Mathlib.Data.List.Forall2

/-!
# The tokens of an expression

An expression has tokens as it has a text, and its text is cut into its tokens. For this its names
have to be names and its constants such as a text can hold; literals with fields are left out. The
places that its parts stand in are those that the grammar has for them.
-/

namespace LivePreview.Code

open LivePreview.Text (Points isIdentifier isKeyword)

/-! ## Tokens -/

def parenthesizedTokens (condition : Bool) (ts : List Token) : List Token :=
  if condition then .symbol "(" :: (ts ++ [.symbol ")"]) else ts

/-- Items with a comma between them. -/
def commaTokens : List (List Token) → List Token
  | [] => []
  | [t] => t
  | t :: ts => t ++ .symbol "," :: commaTokens ts

def tupleTokens : List (List Token) → List Token
  | [t] => t ++ [.symbol ","]
  | ts => commaTokens ts

def Constant.token : Constant → Token
  | .none => .keyword "None"
  | .true => .keyword "True"
  | .false => .keyword "False"
  | .ellipsis => .symbol "..."
  | .text value marked => .literal (if marked then ['u'] else []) (quotedBody value)
  | .bytes value => .literal ['b'] (value.flatMap (quotedByte (plainQuote value)))
  | c => .constant c.reread

def UnaryOp.token : UnaryOp → Token
  | .invert => .symbol "~"
  | .not => .keyword "not"
  | .plus => .symbol "+"
  | .minus => .symbol "-"

def BinaryOp.symbol : BinaryOp → String
  | .add => "+"
  | .sub => "-"
  | .mul => "*"
  | .matMul => "@"
  | .div => "/"
  | .mod => "%"
  | .pow => "**"
  | .shiftLeft => "<<"
  | .shiftRight => ">>"
  | .bitOr => "|"
  | .bitXor => "^"
  | .bitAnd => "&"
  | .floorDiv => "//"

def BoolOp.keyword : BoolOp → String
  | .and => "and"
  | .or => "or"

def CompareOp.tokens : CompareOp → List Token
  | .equal => [.symbol "=="]
  | .notEqual => [.symbol "!="]
  | .less => [.symbol "<"]
  | .lessEqual => [.symbol "<="]
  | .greater => [.symbol ">"]
  | .greaterEqual => [.symbol ">="]
  | .same => [.keyword "is"]
  | .notSame => [.keyword "is", .keyword "not"]
  | .member => [.keyword "in"]
  | .notMember => [.keyword "not", .keyword "in"]

/-- The mark before a collecting parameter. -/
def ParamKind.mark : ParamKind → List Token
  | .rest => [.symbol "*"]
  | .keywordRest => [.symbol "**"]
  | _ => []

/-- The slash after the last parameter that is given by position only. -/
def slashTokens (kind : ParamKind) (ps : List LambdaParam) : List (List Token) :=
  match kind, ps with
  | .positionalOnly, .param .positionalOnly _ _ :: _ => []
  | .positionalOnly, _ => [[.symbol "/"]]
  | _, _ => []

mutual

/-- The tokens of an expression at a place that asks for the level. -/
def Expr.tokens (level : Nat) : Expr → List Token
  | .constant c => [c.token]
  | .name id => [.name id]
  | .attribute v name => v.tokens Level.atom ++ [.symbol ".", .name name]
  | .subscript v index =>
    v.tokens Level.atom ++ .symbol "[" ::
      ((match index with
      | .tuple (item :: items) => tupleTokens (listTokens Level.test (item :: items))
      | other => other.tokens Level.test) ++ [.symbol "]"])
  | .slice lower upper step =>
    optionTokens lower ++ .symbol ":" ::
      (optionTokens upper ++
        match step with
        | some s => .symbol ":" :: s.tokens Level.test
        | none => [])
  | .starred v => .symbol "*" :: v.tokens Level.bitOr
  | .call f args keywords =>
    f.tokens Level.atom ++ .symbol "(" ::
      (commaTokens (listTokens Level.test args ++ keywordTokens keywords) ++ [.symbol ")"])
  | .tuple items =>
    parenthesizedTokens (items.isEmpty || Level.tuple < level)
      (tupleTokens (listTokens Level.test items))
  | .list items =>
    .symbol "[" :: (commaTokens (listTokens Level.test items) ++ [.symbol "]"])
  | .set items =>
    .symbol "\x7b" :: (commaTokens (listTokens Level.test items) ++ [.symbol "\x7d"])
  | .mapping items => .symbol "\x7b" :: (commaTokens (mappingTokens items) ++ [.symbol "\x7d"])
  | .boolean op operands =>
    parenthesizedTokens (op.level < level) (chainTokens op op.level operands)
  | .binary l op r =>
    parenthesizedTokens (op.level < level)
      (l.tokens op.leftLevel ++ .symbol op.symbol :: r.tokens op.rightLevel)
  | .unary op v => parenthesizedTokens (op.level < level) (op.token :: v.tokens op.level)
  | .compare first rest =>
    parenthesizedTokens (Level.compare < level)
      (first.tokens (Level.next Level.compare) ++ comparisonTokens rest)
  | .conditional test body orElse =>
    parenthesizedTokens (Level.test < level)
      (body.tokens (Level.next Level.test) ++ .keyword "if" ::
        (test.tokens (Level.next Level.test) ++ .keyword "else" :: orElse.tokens Level.test))
  | .lambda params body =>
    parenthesizedTokens (Level.test < level)
      (.keyword "lambda" :: (commaTokens (paramTokens false params) ++ .symbol ":" ::
        body.tokens Level.test))
  | .comprehension collects item clauses =>
    let body := item.tokens Level.test ++ clauseTokens clauses
    match collects with
    | .list => .symbol "[" :: (body ++ [.symbol "]"])
    | .set => .symbol "\x7b" :: (body ++ [.symbol "\x7d"])
    | .generator => .symbol "(" :: (body ++ [.symbol ")"])
  | .mappingComprehension key value clauses =>
    .symbol "\x7b" :: (key.tokens Level.test ++ .symbol ":" :: value.tokens Level.test ++
      clauseTokens clauses ++ [.symbol "\x7d"])
  | .assignment target value =>
    parenthesizedTokens true (.name target :: .symbol ":=" :: value.tokens Level.atom)
  | .yield none => parenthesizedTokens (Level.yield < level) [.keyword "yield"]
  | .yield (some v) =>
    parenthesizedTokens (Level.yield < level) (.keyword "yield" :: v.tokens Level.atom)
  | .yieldFrom v =>
    parenthesizedTokens (Level.yield < level)
      (.keyword "yield" :: .keyword "from" :: v.tokens Level.atom)
  | .await v =>
    parenthesizedTokens (Level.await < level) (.keyword "await" :: v.tokens Level.atom)
  | .format _ => []

def optionTokens : Option Expr → List Token
  | none => []
  | some e => e.tokens Level.test

def listTokens (level : Nat) : List Expr → List (List Token)
  | [] => []
  | e :: es => e.tokens level :: listTokens level es

def keywordTokens : List Keyword → List (List Token)
  | [] => []
  | .named name v :: ks =>
    (.name name :: .symbol "=" :: v.tokens Level.test) :: keywordTokens ks
  | .unpacked v :: ks => (.symbol "**" :: v.tokens Level.test) :: keywordTokens ks

def mappingTokens : List MappingItem → List (List Token)
  | [] => []
  | .pair k v :: items =>
    (k.tokens Level.test ++ .symbol ":" :: v.tokens Level.test) :: mappingTokens items
  | .unpacked v :: items => (.symbol "**" :: v.tokens Level.bitOr) :: mappingTokens items

def chainTokens (op : BoolOp) (level : Nat) : List Expr → List Token
  | [] => []
  | e :: es =>
    e.tokens (Level.next level) ++
      if es.isEmpty then [] else .keyword op.keyword :: chainTokens op (Level.next level) es

def comparisonTokens : List Comparison → List Token
  | [] => []
  | .step op v :: rest =>
    op.tokens ++ v.tokens (Level.next Level.compare) ++ comparisonTokens rest

def clauseTokens : List Clause → List Token
  | [] => []
  | .loop isAsync target source conditions :: rest =>
    (if isAsync then [.keyword "async", .keyword "for"] else [.keyword "for"]) ++
      target.tokens Level.tuple ++ .keyword "in" :: source.tokens (Level.next Level.test) ++
      conditionTokens conditions ++ clauseTokens rest

def conditionTokens : List Expr → List Token
  | [] => []
  | e :: es => .keyword "if" :: e.tokens (Level.next Level.test) ++ conditionTokens es

def paramTokens (seenStar : Bool) : List LambdaParam → List (List Token)
  | [] => []
  | .param kind name default :: ps =>
    let text := kind.mark ++ .name name ::
      match default with
      | some d => .symbol "=" :: d.tokens Level.test
      | none => []
    (if needsStar seenStar kind then [[.symbol "*"], text] else [text]) ++ slashTokens kind ps ++
      paramTokens (seenStar || kind = .rest || kind = .keywordOnly) ps

end

/-! ## Places -/

def isSlice : Expr → Bool
  | .slice _ _ _ => true
  | _ => false

/-- Whether the expression is one value, whatever stands around it. -/
def Expr.isValue : Expr → Bool
  | .starred _ | .slice _ _ _ => false
  | .tuple items => !items.any isSlice
  | _ => true

/-- What can be an item of a collection. -/
def Expr.isItem (e : Expr) : Bool := isStarred e || e.isValue

/-- What can stand between the commas of an index. -/
def Expr.isIndexItem (e : Expr) : Bool := isSlice e || e.isItem

/-- What can be the index of a subscript. -/
def Expr.isIndex : Expr → Bool
  | .starred _ => false
  | .slice _ _ _ | .tuple _ => true
  | e => e.isValue

def Constant.isWritable : Constant → Bool
  | .integer n => n < 10 ^ integerDigitLimit
  | .text value _ => value.all (· ≤ 0x10ffff)
  | .bytes value => value.all (· < 256)
  | _ => Bool.true

def Keyword.wellPlaced : Keyword → Bool
  | .named name v => isName name && v.isValue
  | .unpacked v => v.isValue

def MappingItem.wellPlaced : MappingItem → Bool
  | .pair k v => k.isValue && v.isValue
  | .unpacked v => v.isValue

def Comparison.wellPlaced : Comparison → Bool
  | .step _ v => v.isValue

def Clause.wellPlaced : Clause → Bool
  | .loop _ target source conditions =>
    isTarget target && source.isValue && conditions.all (·.isValue)

/-- The order of the kinds of parameters. -/
def ParamKind.rank : ParamKind → Nat
  | .positionalOnly => 0
  | .positional => 1
  | .rest => 2
  | .keywordOnly => 3
  | .keywordRest => 4

/-- Whether a parameter may stand behind one of rank `last`. `hasDefault` holds if one before has a
default. -/
def ParamKind.mayFollow (last : Nat) (hasDefault : Bool) (kind : ParamKind)
    (default : Option Expr) : Bool :=
  match kind with
  | .rest | .keywordRest => last < kind.rank && default.isNone
  | .keywordOnly => last ≤ kind.rank
  | .positionalOnly | .positional => last ≤ kind.rank && (default.isSome || !hasDefault)

def paramsInOrder (last : Nat) (hasDefault : Bool) : List LambdaParam → Bool
  | [] => true
  | .param kind id default :: ps =>
    isName id && default.all (·.isValue) && kind.mayFollow last hasDefault default &&
      paramsInOrder kind.rank (hasDefault || default.isSome) ps

/-- The expression has a text, and its parts stand where the grammar has a place for them. Its
parts are not looked at any deeper. -/
def Expr.wellPlaced : Expr → Bool
  | .constant c => c.isWritable
  | .name id => isName id
  | .attribute v id => v.isValue && isName id
  | .subscript v index => v.isValue && index.isIndex
  | .slice l u s => l.all (·.isValue) && u.all (·.isValue) && s.all (·.isValue)
  | .starred v => v.isValue
  | .call f args keywords =>
    f.isValue && args.all (·.isItem) && keywords.all (·.wellPlaced)
  | .tuple items => items.all (·.isIndexItem)
  | .list items => items.all (·.isItem)
  | .set items => !items.isEmpty && items.all (·.isItem)
  | .mapping items => items.all (·.wellPlaced)
  | .boolean _ operands => 2 ≤ operands.length && operands.all (·.isValue)
  | .binary l _ r => l.isValue && r.isValue
  | .unary _ v => v.isValue
  | .compare first rest => first.isValue && !rest.isEmpty && rest.all (·.wellPlaced)
  | .conditional t b o => t.isValue && b.isValue && o.isValue
  | .lambda params body => paramsInOrder 0 false params && body.isValue
  | .comprehension _ item clauses =>
    item.isValue && !clauses.isEmpty && clauses.all (·.wellPlaced)
  | .mappingComprehension k v clauses =>
    k.isValue && v.isValue && !clauses.isEmpty && clauses.all (·.wellPlaced)
  | .assignment target v => isName target && v.isValue
  | .yield v => v.all (·.isValue)
  | .yieldFrom v => v.isValue
  | .await v => v.isValue
  | .format _ => false

/-- All parts of an expression have their place. -/
def WellPlaced (ps : List Expr) : Prop := ∀ p ∈ ps, p.wellPlaced = true

theorem wellPlaced_append {ps qs : List Expr} :
    WellPlaced (ps ++ qs) ↔ WellPlaced ps ∧ WellPlaced qs := List.forall_mem_append

theorem wellPlaced_cons {p : Expr} {ps : List Expr} :
    WellPlaced (p :: ps) ↔ p.wellPlaced = true ∧ WellPlaced ps := List.forall_mem_cons

/-! ## What follows and what begins -/

/-- Characters that may follow whatever stands between brackets. -/
def closers : List Char := [' ', ')', ']', '\x7d', ',', ':', '(', '[', '\n']

def Closes (c : Char) : Prop := c ∈ closers

instance : DecidablePred Closes := fun _ => inferInstanceAs (Decidable (_ ∈ _))

/-- A value may have an equals sign behind it as well. -/
def Trails (c : Char) : Prop := Closes c ∨ c = '='

theorem Closes.trails {c : Char} (h : Closes c) : Trails c := .inl h

theorem Trails.ends {c : Char} (h : Trails c) : (isNameChar c = false ∧ c ≠ '.') ∧ ¬ IsQuote c := by
  have hall : (('=' :: closers).all fun d =>
      decide ((isNameChar d = false ∧ d ≠ '.') ∧ ¬ IsQuote d)) = true := by
    decide
  exact of_decide_eq_true (List.all_eq_true.mp hall c (List.mem_cons.mpr (Or.symm h)))

/-- What may follow an expression at this level; a point only where an attribute may. -/
def Expr.Ends (level : Nat) (e : Expr) (c : Char) : Prop :=
  Closes c ∨ e.isValue = true ∧ (c = '=' ∧ Level.test ≤ level ∨
    c = '.' ∧ Level.atom ≤ level ∧ ∀ k, e = .constant k → k.isInteger = false)

theorem Expr.Ends.trails {level : Nat} {e : Expr} {c : Char} (h : e.Ends level c)
    (hlevel : level < Level.atom) : Trails c := by
  rcases h with h | ⟨-, ⟨h, -⟩ | ⟨-, hatom, -⟩⟩
  · exact .inl h
  · exact .inr h
  · exact absurd hatom (Nat.not_le.mpr hlevel)

/-- Nothing that may follow an expression goes on with its last word or literal. -/
theorem Expr.Ends.apart {level : Nat} {e : Expr} {c : Char} (h : e.Ends level c) :
    isNameChar c = false ∧ ¬ IsQuote c ∧
      (c = '.' → ∀ k, e = .constant k → k.isInteger = false) := by
  rcases h with h | ⟨-, ⟨rfl, -⟩ | ⟨rfl, -, hnumber⟩⟩
  · have hends := h.trails.ends
    exact ⟨hends.1.1, hends.2, fun hpoint => absurd hpoint hends.1.2⟩
  · exact ⟨by decide, by decide, nofun⟩
  · exact ⟨by decide, by decide, fun _ => hnumber⟩

/-- How the text of an expression begins: with a token that goes on with no symbol, except that a
star goes on with a star. -/
def Opens (starred : Bool) (cs : List Char) : Prop :=
  ∃ c ds, cs = c :: ds ∧ Begins c ∧ c ≠ '=' ∧ c ≠ '>' ∧ (c = '*' → starred = true)

theorem Opens.append {starred : Bool} {cs : List Char} (h : Opens false cs) (ds : List Char) :
    Opens starred (cs ++ ds) := by
  obtain ⟨c, cs, rfl, hbegins, heq, hgreater, hstar⟩ := h
  exact ⟨c, cs ++ ds, rfl, hbegins, heq, hgreater, fun hc => absurd (hstar hc) Bool.false_ne_true⟩

theorem opens_cons {starred : Bool} {c : Char} (hc : Begins c ∧ c ≠ '=' ∧ c ≠ '>' ∧ c ≠ '*')
    (cs : List Char) : Opens starred (c :: cs) :=
  ⟨c, cs, rfl, hc.1, hc.2.1, hc.2.2.1, fun h => absurd h hc.2.2.2⟩

theorem opens_of_isNameChar {starred : Bool} {c : Char} (h : isNameChar c = true)
    (cs : List Char) : Opens starred (c :: cs) := by
  obtain ⟨-, -, hhash, hline, -, hslash, -, hspace⟩ := ne_of_isNameChar h
  refine opens_cons ⟨⟨hspace, hline, hhash, hslash⟩, ?_, ?_, ?_⟩ cs <;> rintro rfl <;> cases h

theorem opens_of_digit {starred : Bool} {cs : List Char} (h : cs.head?.any isDecimal = true) :
    Opens starred cs := by
  obtain ⟨c, hhead, hc⟩ := (Option.any_eq_true ..).mp h
  obtain ⟨ds, rfl⟩ := List.head?_eq_some_iff.mp hhead
  exact opens_of_isNameChar (isNameChar_of_isDecimal hc) ds

theorem opens_name {starred : Bool} {s : String} (h : isIdentifier s.toList = true) :
    Opens starred s.toList := by
  obtain ⟨c, cs, hcons, hstart, -⟩ := exists_cons_of_isIdentifier h
  rw [hcons]
  exact opens_of_isNameChar (isNameChar_of_isNameStart hstart) cs

theorem opens_parenthesized {condition : Bool} {cs : List Char} (h : Opens false cs) :
    Opens false (parenthesized condition cs) := by
  cases condition with
  | false => exact h
  | true => exact opens_cons (by decide) _

theorem isStarred_of_isValue {e : Expr} (h : e.isValue = true) : isStarred e = false := by
  cases e <;> first | rfl | cases h

namespace Phrase

variable {P Q : Char → Prop} {cs ds : List Char} {ts us : List Token}

/-- Parentheses are left out only below the level of attributes. -/
theorem parenthesized {e : Expr} {level own : Nat} (hown : own < Level.atom)
    (h : Phrase Trails cs ts) :
    Phrase (e.Ends level) (parenthesized (own < level) cs)
      (parenthesizedTokens (own < level) ts) := by
  by_cases hlevel : own < level
  · rw [decide_eq_true hlevel]
    exact h.parentheses (.inl (by decide))
  · rw [decide_eq_false hlevel]
    exact h.mono fun c hc => hc.trails (by omega)

/-- Phrases that may end alike. -/
theorem follow (h : Phrase P cs ts) (h' : Phrase P ds us) (hds : ∀ c ∈ ds.head?, P c) :
    Phrase P (cs ++ ds) (ts ++ us) := h.andThen h' hds fun _ _ hc => hc

/-! ### Marks -/

theorem comma : Phrase (fun _ => True) [','] [.symbol ","] :=
  (symbol (s := ",") (by decide) (by decide) (by decide)).mono fun _ _ => by
    simp [apart, symbols, List.isPrefixOf]

theorem colon : Phrase (· ≠ '=') [':'] [.symbol ":"] :=
  (symbol (s := ":") (by decide) (by decide) (by decide)).mono fun c hc => by
    simp [apart, symbols, List.isPrefixOf, hc]

theorem equals : Phrase (· ≠ '=') ['='] [.symbol "="] :=
  (symbol (s := "=") (by decide) (by decide) (by decide)).mono fun c hc => by
    simp [apart, symbols, List.isPrefixOf, hc]

theorem star : Phrase (fun c => c ≠ '=' ∧ c ≠ '*') ['*'] [.symbol "*"] :=
  (symbol (s := "*") (by decide) (by decide) (by decide)).mono fun c hc => by
    simp [apart, symbols, List.isPrefixOf, hc.1, hc.2]

theorem stars : Phrase (· ≠ '=') ['*', '*'] [.symbol "**"] :=
  (symbol (s := "**") (by decide) (by decide) (by decide)).mono fun c hc => by
    simp [apart, symbols, List.isPrefixOf, hc]

/-- A point before a name. -/
theorem point : Phrase (fun c => isNameStart c = true) ['.'] [.symbol "."] :=
  (symbol (s := ".") (by decide) (by decide) (by decide)).mono fun c hc => by
    have hdecimal : isDecimal c = false := by
      simpa using (Bool.and_eq_true_iff.mp hc).2
    have hpoint : c ≠ '.' := (ne_of_isNameChar (isNameChar_of_isNameStart hc)).2.2.2.2.2.2.1
    simp [apart, symbols, List.isPrefixOf, hdecimal, hpoint]

/-- A mark and what it stands before. -/
theorem before {starred : Bool} (h : Phrase (· ≠ '=') cs ts) (h' : Phrase Q ds us)
    (hopens : Opens starred ds) : Phrase Q (cs ++ ds) (ts ++ us) := by
  obtain ⟨d, ds, rfl, -, heq, -⟩ := hopens
  exact h.append heq h'

theorem starBefore (h' : Phrase Q ds us) (hopens : Opens false ds) :
    Phrase Q ('*' :: ds) (.symbol "*" :: us) := by
  obtain ⟨d, ds, rfl, -, heq, -, hstar⟩ := hopens
  exact star.append ⟨heq, fun h => absurd (hstar h) Bool.false_ne_true⟩ h'

/-- A keyword, which may end at a blank. -/
theorem keyword {s : String} (hs : isIdentifier s.toList = true) (hkeyword : isKeyword s = true) :
    Phrase Closes s.toList [.keyword s] :=
  (word hs hkeyword).mono fun _ hc => ⟨hc.trails.ends.1.1, hc.trails.ends.2⟩

/-- A point and a name. -/
theorem pointName {s : String} (hs : isName s = true) :
    Phrase EndsName ('.' :: s.toList) [.symbol ".", .name s] := by
  obtain ⟨c, cs, hcons, hstart, -⟩ :=
    exists_cons_of_isIdentifier (Bool.and_eq_true_iff.mp hs).1
  have hname := name hs
  rw [hcons] at hname ⊢
  exact point.append hstart hname

end Phrase

/-! ## Constants -/

theorem phrase_constant {k : Constant} (h : k.isWritable = true) (level : Nat) :
    Phrase ((Expr.constant k).Ends level) (k.print false) [k.token] := by
  have hword {s : String} (hs : isIdentifier s.toList = true) (hkeyword : isKeyword s = true) :
      Phrase ((Expr.constant k).Ends level) s.toList [.keyword s] :=
    (Phrase.word hs hkeyword).mono fun c hc => ⟨hc.apart.1, hc.apart.2.1⟩
  cases k with
  | none | true | false => exact hword (by decide) (by decide)
  | ellipsis =>
    refine (Phrase.symbol (s := "...") (by decide) (by decide) (by decide)).mono fun c _ => ?_
    simp [apart, symbols, List.isPrefixOf]
  | integer n =>
    rw [Constant.isWritable, decide_eq_true_eq] at h
    refine (Phrase.constant (cut_integer h)).mono fun c hc => ?_
    refine ⟨hc.apart.1, fun hpoint => ?_⟩
    have hnumber := hc.apart.2.2 hpoint _ rfl
    cases hnumber
  | real x => exact (Phrase.constant (cut_real x)).mono fun c hc => hc.apart.1
  | imaginary x => exact (Phrase.constant (cut_imaginary x)).mono fun c hc => hc.apart.1
  | text value marked =>
    have hvalue : ∀ p ∈ value, p ≤ 0x10ffff := by simpa [Constant.isWritable] using h
    cases marked with
    | false => exact (Phrase.literal (cut_quoted hvalue)).mono fun c hc => hc.apart.2.1
    | true => exact (Phrase.literal (cut_quotedMarked hvalue)).mono fun c hc => hc.apart.2.1
  | bytes value =>
    have hvalue : ∀ b ∈ value, b < 256 := by simpa [Constant.isWritable] using h
    exact (Phrase.literal (cut_quotedBytes hvalue)).mono fun c hc => hc.apart.2.1

theorem opens_constant (k : Constant) : Opens false (k.print false) := by
  cases k with
  | none | true | false => exact opens_of_isNameChar (by decide) _
  | ellipsis => exact opens_cons (by decide) _
  | integer n =>
    have hhead := head_digits (digits_toDigits n) []
    rw [List.append_nil] at hhead
    exact opens_of_digit hhead
  | real x =>
    obtain ⟨whole, fraction, exponent, htext, hnumber, -⟩ := x.text_eq_numberText true
    have hhead := head_digit_numberText hnumber []
    rw [List.append_nil, ← htext] at hhead
    exact opens_of_digit hhead
  | imaginary x =>
    obtain ⟨whole, fraction, exponent, htext, hnumber, -⟩ := x.text_eq_numberText false
    have hhead := head_digit_numberText hnumber ['j']
    rw [← htext] at hhead
    exact opens_of_digit hhead
  | text value marked =>
    cases marked with
    | true => exact opens_of_isNameChar (by decide) _
    | false =>
      change Opens false (plainQuote value :: _)
      rcases isQuote_plainQuote value with h | h <;> rw [h] <;>
        exact opens_cons (by decide) _
  | bytes value => exact opens_of_isNameChar (by decide) _

/-! ## Forms of expressions -/

/-- The text of the expression has its tokens, at every level; where it can be a tuple without
parentheses, nothing is said of how it begins. -/
def Expr.IsSpelled (e : Expr) : Prop :=
  ∀ level, Phrase (e.Ends level) (e.print false level) (e.tokens level) ∧
    (Level.test ≤ level → Opens (isStarred e) (e.print false level))

/-- Texts in a row have tokens in a row. -/
def AreSpelled (css : List (List Char)) (tss : List (List Token)) : Prop :=
  List.Forall₂ (Phrase Closes) css tss

namespace Expr.IsSpelled

variable {e : Expr} {level : Nat}

theorem closes (h : e.IsSpelled) (level : Nat) :
    Phrase Closes (e.print false level) (e.tokens level) := (h level).1.mono fun _ => .inl

theorem trails (h : e.IsSpelled) (hvalue : e.isValue = true) (hlevel : Level.test ≤ level) :
    Phrase Trails (e.print false level) (e.tokens level) :=
  (h level).1.mono fun _ hc => hc.imp_right fun heq => ⟨hvalue, .inl ⟨heq, hlevel⟩⟩

theorem opens (h : e.IsSpelled) (hvalue : e.isValue = true) (hlevel : Level.test ≤ level) :
    Opens false (e.print false level) := isStarred_of_isValue hvalue ▸ (h level).2 hlevel

end Expr.IsSpelled

section Forms

attribute [local simp] Expr.print Expr.tokens

variable {e l r v i t b o : Expr} {cs ds : List Char} {ts us : List Token}

theorem Phrase.commaSeparated {css : List (List Char)} {tss : List (List Token)}
    (h : AreSpelled css tss) : Phrase Closes (commaSeparated css) (commaTokens tss) := by
  induction h with
  | nil => exact .nil
  | @cons cs ts css tss hfirst hrest ih =>
    cases hrest with
    | nil => exact hfirst
    | cons hnext hothers =>
      exact hfirst.append (by decide) (Phrase.comma.append trivial ih.space)

theorem Phrase.tupleItems {css : List (List Char)} {tss : List (List Token)}
    (h : AreSpelled css tss) : Phrase Closes (tupleItems css) (tupleTokens tss) := by
  cases h with
  | nil => exact .nil
  | cons hfirst hrest =>
    cases hrest with
    | nil => exact hfirst.append (by decide) (Phrase.comma.mono fun _ _ => trivial)
    | cons hnext hothers => exact .commaSeparated (.cons hfirst (.cons hnext hothers))

/-- Between blanks a symbol stands alone. -/
theorem apart_space {s : String} (hs : s ∈ symbols) : apart s ' ' = true := by
  have hall : ∀ t ∈ symbols, apart t ' ' = true := by decide +kernel
  exact hall s hs

theorem Phrase.spacedSymbol {P : Char → Prop} {s : String} (hs : s ∈ symbols)
    (hopens : opens s = false) (hopener : opener? s = none) (h : Phrase P cs ts) :
    Phrase P (' ' :: s.toList ++ ' ' :: cs) (.symbol s :: ts) :=
  ((Phrase.symbol hs hopens hopener).append (apart_space hs) h.space).space

theorem Phrase.spacedKeyword {P : Char → Prop} {s : String} (hs : isIdentifier s.toList = true)
    (hkeyword : isKeyword s = true) (h : Phrase P cs ts) :
    Phrase P (' ' :: s.toList ++ ' ' :: cs) (.keyword s :: ts) :=
  ((Phrase.keyword hs hkeyword).append (by decide) h.space).space

theorem spelled_attribute {id : String} (hv : v.IsSpelled) (hvalue : v.isValue = true)
    (hid : isName id = true) : (Expr.attribute v id).IsSpelled := by
  intro level
  have hname : Phrase ((Expr.attribute v id).Ends level) ('.' :: id.toList)
      [.symbol ".", .name id] :=
    (Phrase.pointName hid).mono fun c hc => ⟨hc.apart.1, hc.apart.2.1⟩
  -- A point right behind an integer would be taken for its own.
  have hblank : (Expr.attribute v id).print false level =
        v.print false Level.atom ++ ' ' :: '.' :: id.toList ∨
      (Expr.attribute v id).print false level = v.print false Level.atom ++ '.' :: id.toList ∧
        ∀ k, v = .constant k → k.isInteger = false := by
    by_cases hconstant : ∃ k, v = .constant k
    · obtain ⟨k, rfl⟩ := hconstant
      cases hinteger : k.isInteger with
      | true =>
        left
        conv => lhs; rw [Expr.print]
        simp only [hinteger, if_true, List.append_assoc, List.singleton_append]
      | false =>
        refine .inr ⟨?_, ?_⟩
        · conv => lhs; rw [Expr.print]
          simp only [hinteger, Bool.false_eq_true, if_false, List.append_nil]
        · rintro k' hk'
          cases hk'
          exact hinteger
    · refine .inr ⟨?_, fun k hk => absurd ⟨k, hk⟩ hconstant⟩
      rw [Expr.print]
      · simp
      · exact fun k hk => hconstant ⟨k, hk⟩
  rw [Expr.tokens]
  rcases hblank with hprint | ⟨hprint, hnumber⟩ <;> rw [hprint]
  · exact ⟨(hv Level.atom).1.append (.inl (by decide)) hname.space,
      fun _ => (hv.opens hvalue (by decide)).append _⟩
  · exact ⟨(hv Level.atom).1.append (.inr ⟨hvalue, .inr ⟨rfl, Nat.le_refl _, hnumber⟩⟩) hname,
      fun _ => (hv.opens hvalue (by decide)).append _⟩

theorem spelled_subscript (hv : v.IsSpelled) (hi : i.IsSpelled) (hvalue : v.isValue = true) :
    (Expr.subscript v i).IsSpelled := by
  intro level
  have hindex (cs : List Char) (ts : List Token) (h : Phrase Closes cs ts) :
      Phrase ((Expr.subscript v i).Ends level)
        (v.print false Level.atom ++ '[' :: (cs ++ [']']))
        (v.tokens Level.atom ++ .symbol "[" :: (ts ++ [.symbol "]"])) ∧
      (Level.test ≤ level → Opens false (v.print false Level.atom ++ '[' :: (cs ++ [']']))) :=
    ⟨(hv Level.atom).1.append (.inl (by decide)) (h.squares (by decide)),
      fun _ => (hv.opens hvalue (by decide)).append _⟩
  by_cases htuple : ∃ item items, i = .tuple (item :: items)
  · obtain ⟨item, items, rfl⟩ := htuple
    rw [Expr.print, Expr.tokens]
    refine hindex _ _ ?_
    -- At its own level a tuple has no parentheses.
    have hinner := hi.closes Level.tuple
    rw [Expr.print, Expr.tokens] at hinner
    exact hinner
  · have hne : ∀ item items, i = .tuple (item :: items) → False :=
      fun item items h => htuple ⟨item, items, h⟩
    rw [Expr.print, Expr.tokens]
    · exact hindex _ _ (hi.closes Level.test)
    · exact hne
    · exact hne

/-- A part that may be missing. -/
def OptionSpelled (e : Option Expr) : Prop := ∀ a, e = some a → a.IsSpelled

/-- An empty phrase, or one that begins as an expression does. -/
def StartsPart (cs : List Char) : Prop := ∀ c ∈ cs.head?, c ≠ '='

theorem Opens.startsPart {starred : Bool} (h : Opens starred cs) : StartsPart cs := by
  obtain ⟨c, ds, rfl, -, heq, -⟩ := h
  rintro d hd
  cases hd
  exact heq

theorem StartsPart.append (h : StartsPart cs) (h' : StartsPart ds) : StartsPart (cs ++ ds) := by
  cases cs with
  | nil => exact h'
  | cons c cs => exact h

theorem Phrase.colonBefore (h : Phrase Closes cs ts) (hopens : StartsPart cs) :
    Phrase Closes (':' :: cs) (.symbol ":" :: ts) := by
  refine Phrase.colon.andThen h hopens fun _ c hc => ?_
  rintro rfl
  revert hc
  decide

theorem phrase_option {e : Option Expr} (h : OptionSpelled e) :
    Phrase Closes (printOption false e) (optionTokens e) ∧ StartsPart (printOption false e) := by
  cases e with
  | none =>
    rw [printOption, optionTokens]
    exact ⟨.nil, nofun⟩
  | some e =>
    rw [printOption, optionTokens]
    exact ⟨(h e rfl).closes _, ((h e rfl _).2 (Nat.le_refl _)).startsPart⟩

theorem spelled_slice {l u s : Option Expr} (hl : OptionSpelled l) (hu : OptionSpelled u)
    (hs : OptionSpelled s) (hvalue : l.all (·.isValue) = true) :
    (Expr.slice l u s).IsSpelled := by
  intro level
  have hstep : ∃ cs ts, Phrase Closes cs ts ∧ (∀ c ∈ cs.head?, c = ':') ∧
      (Expr.slice l u s).print false level =
        printOption false l ++ ':' :: (printOption false u ++ cs) ∧
      (Expr.slice l u s).tokens level =
        optionTokens l ++ .symbol ":" :: (optionTokens u ++ ts) := by
    cases s with
    | none => exact ⟨[], [], .nil, nofun, by rw [Expr.print], by rw [Expr.tokens]⟩
    | some s =>
      have hs := hs s rfl
      refine ⟨_, _, (hs.closes Level.test).colonBefore ((hs _).2 (Nat.le_refl _)).startsPart, ?_,
        by rw [Expr.print], by rw [Expr.tokens]⟩
      rintro c hc
      cases hc
      rfl
  obtain ⟨cs, ts, hphrase, hcolon, hprint, htokens⟩ := hstep
  obtain ⟨hlower, hlowerStart⟩ := phrase_option hl
  obtain ⟨hupper, hupperStart⟩ := phrase_option hu
  have hcolons : StartsPart cs := fun c hc => by
    rw [hcolon c hc]
    decide
  have hbounds := (hupper.follow hphrase fun c hc => by rw [hcolon c hc]; decide).colonBefore
    (hupperStart.append hcolons)
  rw [hprint, htokens]
  constructor
  · refine (hlower.append (by decide) hbounds).mono fun c hc => ?_
    exact hc.resolve_right fun h => absurd h.1 Bool.false_ne_true
  · cases l with
    | none =>
      rw [printOption]
      exact fun _ => opens_cons (by decide) _
    | some l =>
      rw [printOption]
      exact fun _ => ((hl l rfl).opens (by simpa using hvalue) (Nat.le_refl _)).append _

theorem spelled_starred (hv : v.IsSpelled) (hvalue : v.isValue = true) :
    (Expr.starred v).IsSpelled := by
  intro level
  rw [Expr.print, Expr.tokens]
  have hopens : Opens false (v.print false Level.bitOr) := hv.opens hvalue (by decide)
  constructor
  · refine (Phrase.starBefore (hv.closes _) hopens).mono fun c hc => ?_
    exact hc.resolve_right fun h => absurd h.1 Bool.false_ne_true
  · exact fun _ => ⟨'*', _, rfl, by decide, by decide, by decide, fun _ => rfl⟩

theorem spelled_call {args : List Expr} {keywords : List Keyword} (hv : v.IsSpelled)
    (hvalue : v.isValue = true)
    (hargs : AreSpelled (printList false Level.test args) (listTokens Level.test args))
    (hkeywords : AreSpelled (printKeywords false keywords) (keywordTokens keywords)) :
    (Expr.call v args keywords).IsSpelled := by
  intro level
  rw [Expr.print, Expr.tokens]
  have hall := Phrase.commaSeparated (List.rel_append hargs hkeywords)
  exact ⟨(hv Level.atom).1.append (.inl (by decide)) (hall.parentheses (by decide)),
    fun _ => (hv.opens hvalue (by decide)).append _⟩

theorem spelled_tuple {items : List Expr}
    (h : AreSpelled (printList false Level.test items) (listTokens Level.test items)) :
    (Expr.tuple items).IsSpelled := by
  intro level
  have hitems := Phrase.tupleItems h
  rw [Expr.print, Expr.tokens]
  by_cases hparentheses : (items.isEmpty || decide (Level.tuple < level)) = true
  · rw [hparentheses]
    exact ⟨hitems.parentheses (by decide),
      fun _ => opens_cons (by decide) _⟩
  · rw [Bool.eq_false_iff.mpr hparentheses]
    rw [Bool.or_eq_true, not_or, decide_eq_true_eq] at hparentheses
    have hlevel : level ≤ 2 := Nat.not_lt.mp hparentheses.2
    constructor
    · refine hitems.mono fun c hc => ?_
      rcases hc with hc | ⟨-, ⟨-, htest⟩ | ⟨-, hatom, -⟩⟩
      · exact hc
      · exact absurd (Nat.le_trans htest hlevel) (by decide)
      · exact absurd (Nat.le_trans hatom hlevel) (by decide)
    · exact fun htest => absurd (Nat.le_trans htest hlevel) (by decide)

theorem spelled_list {items : List Expr}
    (h : AreSpelled (printList false Level.test items) (listTokens Level.test items)) :
    (Expr.list items).IsSpelled := by
  intro level
  rw [Expr.print, Expr.tokens]
  exact ⟨(Phrase.commaSeparated h).squares (by decide),
    fun _ => opens_cons (by decide) _⟩

theorem spelled_set {items : List Expr} (hne : items.isEmpty = false)
    (h : AreSpelled (printList false Level.test items) (listTokens Level.test items)) :
    (Expr.set items).IsSpelled := by
  intro level
  rw [Expr.print, Expr.tokens, hne, if_neg Bool.false_ne_true]
  exact ⟨(Phrase.commaSeparated h).braces (by decide),
    fun _ => opens_cons (by decide) _⟩

theorem spelled_mapping {items : List MappingItem}
    (h : AreSpelled (printMapping false items) (mappingTokens items)) :
    (Expr.mapping items).IsSpelled := by
  intro level
  rw [Expr.print, Expr.tokens]
  exact ⟨(Phrase.commaSeparated h).braces (by decide),
    fun _ => opens_cons (by decide) _⟩

theorem spelled_boolean {op : BoolOp} {operands : List Expr}
    (h : Phrase Trails (printChain false op op.level operands) (chainTokens op op.level operands))
    (hopens : Opens false (printChain false op op.level operands)) :
    (Expr.boolean op operands).IsSpelled := by
  intro level
  rw [Expr.print, Expr.tokens]
  exact ⟨h.parenthesized (by cases op <;> decide), fun _ => opens_parenthesized hopens⟩

theorem BinaryOp.symbol_spec (op : BinaryOp) : op.symbol.toList = op.text ∧ op.symbol ∈ symbols ∧
    opens op.symbol = false ∧ opener? op.symbol = none ∧ op.level < Level.atom ∧
    Level.test ≤ op.leftLevel ∧ Level.test ≤ op.rightLevel := by
  cases op <;> decide

theorem spelled_binary {op : BinaryOp} (hl : l.IsSpelled) (hr : r.IsSpelled)
    (hlv : l.isValue = true) (hrv : r.isValue = true) : (Expr.binary l op r).IsSpelled := by
  intro level
  obtain ⟨htext, hsymbol, hopens, hopener, hatom, hleft, hright⟩ := op.symbol_spec
  have hrest := (hr.trails hrv hright).spacedSymbol hsymbol hopens hopener
  have hall := (hl.trails hlv hleft).append (.inl (by decide)) hrest
  rw [Expr.print, Expr.tokens, ← htext]
  have hassoc : l.print false op.leftLevel ++ ' ' :: op.symbol.toList ++
      ' ' :: r.print false op.rightLevel =
      l.print false op.leftLevel ++ (' ' :: op.symbol.toList ++ ' ' ::
        r.print false op.rightLevel) := List.append_assoc _ _ _
  rw [hassoc]
  exact ⟨hall.parenthesized hatom, fun _ => opens_parenthesized ((hl.opens hlv hleft).append _)⟩

theorem UnaryOp.phrase (op : UnaryOp) (hv : v.IsSpelled) (hvalue : v.isValue = true) :
    Phrase Trails (op.text ++ v.print false op.level) (op.token :: v.tokens op.level) ∧
      Opens false (op.text ++ v.print false op.level) ∧ op.level < Level.atom := by
  have hlevel : Level.test ≤ op.level := by cases op <;> decide
  have hafter := hv.trails hvalue hlevel
  obtain ⟨c, cs, hcons, -, heq, hgreater, -⟩ := hv.opens hvalue hlevel
  cases op with
  | not =>
    have hnot : UnaryOp.not.text ++ v.print false UnaryOp.not.level =
        "not".toList ++ ' ' :: v.print false UnaryOp.not.level := rfl
    rw [hnot]
    exact ⟨(Phrase.keyword (s := "not") (by decide) (by decide)).append (by decide) hafter.space,
      opens_of_isNameChar (by decide) _, by decide⟩
  | invert =>
    refine ⟨?_, opens_cons (by decide) _, by decide⟩
    rw [hcons] at hafter ⊢
    exact (Phrase.symbol (s := "~") (by decide) (by decide) (by decide)).append
      (by simp [apart, symbols, List.isPrefixOf]) hafter
  | plus =>
    refine ⟨?_, opens_cons (by decide) _, by decide⟩
    rw [hcons] at hafter ⊢
    exact (Phrase.symbol (s := "+") (by decide) (by decide) (by decide)).append
      (by simp [apart, symbols, List.isPrefixOf, heq]) hafter
  | minus =>
    refine ⟨?_, opens_cons (by decide) _, by decide⟩
    rw [hcons] at hafter ⊢
    exact (Phrase.symbol (s := "-") (by decide) (by decide) (by decide)).append
      (by simp [apart, symbols, List.isPrefixOf, heq, hgreater]) hafter

theorem spelled_unary {op : UnaryOp} (hv : v.IsSpelled) (hvalue : v.isValue = true) :
    (Expr.unary op v).IsSpelled := by
  intro level
  obtain ⟨hphrase, hopens, hlevel⟩ := op.phrase hv hvalue
  rw [Expr.print, Expr.tokens]
  exact ⟨hphrase.parenthesized hlevel, fun _ => opens_parenthesized hopens⟩

/-- What stands behind a blank. -/
def AfterBlank (cs : List Char) : Prop := ∀ c ∈ cs.head?, c = ' '

theorem AfterBlank.append (h : AfterBlank cs) (h' : AfterBlank ds) : AfterBlank (cs ++ ds) := by
  cases cs with
  | nil => exact h'
  | cons c cs => exact h

theorem AfterBlank.closes (h : AfterBlank cs) : ∀ c ∈ cs.head?, Closes c := fun c hc => by
  rw [h c hc]
  decide

theorem spelled_compare {rest : List Comparison} (hv : v.IsSpelled) (hvalue : v.isValue = true)
    (hrest : Phrase Trails (printComparisons false rest) (comparisonTokens rest))
    (hblank : AfterBlank (printComparisons false rest)) : (Expr.compare v rest).IsSpelled := by
  intro level
  rw [Expr.print, Expr.tokens]
  have hfirst := hv.trails hvalue (show Level.test ≤ Level.next Level.compare by decide)
  exact ⟨(hfirst.follow hrest fun c hc => (hblank.closes c hc).trails).parenthesized (by decide),
    fun _ => opens_parenthesized ((hv.opens hvalue (by decide)).append _)⟩

theorem spelled_conditional (ht : t.IsSpelled) (hb : b.IsSpelled) (ho : o.IsSpelled)
    (htv : t.isValue = true) (hbv : b.isValue = true) (hov : o.isValue = true) :
    (Expr.conditional t b o).IsSpelled := by
  intro level
  have hbody := hb.trails hbv (show Level.test ≤ Level.next Level.test by decide)
  have htest := ht.trails htv (show Level.test ≤ Level.next Level.test by decide)
  have helse := (ho.trails hov (Nat.le_refl _)).spacedKeyword (s := "else") (by decide) (by decide)
  have hif := (htest.append (.inl (by decide)) helse).spacedKeyword (s := "if")
    (by decide) (by decide)
  have hall := hbody.append (.inl (by decide)) hif
  have htext : (Expr.conditional t b o).print false level = parenthesized (Level.test < level)
      (b.print false (Level.next Level.test) ++ (' ' :: "if".toList ++ ' ' ::
        (t.print false (Level.next Level.test) ++ (' ' :: "else".toList ++ ' ' ::
          o.print false Level.test)))) := by
    rw [Expr.print]
    simp
  rw [htext, Expr.tokens]
  exact ⟨hall.parenthesized (by decide),
    fun _ => opens_parenthesized ((hb.opens hbv (by decide)).append _)⟩

theorem spelled_lambda {params : List LambdaParam} (hb : b.IsSpelled) (hvalue : b.isValue = true)
    (hparams : AreSpelled (printParams false false params) (paramTokens false params)) :
    (Expr.lambda params b).IsSpelled := by
  intro level
  have hbody := Phrase.colon.append (by decide) (hb.trails hvalue (Nat.le_refl _)).space
  have hword := Phrase.keyword (s := "lambda") (by decide) (by decide)
  rw [Expr.print, Expr.tokens]
  cases params with
  | nil =>
    rw [paramTokens]
    exact ⟨(hword.append (by decide) hbody).parenthesized (by decide),
      fun _ => opens_parenthesized (opens_of_isNameChar (by decide) _)⟩
  | cons p ps =>
    have hlist := (Phrase.commaSeparated hparams).append (by decide) hbody
    have htext : "lambda".toList ++ (if (p :: ps).isEmpty = true then [] else
          ' ' :: commaSeparated (printParams false false (p :: ps))) ++
        ':' :: ' ' :: b.print false Level.test =
      "lambda".toList ++ ' ' :: (commaSeparated (printParams false false (p :: ps)) ++
        ':' :: ' ' :: b.print false Level.test) := by
      rw [List.append_assoc]
      rfl
    rw [htext]
    exact ⟨(hword.append (by decide) hlist.space).parenthesized (by decide),
      fun _ => opens_parenthesized (opens_of_isNameChar (by decide) _)⟩

/-- The brackets of a comprehension by what it collects. -/
theorem spelled_comprehension {collects : Collects} {clauses : List Clause} (hv : v.IsSpelled)
    (hclauses : Phrase Closes (printClauses false clauses) (clauseTokens clauses))
    (hblank : AfterBlank (printClauses false clauses)) :
    (Expr.comprehension collects v clauses).IsSpelled := by
  intro level
  have hbody := (hv.closes Level.test).follow hclauses hblank.closes
  cases collects <;> rw [Expr.print, Expr.tokens]
  case list => exact ⟨hbody.squares (by decide),
      fun _ => opens_cons (by decide) _⟩
  case set => exact ⟨hbody.braces (by decide),
      fun _ => opens_cons (by decide) _⟩
  case generator => exact ⟨hbody.parentheses (by decide),
      fun _ => opens_cons (by decide) _⟩

theorem phrase_pair (hk : l.IsSpelled) (hv : v.IsSpelled) :
    Phrase Closes (l.print false Level.test ++ ':' :: ' ' :: v.print false Level.test)
      (l.tokens Level.test ++ .symbol ":" :: v.tokens Level.test) :=
  (hk.closes _).append (by decide) (Phrase.colon.append (by decide) (hv.closes _).space)

theorem spelled_mappingComprehension {clauses : List Clause} (hk : l.IsSpelled) (hv : v.IsSpelled)
    (hclauses : Phrase Closes (printClauses false clauses) (clauseTokens clauses))
    (hblank : AfterBlank (printClauses false clauses)) :
    (Expr.mappingComprehension l v clauses).IsSpelled := by
  intro level
  have hbody := (phrase_pair hk hv).follow hclauses hblank.closes
  rw [Expr.print, Expr.tokens]
  exact ⟨hbody.braces (by decide), fun _ => opens_cons (by decide) _⟩

theorem spelled_assignment {id : String} (hid : isName id = true) (hv : v.IsSpelled) :
    (Expr.assignment id v).IsSpelled := by
  intro level
  have hname : Phrase Closes id.toList [.name id] :=
    (Phrase.name hid).mono fun c hc => ⟨hc.trails.ends.1.1, hc.trails.ends.2⟩
  have hvalue := (hv.closes Level.atom).spacedSymbol (s := ":=") (by decide) (by decide) (by decide)
  have htext : (Expr.assignment id v).print false level =
      '(' :: (id.toList ++ (' ' :: ":=".toList ++ ' ' :: v.print false Level.atom) ++ [')']) := by
    rw [Expr.print, parenthesized]
    simp
  rw [htext, Expr.tokens]
  exact ⟨(hname.append (by decide) hvalue).parentheses (by decide),
    fun _ => opens_cons (by decide) _⟩

/-- A word and an operand. -/
theorem phrase_wordBefore {s : String} (hs : isIdentifier s.toList = true)
    (hkeyword : isKeyword s = true) (hv : v.IsSpelled) (hvalue : v.isValue = true) :
    Phrase Trails (s.toList ++ ' ' :: v.print false Level.atom)
      (.keyword s :: v.tokens Level.atom) :=
  (Phrase.keyword hs hkeyword).append (by decide) (hv.trails hvalue (by decide)).space

theorem spelled_yield {a : Option Expr} (h : OptionSpelled a)
    (hvalue : a.all (·.isValue) = true) : (Expr.yield a).IsSpelled := by
  intro level
  have hopens (cs : List Char) : Opens false ("yield".toList ++ cs) :=
    opens_of_isNameChar (by decide) _
  cases a with
  | none =>
    have htrails : Phrase Trails "yield".toList [.keyword "yield"] :=
      (Phrase.word (by decide) (by decide)).mono fun c hc => ⟨hc.ends.1.1, hc.ends.2⟩
    rw [Expr.print, Expr.tokens]
    exact ⟨htrails.parenthesized (by decide), fun _ => opens_parenthesized (hopens [])⟩
  | some v =>
    have hall := phrase_wordBefore (s := "yield") (by decide) (by decide) (h v rfl)
      (by simpa using hvalue)
    have htext : (Expr.yield (some v)).print false level = parenthesized (Level.yield < level)
        ("yield".toList ++ ' ' :: v.print false Level.atom) := by
      rw [Expr.print]
      simp
    rw [htext, Expr.tokens]
    exact ⟨hall.parenthesized (by decide), fun _ => opens_parenthesized (hopens _)⟩

theorem spelled_yieldFrom (hv : v.IsSpelled) (hvalue : v.isValue = true) :
    (Expr.yieldFrom v).IsSpelled := by
  intro level
  have hafter := phrase_wordBefore (s := "from") (by decide) (by decide) hv hvalue
  have hall := (Phrase.keyword (s := "yield") (by decide) (by decide)).append (by decide)
    hafter.space
  have htext : (Expr.yieldFrom v).print false level = parenthesized (Level.yield < level)
      ("yield".toList ++ ' ' :: ("from".toList ++ ' ' :: v.print false Level.atom)) := by
    rw [Expr.print]
    simp
  rw [htext, Expr.tokens]
  exact ⟨hall.parenthesized (by decide),
    fun _ => opens_parenthesized (opens_of_isNameChar (by decide) _)⟩

theorem spelled_await (hv : v.IsSpelled) (hvalue : v.isValue = true) :
    (Expr.await v).IsSpelled := by
  intro level
  have hall := phrase_wordBefore (s := "await") (by decide) (by decide) hv hvalue
  have htext : (Expr.await v).print false level = parenthesized (Level.await < level)
      ("await".toList ++ ' ' :: v.print false Level.atom) := by
    rw [Expr.print]
    simp
  rw [htext, Expr.tokens]
  exact ⟨hall.parenthesized (by decide),
    fun _ => opens_parenthesized (opens_of_isNameChar (by decide) _)⟩

/-! ### Parts in a row -/

theorem areSpelled_cons {e : Expr} {css : List (List Char)} {tss : List (List Token)} {level : Nat}
    (he : e.IsSpelled) (h : AreSpelled css tss) :
    AreSpelled (e.print false level :: css) (e.tokens level :: tss) := .cons (he.closes level) h

theorem phrase_named {id : String} (hid : isName id = true) (hv : v.IsSpelled) :
    Phrase Closes (id.toList ++ '=' :: v.print false Level.test)
      (.name id :: .symbol "=" :: v.tokens Level.test) := by
  have hname : Phrase Trails id.toList [.name id] :=
    (Phrase.name hid).mono fun c hc => ⟨hc.ends.1.1, hc.ends.2⟩
  exact hname.append (.inr rfl)
    (Phrase.equals.before (hv.closes _) ((hv Level.test).2 (Nat.le_refl _)))

theorem phrase_unpacked (hv : v.IsSpelled) {level : Nat} (hlevel : Level.test ≤ level) :
    Phrase Closes ('*' :: '*' :: v.print false level) (.symbol "**" :: v.tokens level) :=
  Phrase.stars.before (hv.closes level) ((hv level).2 hlevel)

theorem CompareOp.phrase (op : CompareOp) {P : Char → Prop} (h : Phrase P cs ts) :
    Phrase P (' ' :: op.text ++ ' ' :: cs) (op.tokens ++ ts) := by
  have htwo (s s' : String) (hs : isIdentifier s.toList = true) (hk : isKeyword s = true)
      (hs' : isIdentifier s'.toList = true) (hk' : isKeyword s' = true) :
      Phrase P (' ' :: s.toList ++ (' ' :: s'.toList ++ ' ' :: cs))
        (.keyword s :: .keyword s' :: ts) :=
    (((Phrase.keyword hs hk).append (by decide) (h.spacedKeyword hs' hk'))).space
  cases op with
  | equal => exact h.spacedSymbol (s := "==") (by decide) (by decide) (by decide)
  | notEqual => exact h.spacedSymbol (s := "!=") (by decide) (by decide) (by decide)
  | less => exact h.spacedSymbol (s := "<") (by decide) (by decide) (by decide)
  | lessEqual => exact h.spacedSymbol (s := "<=") (by decide) (by decide) (by decide)
  | greater => exact h.spacedSymbol (s := ">") (by decide) (by decide) (by decide)
  | greaterEqual => exact h.spacedSymbol (s := ">=") (by decide) (by decide) (by decide)
  | same => exact h.spacedKeyword (s := "is") (by decide) (by decide)
  | notSame => exact htwo "is" "not" (by decide) (by decide) (by decide) (by decide)
  | member => exact h.spacedKeyword (s := "in") (by decide) (by decide)
  | notMember => exact htwo "not" "in" (by decide) (by decide) (by decide) (by decide)

theorem Level.test_le_next {level : Nat} (h : Level.test ≤ level) :
    Level.test ≤ Level.next level := Nat.le_min.mpr ⟨Nat.le_succ_of_le h, by decide⟩

/-- A parameter with what may stand before its name and behind it. -/
theorem phrase_param (kind : ParamKind) {id : String} (hid : isName id = true)
    (default : Option Expr) : OptionSpelled default →
    Phrase Closes
      ((match kind with
        | .rest => ['*']
        | .keywordRest => ['*', '*']
        | _ => []) ++ id.toList ++
        match default with
        | some d => '=' :: d.print false Level.test
        | none => [])
      (kind.mark ++ .name id ::
        match default with
        | some d => .symbol "=" :: d.tokens Level.test
        | none => []) := by
  intro h
  have hopens : Opens false id.toList := opens_name (Bool.and_eq_true_iff.mp hid).1
  have hmark {cs : List Char} {ts : List Token} (hphrase : Phrase Closes cs ts)
      (hstart : Opens false cs) :
      Phrase Closes ((match kind with
        | .rest => ['*']
        | .keywordRest => ['*', '*']
        | _ => []) ++ cs) (kind.mark ++ ts) := by
    cases kind with
    | rest => exact hphrase.starBefore hstart
    | keywordRest => exact Phrase.stars.before hphrase hstart
    | positionalOnly | positional | keywordOnly => exact hphrase
  rw [List.append_assoc]
  cases default with
  | none =>
    refine hmark ?_ (hopens.append [])
    rw [List.append_nil]
    exact (Phrase.name hid).mono fun c hc => ⟨hc.trails.ends.1.1, hc.trails.ends.2⟩
  | some d => exact hmark (phrase_named hid (h d rfl)) (hopens.append _)

theorem areSpelled_slash (kind : ParamKind) (ps : List LambdaParam) :
    AreSpelled (match kind, ps with
      | .positionalOnly, .param .positionalOnly _ _ :: _ => []
      | .positionalOnly, _ => [['/']]
      | _, _ => []) (slashTokens kind ps) := by
  have hslash : Phrase Closes ['/'] [.symbol "/"] :=
    (Phrase.symbol (s := "/") (by decide) (by decide) (by decide)).mono fun c hc => by
      have hall : ∀ d ∈ closers, apart "/" d = true := List.all_eq_true.mp (by decide)
      exact hall c hc
  unfold slashTokens
  split
  · exact .nil
  · exact .cons hslash .nil
  · exact .nil

end Forms

/-! ## All expressions -/

mutual

/-- The text of an expression whose parts have their places is cut into its tokens. -/
theorem Expr.isSpelled (e : Expr) (h : WellPlaced e.parts) : e.IsSpelled := by
  cases e <;> rw [Expr.parts, wellPlaced_cons] at h <;> obtain ⟨hself, h⟩ := h <;>
    simp only [Expr.wellPlaced, Bool.and_eq_true, wellPlaced_append] at hself h
  case constant k =>
    intro level
    rw [Expr.print, Expr.tokens]
    exact ⟨phrase_constant hself level, fun _ => opens_constant k⟩
  case name id =>
    intro level
    rw [Expr.print, Expr.tokens]
    exact ⟨(Phrase.name hself).mono fun c hc => ⟨hc.apart.1, hc.apart.2.1⟩,
      fun _ => opens_name (Bool.and_eq_true_iff.mp hself).1⟩
  case «attribute» v id => exact spelled_attribute (v.isSpelled h) hself.1 hself.2
  case subscript v i => exact spelled_subscript (v.isSpelled h.1) (i.isSpelled h.2) hself.1
  case slice l u s =>
    exact spelled_slice (optionSpelled l h.1.1) (optionSpelled u h.1.2) (optionSpelled s h.2)
      hself.1.1
  case starred v => exact spelled_starred (v.isSpelled h) hself
  case call f args ks =>
    exact spelled_call (f.isSpelled h.1.1) hself.1.1 (listSpelled args h.1.2 _)
      (keywordsSpelled ks h.2 hself.2)
  case tuple es => exact spelled_tuple (listSpelled es h _)
  case list es => exact spelled_list (listSpelled es h _)
  case set es => exact spelled_set (by simpa using hself.1) (listSpelled es h _)
  case mapping items => exact spelled_mapping (mappingSpelled items h)
  case boolean op es =>
    obtain ⟨hphrase, hopens⟩ := chainSpelled op op.level (by cases op <;> decide) es h hself.2
      (by rintro rfl; cases hself.1)
    exact spelled_boolean hphrase hopens
  case binary l op r =>
    exact spelled_binary (l.isSpelled h.1) (r.isSpelled h.2) hself.1 hself.2
  case unary op v => exact spelled_unary (v.isSpelled h) hself
  case compare v rest =>
    obtain ⟨hphrase, hblank⟩ := comparisonsSpelled rest h.2 hself.2
    exact spelled_compare (v.isSpelled h.1) hself.1.1 hphrase hblank
  case conditional t b o =>
    exact spelled_conditional (t.isSpelled h.1.2) (b.isSpelled h.1.1) (o.isSpelled h.2)
      hself.1.1 hself.1.2 hself.2
  case lambda ps b =>
    exact spelled_lambda (b.isSpelled h.2) hself.2 (paramsSpelled false 0 false ps h.1 hself.1)
  case comprehension k v cs =>
    obtain ⟨hphrase, hblank⟩ := clausesSpelled cs h.2
    exact spelled_comprehension (v.isSpelled h.1) hphrase hblank
  case mappingComprehension k v cs =>
    obtain ⟨hphrase, hblank⟩ := clausesSpelled cs h.2
    exact spelled_mappingComprehension (k.isSpelled h.1.1) (v.isSpelled h.1.2) hphrase hblank
  case assignment id v =>
    exact spelled_assignment hself.1 (v.isSpelled (wellPlaced_cons.mp h).2)
  case yield v => exact spelled_yield (optionSpelled v h) hself
  case yieldFrom v => exact spelled_yieldFrom (v.isSpelled h) hself
  case await v => exact spelled_await (v.isSpelled h) hself
  case format ps => cases hself

theorem optionSpelled (e : Option Expr) (h : WellPlaced (optionParts e)) : OptionSpelled e := by
  cases e <;> rw [optionParts] at h
  case none => exact nofun
  case some e =>
    rintro a ha
    cases ha
    exact e.isSpelled h

theorem listSpelled (es : List Expr) (h : WellPlaced (listParts es)) (level : Nat) :
    AreSpelled (printList false level es) (listTokens level es) := by
  cases es <;> rw [listParts] at h <;> rw [printList, listTokens]
  case nil => exact .nil
  case cons e es =>
    rw [wellPlaced_append] at h
    exact areSpelled_cons (e.isSpelled h.1) (listSpelled es h.2 level)

theorem keywordsSpelled (ks : List Keyword) (h : WellPlaced (keywordParts ks))
    (hplaced : ks.all (·.wellPlaced) = true) :
    AreSpelled (printKeywords false ks) (keywordTokens ks) := by
  rcases ks with _ | ⟨_ | _, ks⟩
  case nil =>
    rw [printKeywords, keywordTokens]
    exact .nil
  case cons.named id v =>
    rw [keywordParts, wellPlaced_append] at h
    rw [List.all_cons, Bool.and_eq_true, Keyword.wellPlaced, Bool.and_eq_true] at hplaced
    rw [printKeywords, keywordTokens]
    exact .cons (phrase_named hplaced.1.1 (v.isSpelled h.1)) (keywordsSpelled ks h.2 hplaced.2)
  case cons.unpacked v =>
    rw [keywordParts, wellPlaced_append] at h
    rw [List.all_cons, Bool.and_eq_true] at hplaced
    rw [printKeywords, keywordTokens]
    exact .cons (phrase_unpacked (v.isSpelled h.1) (Nat.le_refl _))
      (keywordsSpelled ks h.2 hplaced.2)

theorem mappingSpelled (items : List MappingItem) (h : WellPlaced (mappingParts items)) :
    AreSpelled (printMapping false items) (mappingTokens items) := by
  rcases items with _ | ⟨_ | _, items⟩
  case nil =>
    rw [printMapping, mappingTokens]
    exact .nil
  case cons.pair k v =>
    rw [mappingParts, wellPlaced_append, wellPlaced_append] at h
    rw [printMapping, mappingTokens]
    exact .cons (phrase_pair (k.isSpelled h.1.1) (v.isSpelled h.1.2)) (mappingSpelled items h.2)
  case cons.unpacked v =>
    rw [mappingParts, wellPlaced_append] at h
    rw [printMapping, mappingTokens]
    exact .cons (phrase_unpacked (v.isSpelled h.1) (by decide)) (mappingSpelled items h.2)

theorem chainSpelled (op : BoolOp) (level : Nat) (hlevel : Level.test ≤ level) (es : List Expr)
    (h : WellPlaced (listParts es)) (hvalues : es.all (·.isValue) = true) (hne : es ≠ []) :
    Phrase Trails (printChain false op level es) (chainTokens op level es) ∧
      Opens false (printChain false op level es) := by
  rcases es with _ | ⟨e, es⟩
  case nil => exact absurd rfl hne
  case cons =>
    rw [listParts, wellPlaced_append] at h
    rw [List.all_cons, Bool.and_eq_true] at hvalues
    have hnext := Level.test_le_next hlevel
    have he := e.isSpelled h.1
    have hfirst := he.trails hvalues.1 hnext
    have hopens := he.opens hvalues.1 hnext
    rw [printChain, chainTokens]
    cases hes : es with
    | nil =>
      rw [List.isEmpty_nil, if_pos rfl, if_pos rfl, List.append_nil, List.append_nil]
      exact ⟨hfirst, hopens⟩
    | cons e' es' =>
      obtain ⟨hrest, -⟩ := chainSpelled op (Level.next level) hnext es h.2 hvalues.2
        (by rw [hes]; exact List.cons_ne_nil e' es')
      rw [hes] at hrest
      rw [List.isEmpty_cons, if_neg Bool.false_ne_true, if_neg Bool.false_ne_true]
      refine ⟨?_, hopens.append _⟩
      cases op with
      | and =>
        exact hfirst.append (.inl (by decide))
          (hrest.spacedKeyword (s := "and") (by decide) (by decide))
      | or =>
        exact hfirst.append (.inl (by decide))
          (hrest.spacedKeyword (s := "or") (by decide) (by decide))

theorem comparisonsSpelled (rest : List Comparison) (h : WellPlaced (comparisonParts rest))
    (hplaced : rest.all (·.wellPlaced) = true) :
    Phrase Trails (printComparisons false rest) (comparisonTokens rest) ∧
      AfterBlank (printComparisons false rest) := by
  rcases rest with _ | ⟨⟨op, v⟩, rest⟩
  case nil =>
    rw [printComparisons, comparisonTokens]
    exact ⟨.nil, nofun⟩
  case cons =>
    rw [comparisonParts, wellPlaced_append] at h
    rw [List.all_cons, Bool.and_eq_true] at hplaced
    obtain ⟨hrest, hblank⟩ := comparisonsSpelled rest h.2 hplaced.2
    have hv := (v.isSpelled h.1).trails hplaced.1
      (show Level.test ≤ Level.next Level.compare by decide)
    have hall := op.phrase (hv.follow hrest fun c hc => (hblank.closes c hc).trails)
    rw [printComparisons, comparisonTokens]
    refine ⟨?_, ?_⟩
    · simpa using hall
    · rintro c hc
      cases hc
      rfl

theorem clausesSpelled (cs : List Clause) (h : WellPlaced (clauseParts cs)) :
    Phrase Closes (printClauses false cs) (clauseTokens cs) ∧
      AfterBlank (printClauses false cs) := by
  rcases cs with _ | ⟨⟨isAsync, t, s, conditions⟩, cs⟩
  case nil =>
    rw [printClauses, clauseTokens]
    exact ⟨.nil, nofun⟩
  case cons =>
    rw [clauseParts, wellPlaced_append, wellPlaced_append, wellPlaced_append] at h
    obtain ⟨hrest, hblank⟩ := clausesSpelled cs h.2
    obtain ⟨hconditions, hif⟩ := conditionsSpelled conditions h.1.2
    have htail : AfterBlank (printConditions false conditions ++ printClauses false cs) :=
      hif.append hblank
    have hsource := ((s.isSpelled h.1.1.2).closes (Level.next Level.test)).follow
      (hconditions.follow hrest hblank.closes) htail.closes
    have htarget := ((t.isSpelled h.1.1.1).closes Level.tuple).append (by decide)
      (hsource.spacedKeyword (s := "in") (by decide) (by decide))
    have hfor := htarget.spacedKeyword (s := "for") (by decide) (by decide)
    rw [printClauses, clauseTokens]
    cases isAsync with
    | true =>
      refine ⟨?_, fun c hc => ?_⟩
      · have hall := ((Phrase.keyword (s := "async") (by decide) (by decide)).append (by decide)
          hfor).space
        simpa using hall
      · cases hc
        rfl
    | false =>
      refine ⟨?_, fun c hc => ?_⟩
      · simpa using hfor
      · cases hc
        rfl

theorem conditionsSpelled (es : List Expr) (h : WellPlaced (listParts es)) :
    Phrase Closes (printConditions false es) (conditionTokens es) ∧
      AfterBlank (printConditions false es) := by
  rcases es with _ | ⟨e, es⟩
  case nil =>
    rw [printConditions, conditionTokens]
    exact ⟨.nil, nofun⟩
  case cons =>
    rw [listParts, wellPlaced_append] at h
    obtain ⟨hrest, hblank⟩ := conditionsSpelled es h.2
    have he := ((e.isSpelled h.1).closes (Level.next Level.test)).follow hrest hblank.closes
    have hall := he.spacedKeyword (s := "if") (by decide) (by decide)
    rw [printConditions, conditionTokens]
    refine ⟨?_, ?_⟩
    · simpa using hall
    · rintro c hc
      cases hc
      rfl

theorem paramsSpelled (seenStar : Bool) (last : Nat) (hasDefault : Bool) (ps : List LambdaParam)
    (h : WellPlaced (lambdaParts ps)) (horder : paramsInOrder last hasDefault ps = true) :
    AreSpelled (printParams false seenStar ps) (paramTokens seenStar ps) := by
  rcases ps with _ | ⟨⟨kind, id, default⟩, ps⟩
  case nil =>
    rw [printParams, paramTokens]
    exact .nil
  case cons =>
    rw [lambdaParts, wellPlaced_append] at h
    rw [paramsInOrder, Bool.and_eq_true, Bool.and_eq_true, Bool.and_eq_true] at horder
    obtain ⟨⟨⟨hid, -⟩, -⟩, horder⟩ := horder
    have hparam := phrase_param kind hid default (optionSpelled default h.1)
    have hrest := paramsSpelled (seenStar || kind = .rest || kind = .keywordOnly) _ _ ps h.2 horder
    have hslash := areSpelled_slash kind ps
    rw [printParams.eq_def, paramTokens.eq_def]
    refine List.rel_append (List.rel_append ?_ hslash) hrest
    by_cases hneeds : needsStar seenStar kind = true
    · have hstar : Phrase Closes ['*'] [.symbol "*"] := Phrase.star.mono fun c hc => by
        constructor <;> rintro rfl <;> revert hc <;> decide
      rw [if_pos hneeds, if_pos hneeds]
      exact .cons hstar (.cons hparam .nil)
    · rw [if_neg hneeds, if_neg hneeds]
      exact .cons hparam .nil

end

end LivePreview.Code
