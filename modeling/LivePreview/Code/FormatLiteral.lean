import LivePreview.Code.Expr
import LivePreview.Code.Literal

/-!
# Format literals

The text between the quotes of a format literal is a sequence of plain runs and fields. Outside a
format a brace is written twice. A field is an expression, perhaps with an equals sign that shows
its text, a conversion and a format, which may hold fields of its own, but no deeper ones. How an
expression is read is a parameter here.
-/

namespace LivePreview.Code

open LivePreview.Text (Points)

/-- Where a plain run ends. -/
inductive RunEnd where
  | finished
  | brace
  | doubled
  deriving DecidableEq, Repr

structure Run where
  text : List Char
  ending : RunEnd
  rest : List Char

def Run.cons (c : Char) (run : Run) : Run := { run with text := c :: run.text }

def isBrace (c : Char) : Bool := c = '\x7b' || c = '\x7d'

/-- The plain run at the start of a text. `inName` holds inside the braces of an escape by name,
whose braces belong to the run. -/
def plainRun (nested raw : Bool) : (inName : Bool) → List Char → Option Run
  | _, [] => some ⟨[], .finished, []⟩
  | true, c :: cs => (plainRun nested raw (c ≠ '\x7d') cs).map (·.cons c)
  | false, c :: cs =>
    if !raw && c = '\\' then
      match cs with
      | 'N' :: '\x7b' :: rest =>
        (plainRun nested raw true rest).map fun run => ((run.cons '\x7b').cons 'N').cons c
      | 'N' :: d :: rest =>
        (plainRun nested raw false rest).map fun run => ((run.cons d).cons 'N').cons c
      | d :: rest =>
        if isBrace d then (plainRun nested raw false (d :: rest)).map (·.cons c)
        else (plainRun nested raw false rest).map fun run => (run.cons d).cons c
      | [] => some ⟨[c], .finished, []⟩
    else if isBrace c then
      if nested then some ⟨[], .brace, c :: cs⟩
      else if cs.head? = some c then some ⟨[c], .doubled, cs.tail⟩
      else if c = '\x7d' then none
      else some ⟨[], .brace, c :: cs⟩
    else (plainRun nested raw false cs).map (·.cons c)

/-- What surrounds a place inside a field: the literal it stands in, and the open brackets. -/
structure FieldState where
  quote : Option (Char × Bool)
  brackets : List Char

def closes (c d : Char) : Bool :=
  (c = '(' && d = ')') || (c = '[' && d = ']') || (c = '\x7b' && d = '\x7d')

def bracketsInField : Nat := 200

/-- The text of the expression of a field, and the rest from the character on that ends it. `skip`
characters are taken as they are. -/
def fieldText : (skip : Nat) → FieldState → List Char → Option (List Char × List Char)
  | _, _, [] => none
  | skip + 1, st, c :: cs => if c = '\\' then none else (fieldText skip st cs).map (keep c)
  | 0, st, c :: cs =>
    let thrice := cs.take 2 = [c, c]
    if c = '\\' then none
    else match st.quote with
      | some (q, triple) =>
        if c = q && (!triple || thrice) then
          (fieldText (if triple then 2 else 0) { st with quote := none } cs).map (keep c)
        else (fieldText 0 st cs).map (keep c)
      | none =>
        if c = '\'' || c = '"' then
          (fieldText (if thrice then 2 else 0) { st with quote := some (c, thrice) } cs).map
            (keep c)
        else if c = '(' || c = '[' || c = '\x7b' then
          if bracketsInField ≤ st.brackets.length then none
          else (fieldText 0 { st with brackets := c :: st.brackets } cs).map (keep c)
        else if c = '#' then none
        else if st.brackets = [] && ['!', ':', '\x7d', '=', '<', '>'].contains c then
          if cs.head? = some '=' && ['!', '=', '<', '>'].contains c then
            (fieldText 1 st cs).map (keep c)
          else if c = '<' || c = '>' then (fieldText 0 st cs).map (keep c)
          else some ([], c :: cs)
        else if c = ')' || c = ']' || c = '\x7d' then
          match st.brackets with
          | b :: bs =>
            if closes b c then (fieldText 0 { st with brackets := bs } cs).map (keep c) else none
          | [] => none
        else (fieldText 0 st cs).map (keep c)
where
  keep (c : Char) (found : List Char × List Char) : List Char × List Char :=
    (c :: found.1, found.2)

/-- Blanks that do not make an expression. -/
def isFieldBlank (c : Char) : Bool :=
  c = ' ' || c = '\t' || c = '\n' || c = '\x0c' || c = '\r'

/-- A field up to its format. -/
structure FieldHead where
  value : Expr
  shown : Option Points
  conversion : Option Char
  rest : List Char

/-- The text of an expression shown by an equals sign, with the sign and the blanks after it. -/
def shownText (text : List Char) : List Char → Option Points × List Char
  | '=' :: rest =>
    let blanks := rest.takeWhile fun c => isFieldBlank c || c = '\x0b'
    (some (Points.ofChars (text ++ '=' :: blanks)), rest.drop blanks.length)
  | rest => (none, rest)

def conversionMark : List Char → Option (Option Char × List Char)
  | '!' :: c :: rest => if c = 's' ∨ c = 'r' ∨ c = 'a' then some (some c, rest) else none
  | ['!'] => none
  | rest => some (none, rest)

def fieldHead (readField : List Char → Option Expr) (cs : List Char) : Option FieldHead := do
  let (text, rest) ← fieldText 0 ⟨none, []⟩ cs
  if text.all isFieldBlank then none
  else
    let value ← readField text
    let (shown, rest) := shownText text rest
    let (conversion, rest) ← conversionMark rest
    some ⟨value, shown, conversion, rest⟩

/-- Adjacent texts become one; empty ones vanish. -/
def joinTexts : List Piece → List Piece
  | [] => []
  | .text value :: ps =>
    match joinTexts ps with
    | .text next :: rest => .text (value ++ next) :: rest
    | rest => if value = [] then rest else .text value :: rest
  | p :: ps => p :: joinTexts ps

/-- The rest after the brace that ends a field. -/
def afterField : List Char → Option (List Char)
  | '\x7d' :: rest => some rest
  | _ => none

/-- A field that shows its text is converted by default, unless it has a format. -/
def FieldHead.piece (head : FieldHead) (spec : Option (List Piece)) : Piece :=
  .field head.value
    (if head.shown.isSome && head.conversion.isNone && spec.isNone then some 'r'
      else head.conversion)
    spec

/-- The format of a field, if a colon starts one; `inner` reads its pieces. -/
def fieldFormat (inner : List Char → Option (List Piece × List Char)) :
    List Char → Option (Option (List Piece) × List Char)
  | [':'] => none
  | ':' :: rest => (inner rest).map fun (pieces, rest) => (some (joinTexts pieces), rest)
  | rest => some (none, rest)

/-- The pieces of a format literal, or of a format at depth `depth`, and the rest, which is empty or
starts with the brace that ends the format. Every round takes at least one character, so the length
bounds the rounds. -/
def formatPieces (readField : List Char → Option Expr) (raw : Bool) :
    (rounds depth : Nat) → List Char → Option (List Piece × List Char)
  | 0, _, _ => none
  | rounds + 1, depth, cs => do
    let run ← plainRun (0 < depth) raw false cs
    let value ← textValue? raw run.text
    if run.ending = .doubled then
      let (pieces, rest) ← formatPieces readField raw rounds depth run.rest
      some (.text value :: pieces, rest)
    else if run.rest.head? = some '\x7b' then
      if 2 ≤ depth then none
      else
        let head ← fieldHead readField run.rest.tail
        let (spec, rest) ← fieldFormat (formatPieces readField raw rounds (depth + 1)) head.rest
        let rest ← afterField rest
        let (pieces, rest) ← formatPieces readField raw rounds depth rest
        some (.text (value ++ head.shown.getD []) :: head.piece spec :: pieces, rest)
    else if (depth == 0) == run.rest.isEmpty then some ([.text value], run.rest)
    else none

/-- The pieces of a whole format literal. -/
def formatLiteral? (readField : List Char → Option Expr) (raw : Bool) (cs : List Char) :
    Option (List Piece) :=
  (formatPieces readField raw (cs.length + 1) 0 cs).map (·.1)

/-- A literal as tokens give it: the letters before its quotes, and its text. -/
structure LiteralText where
  marks : List Char
  body : List Char

namespace LiteralText

def isRaw (l : LiteralText) : Bool := l.marks.any fun c => c = 'r' || c = 'R'

def isBytes (l : LiteralText) : Bool := l.marks.any fun c => c = 'b' || c = 'B'

def isFormat (l : LiteralText) : Bool := l.marks.any fun c => c = 'f' || c = 'F'

def pieces? (readField : List Char → Option Expr) (l : LiteralText) : Option (List Piece) :=
  if l.isFormat then formatLiteral? readField l.isRaw l.body
  else (textValue? l.isRaw l.body).map fun value => [.text value]

end LiteralText

/-- The expression that adjacent literals make up together. Texts and bytes do not mix. -/
def literals? (readField : List Char → Option Expr) (ls : List LiteralText) : Option Expr :=
  if ls.any (·.isBytes) then
    if ls.all (·.isBytes) then
      (ls.mapM fun l => bytesValue? l.isRaw l.body).map fun bs => .constant (.bytes bs.flatten)
    else none
  else do
    let pieces := joinTexts (← ls.mapM (·.pieces? readField)).flatten
    if ls.any (·.isFormat) then some (.format pieces)
    else
      let value := match pieces with
        | [.text value] => value
        | _ => []
      some (.constant (.text value ((ls.head?.map (·.marks)) = some ['u'])))

end LivePreview.Code
