import LivePreview.Code.Numeral
import LivePreview.Code.Token
import LivePreview.Text.Identifier
import LivePreview.Text.Printable

/-!
# From program text to tokens

A line break ends a statement unless it stands inside brackets or after a backslash; a blank line
and a comment count for nothing. The margin of a line is measured twice, with wide and with narrow
tabulators, and both measures have to agree on whether it is deeper than, equal to, or less deep
than another margin.
-/

namespace LivePreview.Code

open LivePreview.Text (isIdentifier isKeyword)

/-- Line breaks of every system become newlines. -/
def unifyNewlines : List Char → List Char
  | '\r' :: '\n' :: cs => '\n' :: unifyNewlines cs
  | '\r' :: cs => '\n' :: unifyNewlines cs
  | c :: cs => c :: unifyNewlines cs
  | [] => []

/-- A margin in columns, with tabulators of eight columns and of one. -/
structure Margin where
  wide : Nat
  narrow : Nat
  deriving DecidableEq, Repr

/-- How far lines are set in, innermost first, and the brackets that are open. -/
structure Layout where
  margins : List Margin
  brackets : List Char

def Layout.start : Layout := ⟨[], []⟩

/-- Bounds on nesting. -/
def bracketLimit : Nat := 200

def marginLimit : Nat := 99

def Layout.margin (l : Layout) : Margin := l.margins.headD ⟨0, 0⟩

/-- The margin of a line and the text after it; a margin may be set once before a continued line. -/
def measure (fixed : Option Margin) (m : Margin) : List Char → Option (Margin × List Char)
  | ' ' :: cs => measure fixed ⟨m.wide + 1, m.narrow + 1⟩ cs
  | '\t' :: cs => measure fixed ⟨(m.wide / 8 + 1) * 8, m.narrow + 1⟩ cs
  | '\x0c' :: cs => measure fixed ⟨0, 0⟩ cs
  | '\\' :: '\n' :: c :: cs =>
    measure (fixed <|> if m.wide = 0 then none else some ⟨m.wide, m.wide⟩) m (c :: cs)
  | '\\' :: _ => none
  | cs => some (fixed.getD m, cs)

/-- The tokens that a new margin stands for. -/
def Layout.settle (l : Layout) (m : Margin) : Option (List Token × Layout) :=
  let now := l.margin
  if m.wide = now.wide then
    if m.narrow = now.narrow then some ([], l) else none
  else if now.wide < m.wide then
    if m.narrow ≤ now.narrow || marginLimit ≤ l.margins.length then none
    else some ([.indent], { l with margins := m :: l.margins })
  else
    let kept := l.margins.dropWhile fun n => m.wide < n.wide
    let outer : Layout := { l with margins := kept }
    if outer.margin = m then
      some (List.replicate (l.margins.length - kept.length) .dedent, outer)
    else none

/-- The text between the quotes of a literal and the text after it. `run` counts the quotes just
seen, `size` those that end the literal. -/
def literalBody (quote : Char) (size : Nat) : Nat → List Char → Option (List Char × List Char)
  | run, c :: cs =>
    if run = size then some ([], c :: cs)
    else if c = quote then (literalBody quote size (run + 1) cs).map (addTo c)
    else if size = 1 ∧ c = '\n' then none
    else if c = '\\' then
      match cs with
      | d :: ds => (literalBody quote size 0 ds).map fun (body, rest) => (c :: d :: body, rest)
      | [] => none
    else (literalBody quote size 0 cs).map (addTo c)
  | run, [] => if run = size then some ([], []) else none
where
  addTo (c : Char) (found : List Char × List Char) : List Char × List Char :=
    (c :: found.1, found.2)

/-- A literal from its first quote on. -/
def literalFrom (quote : Char) : List Char → Option (List Char × List Char)
  | c :: d :: cs =>
    if c = quote ∧ d = quote then
      (literalBody quote 3 0 cs).map fun (body, rest) => (body.dropLast.dropLast.dropLast, rest)
    else if c = quote then some ([], d :: cs)
    else (literalBody quote 1 0 (c :: d :: cs)).map fun (body, rest) => (body.dropLast, rest)
  | [c] => if c = quote then some ([], []) else none
  | [] => none

/-- Letters that may stand before the quotes of a literal. -/
def literalMarks : List (List Char) := [
  ['r'], ['b'], ['u'], ['f'], ['b', 'r'], ['r', 'b'], ['f', 'r'], ['r', 'f']]

def lowerLetter (c : Char) : Char := if 'A' ≤ c ∧ c ≤ 'Z' then Char.ofNat (c.toNat + 32) else c

/-- The marks that a literal at the start of the text has, its quote, and the text after that. -/
def literalStart (cs : List Char) : Option (List Char × Char × List Char) :=
  let marks := (cs.take 2).takeWhile isNameStart
  match cs.drop marks.length with
  | c :: rest =>
    if (c = '\'' ∨ c = '"') ∧ (marks = [] ∨ literalMarks.contains (marks.map lowerLetter)) then
      some (marks, c, rest)
    else none
  | [] => none

def symbols : List String := [
  "**=", "//=", ">>=", "<<=", "...",
  "!=", "%=", "&=", "**", "*=", "+=", "-=", "->", "//", "/=", ":=", "<<", "<=", "==", ">=", ">>",
  "@=", "^=", "|=",
  "%", "&", "(", ")", "*", "+", ",", "-", ".", "/", ":", ";", "<", "=", ">", "@", "[", "]", "^",
  "\x7b", "|", "\x7d", "~"]

/-- The longest symbol that the text starts with; the two signs of an old inequality are none. -/
def symbolStart (cs : List Char) : Option (String × List Char) :=
  if ['<', '>'].isPrefixOf cs then none
  else (symbols.find? fun s => s.toList.isPrefixOf cs).map fun s => (s, cs.drop s.length)

def opens (s : String) : Bool := s = "(" || s = "[" || s = "\x7b"

/-- The bracket that a closing one belongs to. -/
def opener? (s : String) : Option Char :=
  if s = ")" then some '('
  else if s = "]" then some '['
  else if s = "\x7d" then some '\x7b'
  else none

/-- Keep the brackets in balance. -/
def Layout.bracket (l : Layout) (s : String) : Option Layout :=
  if opens s then
    if bracketLimit ≤ l.brackets.length then none
    else some { l with brackets := s.toList ++ l.brackets }
  else match opener? s with
    | none => some l
    | some c => if l.brackets.head? = some c then some { l with brackets := l.brackets.tail }
      else none

def nameToken (cs : List Char) : Option (Token × List Char) :=
  let text := cs.takeWhile isNameChar
  let rest := cs.drop text.length
  let s := String.ofList text
  if isKeyword s then some (.keyword s, rest)
  else if text.all (fun c => c.toNat < 128) || isIdentifier text then some (.name s, rest)
  else none

/-- The next token of a text that starts with none of blank, line break and comment. -/
def nextToken (cs : List Char) : Option (Token × List Char) :=
  match literalStart cs with
  | some (marks, quote, rest) =>
    (literalFrom quote rest).map fun (body, rest) => (.literal marks body, rest)
  | none =>
    let c := cs.headD ' '
    if isNameStart c then nameToken cs
    else if isDecimal c || (c = '.' && (cs.drop 1).head?.any isDecimal) then
      (numeral cs).map fun (value, rest) => (.constant value, rest)
    else (symbolStart cs).map fun (s, rest) => (.symbol s, rest)

def isSpace (c : Char) : Bool := c = ' ' || c = '\t' || c = '\x0c'

/-- Tokens of the rest of a text. `found` holds the tokens so far, the last one first; every round
takes at least one character, so the length of the text bounds the rounds. -/
def tokensFrom : (rounds : Nat) → Layout → (atStart : Bool) → (found : List Token) → List Char →
    Option (List Token)
  | 0, _, _, _, _ => none
  | rounds + 1, l, true, found, cs => do
    let (margin, rest) ← measure none ⟨0, 0⟩ cs
    if rest.head? = some '#' || rest.head? = some '\n' then
      match rest.dropWhile (· ≠ '\n') with
      | [] => tokensFrom rounds l false found []
      | _ :: rest => tokensFrom rounds l true found rest
    else if l.brackets ≠ [] then tokensFrom rounds l false found rest
    else
      let (tokens, l) ← l.settle margin
      tokensFrom rounds l false (tokens ++ found) rest
  | rounds + 1, l, false, found, cs =>
    match cs.dropWhile isSpace with
    | [] => if l.brackets = [] then some found.reverse else none
    | '\n' :: rest =>
      tokensFrom rounds l true (if l.brackets = [] then .newline :: found else found) rest
    | '#' :: rest => tokensFrom rounds l false found (rest.dropWhile (· ≠ '\n'))
    | '\\' :: '\n' :: c :: rest => tokensFrom rounds l false found (c :: rest)
    | '\\' :: _ => none
    | rest => do
      let (token, rest) ← nextToken rest
      let l ← match token with
        | .symbol s => l.bracket s
        | _ => some l
      tokensFrom rounds l false (token :: found) rest

/-- The tokens of a text, if it has a reading as tokens. -/
def tokens (cs : List Char) : Option (List Token) :=
  tokensFrom (2 * cs.length + 3) .start true [] cs

/-- The tokens of a whole module; its last line counts as ended. -/
def moduleTokens (cs : List Char) : Option (List Token) :=
  match (unifyNewlines cs).getLast? with
  | some '\n' => tokens (unifyNewlines cs)
  | _ => tokens (unifyNewlines cs ++ ['\n'])

end LivePreview.Code
