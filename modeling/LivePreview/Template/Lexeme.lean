import LivePreview.Text.Blank
import LivePreview.Text.Mark
import LivePreview.Text.Word

/-!
# Lexemes of templates

A template text is cut into directive lines, comments, outputs, closing tags, opening tags and the
runs of text between them. At each place the kinds are tried in this order, and what fits none of
them is text. A lexeme keeps all its characters, so that the lexemes of a text make up the text.
-/

namespace LivePreview.Template

open LivePreview.Text (behind? cut? isBlank isWord)

inductive DirectiveKind where
  | param
  | module
  deriving DecidableEq, Repr

def DirectiveKind.word : DirectiveKind → List Char
  | param => "param".toList
  | module => "using".toList

/-- A value with its quote, and the blanks before and behind the equals sign. -/
structure QuotedValue where
  before : List Char
  behind : List Char
  quote : Char
  text : List Char
  deriving DecidableEq, Repr

/-- An attribute as written, with what stands before its name. -/
structure AttributeText where
  gap : List Char
  name : List Char
  value : Option QuotedValue
  deriving DecidableEq, Repr

inductive Lexeme where
  | text (chars : List Char)
  /-- A line that begins with a mark and a word; `ended` by a newline or by the end of the text. -/
  | directive (indent : List Char) (kind : DirectiveKind) (args : List Char) (ended : Bool)
  | comment (body : List Char)
  | output (body : List Char)
  | closeTag (name blanks : List Char)
  | openTag (name : List Char) (attributes : List AttributeText) (blanks : List Char)
      (slash : Bool)
  deriving DecidableEq, Repr

def QuotedValue.chars (v : QuotedValue) : List Char :=
  v.before ++ '=' :: v.behind ++ v.quote :: v.text ++ [v.quote]

def AttributeText.chars (a : AttributeText) : List Char :=
  a.gap ++ a.name ++
    match a.value with
    | some v => v.chars
    | none => []

/-- The text between the name of a tag and its end. -/
def attributeChars (as : List AttributeText) : List Char := as.flatMap AttributeText.chars

def Lexeme.chars : Lexeme → List Char
  | text cs => cs
  | directive indent kind args ended =>
    indent ++ '@' :: kind.word ++ args ++ if ended then ['\n'] else []
  | comment body => "<!--".toList ++ body ++ "-->".toList
  | output body => ['\x7b', '\x7b'] ++ body ++ ['\x7d', '\x7d']
  | closeTag name blanks => '<' :: '/' :: name ++ blanks ++ ['>']
  | openTag name attributes blanks slash =>
    '<' :: name ++ attributeChars attributes ++ blanks ++ if slash then ['/', '>'] else ['>']

def isLetter (c : Char) : Bool := ('A' ≤ c && c ≤ 'Z') || ('a' ≤ c && c ≤ 'z')

def isTagChar (c : Char) : Bool := isWord c || c = '.' || c = '-'

/-- Characters of attribute names. -/
def isAttributeChar (c : Char) : Bool :=
  !(isBlank c || c = '=' || c = '>' || c = '/' || c = '"' || c = '\'')

/-- The name of a tag: a letter, then word characters, dots and hyphens. -/
def tagName? : List Char → Option (List Char × List Char)
  | [] => none
  | c :: cs =>
    if isLetter c then some (c :: cs.takeWhile isTagChar, cs.dropWhile isTagChar) else none

/-- An equals sign and a quoted text, with blanks around the sign. -/
def quotedValue? (cs : List Char) : Option (QuotedValue × List Char) := do
  let rest ← behind? ['='] (cs.dropWhile isBlank)
  match rest.dropWhile isBlank with
  | [] => none
  | quote :: rest' =>
    if quote = '"' || quote = '\'' then do
      let (text, behind) ← cut? [quote] rest'
      some (⟨cs.takeWhile isBlank, rest.takeWhile isBlank, quote, text⟩, behind)
    else none

/-- Blanks, a name and perhaps a value. -/
def attributeText? (cs : List Char) : Option (AttributeText × List Char) :=
  let rest := cs.dropWhile isBlank
  let name := rest.takeWhile isAttributeChar
  let rest' := rest.dropWhile isAttributeChar
  if (cs.takeWhile isBlank).isEmpty || name.isEmpty then none
  else match quotedValue? rest' with
    | some (value, behind) => some (⟨cs.takeWhile isBlank, name, some value⟩, behind)
    | none => some (⟨cs.takeWhile isBlank, name, none⟩, rest')

def attributeTexts : (rounds : Nat) → List Char → List AttributeText × List Char
  | 0, cs => ([], cs)
  | rounds + 1, cs =>
    match attributeText? cs with
    | none => ([], cs)
    | some (a, rest) =>
      let (as, behind) := attributeTexts rounds rest
      (a :: as, behind)

/-- The end of an opening tag: whether it has a slash, and the text behind it. -/
def tagEnd? : List Char → Option (Bool × List Char)
  | '/' :: '>' :: rest => some (true, rest)
  | '>' :: rest => some (false, rest)
  | _ => none

def isIndent (c : Char) : Bool := c = ' ' || c = '\t'

/-- Which directive begins here: its word, and no word character behind it. -/
def directiveKind? (cs : List Char) : Option (DirectiveKind × List Char) :=
  [DirectiveKind.param, .module].findSome? fun kind => do
    let rest ← behind? kind.word cs
    if rest.head?.any isWord then none else some (kind, rest)

def directive? (cs : List Char) : Option (Lexeme × List Char) := do
  let rest ← behind? ['@'] (cs.dropWhile isIndent)
  let (kind, rest) ← directiveKind? rest
  let args := rest.takeWhile (· ≠ '\n')
  match rest.dropWhile (· ≠ '\n') with
  | [] => some (.directive (cs.takeWhile isIndent) kind args false, [])
  | _ :: behind => some (.directive (cs.takeWhile isIndent) kind args true, behind)

def comment? (cs : List Char) : Option (Lexeme × List Char) := do
  let rest ← behind? "<!--".toList cs
  let (body, behind) ← cut? "-->".toList rest
  some (.comment body, behind)

def output? (cs : List Char) : Option (Lexeme × List Char) := do
  let rest ← behind? ['\x7b', '\x7b'] cs
  let (body, behind) ← cut? ['\x7d', '\x7d'] rest
  some (.output body, behind)

def closeTag? (cs : List Char) : Option (Lexeme × List Char) := do
  let rest ← behind? ['<', '/'] cs
  let (name, rest) ← tagName? rest
  let behind ← behind? ['>'] (rest.dropWhile isBlank)
  some (.closeTag name (rest.takeWhile isBlank), behind)

def openTag? (cs : List Char) : Option (Lexeme × List Char) := do
  let rest ← behind? ['<'] cs
  let (name, rest) ← tagName? rest
  let (attributes, rest) := attributeTexts rest.length rest
  let (slash, behind) ← tagEnd? (rest.dropWhile isBlank)
  some (.openTag name attributes (rest.takeWhile isBlank) slash, behind)

/-- The lexeme that begins here, other than text, and the text behind it. -/
def lexeme? (lineStart : Bool) (cs : List Char) : Option (Lexeme × List Char) :=
  (if lineStart then directive? cs else none) <|> comment? cs <|> output? cs <|> closeTag? cs <|>
    openTag? cs

/-- Whether a line begins behind the lexeme. -/
def Lexeme.endsLine (l : Lexeme) : Bool := l.chars.getLast? = some '\n'

/-- Put a character before a list of lexemes, into the text that begins it. -/
def consText (c : Char) : List Lexeme → List Lexeme
  | .text cs :: ls => .text (c :: cs) :: ls
  | ls => .text [c] :: ls

def lexemesFrom : (rounds : Nat) → (lineStart : Bool) → List Char → List Lexeme
  | _, _, [] => []
  | 0, _, cs => [.text cs]
  | rounds + 1, lineStart, c :: cs =>
    match lexeme? lineStart (c :: cs) with
    | some (l, rest) => l :: lexemesFrom rounds l.endsLine rest
    | none => consText c (lexemesFrom rounds (c = '\n') cs)

/-- The lexemes of a template text. -/
def lexemes (cs : List Char) : List Lexeme := lexemesFrom cs.length true cs

end LivePreview.Template
