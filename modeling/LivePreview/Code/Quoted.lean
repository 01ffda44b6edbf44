import LivePreview.Text.Mark
import LivePreview.Text.Points
import LivePreview.Text.Printable

/-!
# Quoted literals

A literal shows its value between quotes. In plain form the quote is the single one unless the value
holds single quotes and no double ones, and only what cannot stand as it is gets an escape. In open
form one of several quotes is chosen, triple ones among them, so that few escapes are needed; that
is how documentation and format literals are written.
-/

namespace LivePreview.Code

open LivePreview.Text (Points isPrintable occurs)

def hexDigitChar (n : Nat) : Char :=
  if n < 10 then Char.ofNat (48 + n) else Char.ofNat (87 + n)

/-- The last `width` hexadecimal digits of `n`. -/
def hexDigits : (width : Nat) → (n : Nat) → List Char
  | 0, _ => []
  | width + 1, n => hexDigits width (n / 16) ++ [hexDigitChar (n % 16)]

/-- The escape of a code point, the shortest that is wide enough. -/
def pointEscape (p : Nat) : List Char :=
  if p = 9 then ['\\', 't']
  else if p = 10 then ['\\', 'n']
  else if p = 13 then ['\\', 'r']
  else if p = 92 then ['\\', '\\']
  else if p < 0x100 then '\\' :: 'x' :: hexDigits 2 p
  else if p < 0x10000 then '\\' :: 'u' :: hexDigits 4 p
  else '\\' :: 'U' :: hexDigits 8 p

def escapedUnless (plain : Nat → Bool) (p : Nat) : List Char :=
  if plain p then [Char.ofNat p] else pointEscape p

/-- One code point of a plain literal between quotes `quote`. -/
def quotedPoint (quote : Char) (p : Nat) : List Char :=
  if p = quote.toNat then ['\\', quote]
  else escapedUnless (fun p => p ≠ 92 && isPrintable p) p

/-- The quote of a plain literal. -/
def plainQuote (ps : List Nat) : Char := if ps.contains 39 && !ps.contains 34 then '"' else '\''

/-- The text between the quotes of a plain literal. -/
def quotedBody (ps : Points) : List Char := ps.flatMap (quotedPoint (plainQuote ps))

/-- A text literal in plain form. -/
def quoted (ps : Points) : List Char := plainQuote ps :: (quotedBody ps ++ [plainQuote ps])

/-- One byte of a byte literal. -/
def quotedByte (quote : Char) (b : Nat) : List Char :=
  if b = quote.toNat then ['\\', quote]
  else escapedUnless (fun b => b ≠ 92 && 32 ≤ b && b < 127) b

def quotedBytes (bs : List Nat) : List Char :=
  let quote := plainQuote bs
  'b' :: quote :: (bs.flatMap (quotedByte quote) ++ [quote])

/-- A quote of an open form: one character, or three. -/
structure Quote where
  mark : Char
  triple : Bool
  deriving DecidableEq, Repr

def Quote.text (q : Quote) : List Char := if q.triple then [q.mark, q.mark, q.mark] else [q.mark]

def singleQuotes : List Quote := [⟨'\'', false⟩, ⟨'"', false⟩]

def tripleQuotes : List Quote := [⟨'"', true⟩, ⟨'\'', true⟩]

def allQuotes : List Quote := singleQuotes ++ tripleQuotes

/-- The value with the escapes that any quote needs; a newline and a tabulator stay unless
`escapeSpace`. -/
def openBody (escapeSpace : Bool) (ps : Points) : List Char :=
  ps.flatMap <| escapedUnless fun p =>
    (!escapeSpace && (p = 9 || p = 10)) || (p ≠ 92 && isPrintable p)

/-- Those quotes first that differ from the last character. -/
def preferApart (last : Char) (qs : List Quote) : List Quote :=
  qs.filter (fun q => q.mark ≠ last) ++ qs.filter fun q => q.mark = last

/-- The text of a value between quotes of which one is still to be chosen from the answer's list.
Without a quote that fits, the value is escaped as in plain form. -/
def openLiteral (quotes : List Quote) (escapeSpace : Bool) (ps : Points) :
    List Char × List Quote :=
  let body := openBody escapeSpace ps
  let fitting := (if body.contains '\n' then quotes.filter (·.triple) else quotes).filter
    fun q => !occurs q.text body
  match fitting with
  | [] =>
    let mark := plainQuote ps
    (quotedBody ps, [(quotes.find? fun q => q.mark = mark).getD ⟨mark, false⟩])
  | _ :: _ =>
    match body.getLast? with
    | none => (body, fitting)
    | some last =>
      let ordered := preferApart last fitting
      if (ordered.head?.map (·.mark)) = some last then
        (body.dropLast ++ ['\\', last], ordered)
      else (body, ordered)

/-- Put a text between the first of the quotes. -/
def enclose (body : List Char) (quotes : List Quote) : List Char :=
  let mark := (quotes.headD ⟨'\'', false⟩).text
  mark ++ body ++ mark

/-- A literal in open form, with line breaks left in place. -/
def openQuoted (quotes : List Quote) (ps : Points) : List Char :=
  let (body, fitting) := openLiteral quotes false ps
  enclose body fitting

end LivePreview.Code
