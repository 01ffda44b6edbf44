import LivePreview.Code.Expr

/-!
# Numbers in program text

A number is the longest run that is one: an integer in base two, eight, ten or sixteen, or a decimal
fraction with an optional exponent, or either in decimal with the mark of an imaginary number.
Single underscores may stand between digits. No letter may follow, except where it starts one of the
keywords that can come after a number.
-/

namespace LivePreview.Code

def isDecimal (c : Char) : Bool := '0' ≤ c && c ≤ '9'

/-- Letters and digits that can be part of a name; whether they make one up is checked later. -/
def isNameChar (c : Char) : Bool :=
  isDecimal c || ('a' ≤ c && c ≤ 'z') || ('A' ≤ c && c ≤ 'Z') || c = '_' || 128 ≤ c.toNat

def isNameStart (c : Char) : Bool := isNameChar c && !isDecimal c

def digitValue (c : Char) : Nat :=
  if isDecimal c then c.toNat - 48
  else if 'a' ≤ c ∧ c ≤ 'f' then c.toNat - 87
  else if 'A' ≤ c ∧ c ≤ 'F' then c.toNat - 55
  else 99

def isDigitIn (base : Nat) (c : Char) : Bool := digitValue c < base

def valueIn (base : Nat) (digits : List Char) : Nat :=
  digits.foldl (fun n c => base * n + digitValue c) 0

/-- Digits up to the first character that is none; an underscore has to stand before a digit. -/
def digitRun (base : Nat) : List Char → Option (List Char × List Char)
  | '_' :: c :: cs =>
    if isDigitIn base c then (digitRun base cs).map fun (ds, rest) => (c :: ds, rest) else none
  | ['_'] => none
  | c :: cs =>
    if isDigitIn base c then (digitRun base cs).map fun (ds, rest) => (c :: ds, rest)
    else some ([], c :: cs)
  | [] => some ([], [])

/-- Keywords that may stand right after a number. -/
def keywordsAfterNumber : List (List Char) :=
  ["and".toList, "else".toList, "for".toList, "if".toList, "in".toList, "is".toList, "or".toList,
    "not".toList]

/-- Whether a number may end before this text. -/
def endsNumber (rest : List Char) : Bool :=
  keywordsAfterNumber.any (·.isPrefixOf rest) || !(rest.head?.any isNameChar)

/-- The most decimal digits that an integer other than zero may be written with. -/
def integerDigitLimit : Nat := 4300

def basedNumeral (base : Nat) (cs : List Char) : Option (Constant × List Char) := do
  let (ds, rest) ← digitRun base cs
  if ds.isEmpty || rest.head?.any isDecimal || !endsNumber rest then none
  else some (.integer (valueIn base ds), rest)

/-- The exponent, if one follows. A letter that starts a keyword is left for the next token. -/
def exponentPart : List Char → Option (Option Int × List Char)
  | c :: cs =>
    if c = 'e' ∨ c = 'E' then
      match cs with
      | '+' :: d :: ds => if isDecimal d then signed 1 (d :: ds) else none
      | '-' :: d :: ds => if isDecimal d then signed (-1) (d :: ds) else none
      | ['+'] => none
      | ['-'] => none
      | d :: ds => if isDecimal d then signed 1 (d :: ds) else some (none, c :: d :: ds)
      | [] => some (none, [c])
    else some (none, c :: cs)
  | [] => some (none, [])
where
  signed (sign : Int) (cs : List Char) : Option (Option Int × List Char) :=
    (digitRun 10 cs).map fun (ds, rest) => (some (sign * valueIn 10 ds), rest)

/-- The fraction after a point. Without digits the point still makes the number a real one. -/
def fractionPart : List Char → Option (Option (List Char) × List Char)
  | '.' :: c :: cs =>
    if isDecimal c then (digitRun 10 (c :: cs)).map fun (ds, rest) => (some ds, rest)
    else some (some [], c :: cs)
  | ['.'] => some (some [], [])
  | cs => some (none, cs)

def decimalNumeral (cs : List Char) : Option (Constant × List Char) := do
  let (whole, rest) ← digitRun 10 cs
  let (fraction, rest) ← fractionPart rest
  let (exponent, rest) ← exponentPart rest
  let digits := whole ++ fraction.getD []
  let number := Binary64.ofDecimal (valueIn 10 digits)
    (exponent.getD 0 - (fraction.getD []).length)
  match rest with
  | 'j' :: rest => if endsNumber rest then some (.imaginary number, rest) else none
  | 'J' :: rest => if endsNumber rest then some (.imaginary number, rest) else none
  | rest =>
    if !endsNumber rest then none
    else if fraction.isSome || exponent.isSome then some (.real number, rest)
    else
      let value := valueIn 10 whole
      if value = 0 then some (.integer 0, rest)
      else if whole.head? = some '0' || integerDigitLimit < whole.length then none
      else some (.integer value, rest)

/-- The number that a text starts with, and what follows it. -/
def numeral : List Char → Option (Constant × List Char)
  | '0' :: c :: cs =>
    if c = 'x' ∨ c = 'X' then basedNumeral 16 cs
    else if c = 'o' ∨ c = 'O' then basedNumeral 8 cs
    else if c = 'b' ∨ c = 'B' then basedNumeral 2 cs
    else decimalNumeral ('0' :: c :: cs)
  | cs => decimalNumeral cs

end LivePreview.Code
