import LivePreview.Code.Numeral
import LivePreview.Text.CharacterName
import LivePreview.Text.Points

/-!
# The value of a literal

A backslash starts an escape unless the literal is raw. A backslash before a character that makes no
escape stands for itself. Texts know escapes by number and by name; bytes know only those that fit
into a byte.
-/

namespace LivePreview.Code

open LivePreview.Text (Points characterNamed?)

/-- The number that exactly `count` hexadecimal digits stand for. -/
def fixedHex? (count : Nat) (cs : List Char) : Option Nat :=
  let ds := cs.take count
  if ds.length = count && ds.all (isDigitIn 16) then some (valueIn 16 ds) else none

/-- What an escape stands for, and how many characters after the backslash it takes. -/
structure Escape where
  value : Points
  taken : Nat

/-- Escapes of one letter that texts and bytes share. -/
def letterEscape? : Char → Option Points
  | '\n' => some []
  | '\\' => some [92]
  | '\'' => some [39]
  | '"' => some [34]
  | 'a' => some [7]
  | 'b' => some [8]
  | 'f' => some [12]
  | 'n' => some [10]
  | 'r' => some [13]
  | 't' => some [9]
  | 'v' => some [11]
  | _ => none

/-- Up to three octal digits. -/
def octalEscape (cs : List Char) : Escape :=
  let ds := (cs.take 3).takeWhile (isDigitIn 8)
  ⟨[valueIn 8 ds], ds.length⟩

def numberEscape? (count : Nat) (cs : List Char) : Option Escape := do
  let n ← fixedHex? count cs
  if 0x10ffff < n then none else some ⟨[n], count + 1⟩

/-- The escape by name, after its letter. -/
def namedEscape? : List Char → Option Escape
  | '\x7b' :: cs =>
    let name := cs.takeWhile (· ≠ '\x7d')
    if name.length < cs.length then
      (characterNamed? name).map fun c => ⟨[c.toNat], name.length + 3⟩
    else none
  | _ => none

/-- The escape of a text that starts after a backslash. -/
def textEscape? : List Char → Option Escape
  | [] => some ⟨[92], 0⟩
  | c :: cs =>
    match letterEscape? c with
    | some value => some ⟨value, 1⟩
    | none =>
      if isDigitIn 8 c then some (octalEscape (c :: cs))
      else if c = 'x' then numberEscape? 2 cs
      else if c = 'u' then numberEscape? 4 cs
      else if c = 'U' then numberEscape? 8 cs
      else if c = 'N' then namedEscape? cs
      else some ⟨[92], 0⟩

/-- The escape of bytes that starts after a backslash. -/
def byteEscape? : List Char → Option Escape
  | [] => some ⟨[92], 0⟩
  | c :: cs =>
    match letterEscape? c with
    | some value => some ⟨value, 1⟩
    | none =>
      if isDigitIn 8 c then
        let escape := octalEscape (c :: cs)
        some { escape with value := escape.value.map (· % 256) }
      else if c = 'x' then numberEscape? 2 cs
      else some ⟨[92], 0⟩

/-- Read escapes; `skip` characters belong to the escape just read. -/
def unescapeFrom (escape? : List Char → Option Escape) : (skip : Nat) → List Char → Option Points
  | _, [] => some []
  | skip + 1, _ :: cs => unescapeFrom escape? skip cs
  | 0, c :: cs =>
    if c = '\\' then do
      let escape ← escape? cs
      let rest ← unescapeFrom escape? escape.taken cs
      some (escape.value ++ rest)
    else (unescapeFrom escape? 0 cs).map (c.toNat :: ·)

/-- The value of the text between the quotes of a text literal. -/
def textValue? (raw : Bool) (body : List Char) : Option Points :=
  if raw then some (Points.ofChars body) else unescapeFrom textEscape? 0 body

/-- The value of the text between the quotes of a byte literal. -/
def bytesValue? (raw : Bool) (body : List Char) : Option (List Nat) :=
  if body.all (fun c => c.toNat < 128) then
    if raw then some (Points.ofChars body) else unescapeFrom byteEscape? 0 body
  else none

end LivePreview.Code
