import LivePreview.Code.Token
import LivePreview.Text.Normal

/-!
# Reading tokens

A reader takes tokens from the front of a list or fails. The readers here are for single tokens and
for repetition; a repetition has a bound on its rounds, which the number of tokens never exceeds.
-/

namespace LivePreview.Code

open LivePreview.Text (normalForm)

abbrev Reader := StateT (List Token) Option

namespace Reader

def peek : Reader (Option Token) := fun ts => some (ts.head?, ts)

/-- The token after the next one. -/
def peekSecond : Reader (Option Token) := fun ts => some (ts.tail.head?, ts)

def skip : Reader Unit := fun ts => some ((), ts.tail)

/-- Whether the next token is this one. -/
def isNext (t : Token) : Reader Bool := fun ts => some (ts.head? = some t, ts)

/-- Take the token if it is the next one. -/
def accept (t : Token) : Reader Bool := fun ts =>
  if ts.head? = some t then some (true, ts.tail) else some (false, ts)

def expect (t : Token) : Reader Unit := fun ts =>
  if ts.head? = some t then some ((), ts.tail) else none

def acceptSymbol (s : String) : Reader Bool := accept (.symbol s)

def expectSymbol (s : String) : Reader Unit := expect (.symbol s)

def isSymbolNext (s : String) : Reader Bool := isNext (.symbol s)

def acceptKeyword (s : String) : Reader Bool := accept (.keyword s)

def expectKeyword (s : String) : Reader Unit := expect (.keyword s)

def isKeywordNext (s : String) : Reader Bool := isNext (.keyword s)

/-- A name in normal form. -/
def name : Reader String := fun
  | .name s :: ts => some (normalForm s, ts)
  | _ => none

/-- Whether a name and then this symbol come next. -/
def isNameBefore (s : String) : Reader Bool := fun ts =>
  match ts with
  | .name _ :: .symbol t :: _ => some (t = s, ts)
  | _ => some (false, ts)

/-- Fail unless the condition holds. -/
def require (condition : Bool) : Reader Unit := if condition then pure () else failure

/-- Repeat until a round yields nothing, at most `rounds` times. -/
def gather {α : Type} (item : Reader (Option α)) : (rounds : Nat) → Reader (List α)
  | 0 => pure []
  | rounds + 1 => do
    match ← item with
    | none => pure []
    | some a => return a :: (← gather item rounds)

/-- Repeat a step that goes on from what was read before. -/
def extend {α : Type} (step : α → Reader (Option α)) : (rounds : Nat) → α → Reader α
  | 0, a => pure a
  | rounds + 1, a => do
    match ← step a with
    | none => pure a
    | some b => extend step rounds b

/-- Items with commas between them and perhaps one at the end, up to where `atEnd` holds. -/
def sequence {α : Type} (atEnd : Reader Bool) (item : Reader α) : (rounds : Nat) → Reader (List α)
  | 0 => pure []
  | rounds + 1 => do
    if ← atEnd then return []
    let a ← item
    if ← acceptSymbol "," then return a :: (← sequence atEnd item rounds)
    else return [a]

end Reader

end LivePreview.Code
