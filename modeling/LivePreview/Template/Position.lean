/-!
# Positions in a template

A position is a line, counted from one, and a column, counted from zero. Only the newline ends a
line.
-/

namespace LivePreview.Template

structure Position where
  line : Nat
  column : Nat
  deriving DecidableEq, Repr, Inhabited

namespace Position

def start : Position := ⟨1, 0⟩

def step (p : Position) (c : Char) : Position :=
  if c = '\n' then ⟨p.line + 1, 0⟩ else ⟨p.line, p.column + 1⟩

/-- The position behind a text that begins at `p`. -/
def after (p : Position) (cs : List Char) : Position := cs.foldl step p

/-- Whether `p` comes before `q` in the text, or on the same line and column. -/
def le (p q : Position) : Bool := p.line < q.line || (p.line == q.line && p.column ≤ q.column)

theorem after_append (p : Position) (cs ds : List Char) :
    p.after (cs ++ ds) = (p.after cs).after ds := List.foldl_append

end Position

end LivePreview.Template
