/-!
# The closest of several texts

Two texts are compared by the share of their characters that lie in common blocks: the longest
common block is taken first, then the parts before it and after it are compared in the same way. In
a long text a character that is very frequent does not start a block; it only extends one.
-/

namespace LivePreview.Text

/-- A block of equal characters: its start in either text, and its length. -/
structure Block where
  left : Nat
  right : Nat
  size : Nat

/-- One row of the table of common runs: `above` holds the runs that end one character earlier in
both texts. Returns the new row and the best block so far. -/
def blockRow (opens : Char → Bool) (c : Char) (i : Nat) :
    List Char → List Nat → Nat → Block → List Nat × Block
  | [], _, _, best => ([], best)
  | d :: ds, above, j, best =>
    let run := if d == c && opens d then above.headD 0 + 1 else 0
    let best := if best.size < run then ⟨i + 1 - run, j + 1 - run, run⟩ else best
    let (row, best) := blockRow opens c i ds (above.drop 1) (j + 1) best
    (run :: row, best)

/-- The best block of characters that open one; the first such block of the greatest length. -/
def openBlock (opens : Char → Bool) (b : List Char) :
    List Char → Nat → List Nat → Block → Block
  | [], _, _, best => best
  | c :: cs, i, above, best =>
    let (row, best) := blockRow opens c i b (0 :: above) 0 best
    openBlock opens b cs (i + 1) row best

/-- The number of equal characters that two texts start with. -/
def commonStart : List Char → List Char → Nat
  | a :: as, b :: bs => if a == b then commonStart as bs + 1 else 0
  | _, _ => 0

/-- The longest block, extended on both sides by equal characters of any frequency. -/
def longestBlock (opens : Char → Bool) (a b : List Char) : Block :=
  let block := openBlock opens b a 0 [] ⟨0, 0, 0⟩
  let before := commonStart (a.take block.left).reverse (b.take block.right).reverse
  let block : Block := ⟨block.left - before, block.right - before, block.size + before⟩
  let after := commonStart (a.drop (block.left + block.size)) (b.drop (block.right + block.size))
  { block with size := block.size + after }

/-- The number of characters in common blocks. Every block shortens the first text, so its length
bounds the number of rounds. -/
def matched (opens : Char → Bool) : Nat → List Char → List Char → Nat
  | 0, _, _ => 0
  | rounds + 1, a, b =>
    let block := longestBlock opens a b
    if block.size = 0 then 0
    else block.size + matched opens rounds (a.take block.left) (b.take block.right)
      + matched opens rounds (a.drop (block.left + block.size)) (b.drop (block.right + block.size))

/-- From 200 characters on, a character that makes up more than a hundredth of the text opens no
block. -/
def opensBlock (b : List Char) (c : Char) : Bool :=
  b.length < 200 || b.count c ≤ b.length / 100 + 1

/-- How alike two texts are, as a fraction. -/
structure Likeness where
  above : Nat
  below : Nat

def likeness (candidate wanted : String) : Likeness :=
  let a := candidate.toList
  let b := wanted.toList
  if a.length + b.length = 0 then ⟨1, 1⟩
  else
    let frequent := (b.eraseDups).filter fun c => !opensBlock b c
    ⟨2 * matched (fun c => !frequent.contains c) a.length a b, a.length + b.length⟩

def Likeness.lt (x y : Likeness) : Bool := x.above * y.below < y.above * x.below

/-- Three fifths or more. -/
def Likeness.close (x : Likeness) : Bool := 3 * x.below ≤ 5 * x.above

/-- The closest of the candidates that are close; of equally close ones the greatest. -/
def closest? (wanted : String) (candidates : List String) : Option String :=
  let scored := (candidates.map fun s => (likeness s wanted, s)).filter fun (x, _) => x.close
  let best := scored.foldl (fun best (x, s) =>
    match best with
    | none => some (x, s)
    | some (y, t) => if y.lt x || (!x.lt y && t < s) then some (x, s) else some (y, t)) none
  best.map (·.2)

end LivePreview.Text
