import Std.Data.HashMap
import LivePreview.Text.NormalTable

/-!
# The normal form of identifiers

Two spellings of one identifier are the same name when their compatibility normal forms agree. The
form is reached by full decomposition, ordering of combining marks by class, and composition. An
identifier of ASCII characters is its own normal form.
-/

namespace LivePreview.Text

def decompositions : Std.HashMap Nat (List Nat) := .ofList decompositionEntries

def compositions : Std.HashMap (Nat × Nat) Nat := .ofList compositionEntries

/-- The class of a combining mark, and zero for every other character. -/
def combiningClass (c : Nat) : Nat :=
  match combiningClassEntries.find? fun (first, last, _) => first ≤ c && c ≤ last with
  | some (_, _, cls) => cls
  | none => 0

/-- Full decomposition of one code point; Hangul syllables decompose by their position. -/
def decompose (c : Nat) : List Nat :=
  if 0xac00 ≤ c ∧ c ≤ 0xd7a3 then
    let i := c - 0xac00
    let final := i % 28
    [0x1100 + i / 588, 0x1161 + i % 588 / 28] ++ if final = 0 then [] else [0x11a7 + final]
  else (decompositions[c]?).getD [c]

/-- The composite of two characters, if there is one. -/
def composite? (a b : Nat) : Option Nat :=
  if 0x1100 ≤ a ∧ a ≤ 0x1112 ∧ 0x1161 ≤ b ∧ b ≤ 0x1175 then
    some (0xac00 + ((a - 0x1100) * 21 + (b - 0x1161)) * 28)
  else if 0xac00 ≤ a ∧ a ≤ 0xd7a3 ∧ (a - 0xac00) % 28 = 0 ∧ 0x11a8 ≤ b ∧ b ≤ 0x11c2 then
    some (a + (b - 0x11a7))
  else compositions[(a, b)]?

/-- Insert a mark before the marks of a higher class that end `passed`, which is reversed. -/
def placeMark (p cls : Nat) : List (Nat × Nat) → List (Nat × Nat)
  | [] => [(p, cls)]
  | (q, other) :: rest =>
    if cls ≠ 0 ∧ cls < other then (q, other) :: placeMark p cls rest
    else (p, cls) :: (q, other) :: rest

/-- Order the marks after each starter by class, keeping the order of equals. -/
def orderMarks (ps : List Nat) : List (Nat × Nat) :=
  (ps.foldl (fun passed p => placeMark p (combiningClass p) passed) []).reverse

/-- Composition with a pending starter and the marks kept after it, last first. -/
def composeFrom (starter : Nat) (kept : List Nat) (last : Nat) : List (Nat × Nat) → List Nat
  | [] => starter :: kept.reverse
  | (p, cls) :: rest =>
    match if kept.isEmpty || last < cls then composite? starter p else none with
    | some joined => composeFrom joined kept last rest
    | none =>
      if cls = 0 then starter :: (kept.reverse ++ composeFrom p [] 0 rest)
      else composeFrom starter (p :: kept) cls rest

def compose : List (Nat × Nat) → List Nat
  | [] => []
  | (p, cls) :: rest => if cls = 0 then composeFrom p [] 0 rest else p :: compose rest

/-- The normal form of an identifier. -/
def normalForm (s : String) : String :=
  if s.toList.all (fun c => c.toNat < 128) then s
  else
    let points := s.toList.flatMap fun c => decompose c.toNat
    String.ofList ((compose (orderMarks points)).map Char.ofNat)

theorem normalForm_of_ascii {s : String} (h : ∀ c ∈ s.toList, c.toNat < 128) :
    normalForm s = s := by
  have : s.toList.all (fun c => c.toNat < 128) = true := by simpa [List.all_eq_true] using h
  rw [normalForm, if_pos this]

end LivePreview.Text
