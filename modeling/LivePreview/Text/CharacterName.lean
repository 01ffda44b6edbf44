import Std.Data.HashMap
import LivePreview.Text.CharacterNameTable

/-!
# Characters by name

Letter case does not count in a name.
-/

namespace LivePreview.Text

def hexDigit (c : Char) : Nat :=
  if '0' ≤ c ∧ c ≤ '9' then c.toNat - '0'.toNat else c.toNat - 'a'.toNat + 10

def hexNumber (s : String) : Nat := s.toList.foldl (fun n c => 16 * n + hexDigit c) 0

/-- Names with consecutive code points from `start` on. -/
def numbered (start : Nat) (names : List String) : List (String × Nat) := names.zipIdx start

def characterNames : Std.HashMap String Nat :=
  characterNameRuns.foldl (fun m run =>
    match run.splitOn "=" with
    | [start, names] => (numbered (hexNumber start) (names.splitOn ";")).foldl
        (fun m (name, point) => m.insert name point) m
    | _ => m) ∅

/-- The character of a name. -/
def characterNamed? (name : List Char) : Option Char :=
  characterNames[String.ofList (name.map Char.toUpper)]?.map Char.ofNat

end LivePreview.Text
