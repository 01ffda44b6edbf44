/-!
# Texts as code points

The value of a string literal can hold a lone surrogate, because an escape can name one. Such values
are lists of code points; every ordinary text is one of them.
-/

namespace LivePreview.Text

abbrev Points := List Nat

def Points.ofChars (cs : List Char) : Points := cs.map Char.toNat

def Points.ofString (s : String) : Points := Points.ofChars s.toList

/-- The text of the code points; a surrogate has none. -/
def Points.toString? (ps : Points) : Option String :=
  if ps.all fun p => (Char.ofNat p).toNat == p then some (String.ofList (ps.map Char.ofNat))
  else none

/-- A number that gives a character other than the null character is its own. -/
theorem toNat_of_ofNat {n : Nat} {c : Char} (h : Char.ofNat n = c) (hc : c ≠ '\x00') :
    n = c.toNat := by
  by_cases hvalid : n.isValidChar
  · rw [Char.ofNat, dif_pos hvalid] at h
    exact congrArg Char.toNat h
  · rw [Char.ofNat, dif_neg hvalid] at h
    exact absurd h.symm hc

end LivePreview.Text
