/-!
# Sets of code points, given by their boundaries

A class of characters is a list of code points at which membership changes, in ascending order:
the first boundary enters the class, the second leaves it, and so on. A code point belongs to the
class when an odd number of boundaries lie at or below it.
-/

namespace LivePreview.Text

/-- Membership of `c` in the class with these boundaries. -/
def inside : List Nat → Nat → Bool
  | [], _ => false
  | b :: bs, c => if c < b then false else !inside bs c

end LivePreview.Text
