/-!
# Marks in a text

A mark is a short text that is looked for at the start of another text or anywhere in it.
-/

namespace LivePreview.Text

/-- The text behind `mark`, if it begins so. -/
def behind? (mark cs : List Char) : Option (List Char) :=
  if mark.isPrefixOf cs then some (cs.drop mark.length) else none

theorem behind?_append (mark cs : List Char) : behind? mark (mark ++ cs) = some cs := by
  have hprefix : mark.isPrefixOf (mark ++ cs) = true :=
    List.isPrefixOf_iff_prefix.mpr (List.prefix_append mark cs)
  rw [behind?, if_pos hprefix, List.drop_left]

/-- The text up to the first `mark` and the text behind it. -/
def cut? (mark : List Char) : List Char → Option (List Char × List Char)
  | [] => none
  | c :: cs =>
    if mark.isPrefixOf (c :: cs) then some ([], (c :: cs).drop mark.length)
    else (cut? mark cs).map fun (before, behind) => (c :: before, behind)

/-- Whether `mark` stands somewhere in the text. -/
def occurs (mark : List Char) : List Char → Bool
  | [] => mark.isEmpty
  | c :: cs => mark.isPrefixOf (c :: cs) || occurs mark cs

end LivePreview.Text
