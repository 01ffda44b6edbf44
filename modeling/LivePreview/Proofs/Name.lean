import LivePreview.Component.Context
import LivePreview.Proofs.Pieces

/-!
# What names of components are made of

Only word characters come into the name of a component, so that it is neither dotted nor broken by
brackets or blanks, and it is never the name of the base of all components. Whether it is an
identifier is another matter, which this module leaves open.
-/

namespace LivePreview.Component

open LivePreview.Text (isWord isDigit isKeyword)

/-- At least one character, and word characters only. -/
def Wordlike (cs : List Char) : Prop := cs ≠ [] ∧ ∀ c ∈ cs, isWord c = true

theorem wordlike_underscore : Wordlike ['_'] := by
  refine ⟨by decide, fun c hc => ?_⟩
  rw [List.mem_singleton.mp hc]
  decide

theorem Wordlike.append {cs ds : List Char} (hc : Wordlike cs) (hd : Wordlike ds) :
    Wordlike (cs ++ ds) := by
  refine ⟨List.append_ne_nil_of_left_ne_nil hc.1 ds, fun c h => ?_⟩
  rcases List.mem_append.mp h with h | h
  · exact hc.2 c h
  · exact hd.2 c h

theorem wordlike_append_underscore {name : String} (h : Wordlike name.toList) :
    Wordlike (name ++ "_").toList := by
  rw [String.toList_append]
  exact h.append wordlike_underscore

theorem wordlike_nameOfSegment (segment : String) : Wordlike (nameOfSegment segment).toList := by
  unfold nameOfSegment
  extract_lets words name numbered text
  have hwords : ∀ c ∈ words, isWord c = true := by
    intro c hc
    obtain ⟨d, -, rfl⟩ := List.mem_map.mp hc
    split
    · next hd => exact hd
    · exact wordlike_underscore.2 _ (by decide)
  have hname : Wordlike name := by
    simp only [name]
    split
    · exact wordlike_underscore
    · next h => exact ⟨fun hnil => h (by rw [hnil]; rfl), hwords⟩
  have hnumbered : Wordlike numbered := by
    simp only [numbered]
    split
    · exact wordlike_underscore.append hname
    · exact hname
  have htext : Wordlike text.toList := by rwa [String.toList_ofList]
  split
  · exact wordlike_append_underscore htext
  · exact htext

theorem wordlike_componentName (path : String) : Wordlike (componentName path).toList := by
  unfold componentName
  extract_lets name
  have hname : Wordlike name.toList := wordlike_nameOfSegment _
  split
  · exact wordlike_append_underscore hname
  · exact hname

theorem componentName_ne_baseName (path : String) : componentName path ≠ baseName := by
  unfold componentName
  extract_lets name
  split
  · intro h
    have hlast : (name ++ "_").toList.getLast? = baseName.toList.getLast? := by rw [h]
    rw [String.toList_append, List.getLast?_append] at hlast
    exact absurd hlast (by simp; decide)
  · next hfree =>
    intro h
    rw [h] at hfree
    exact hfree (by decide)

/-- A name between double underscores gets one more, so no component has such a name when the part
before its last underscore would have stayed as it is. -/
theorem componentName_ne_of_isDunder (before : String) (hname : isDunder (before ++ "_") = true)
    (hbefore : (isDunder before || reservedNames.contains before) = false) (path : String) :
    componentName path ≠ before ++ "_" := by
  unfold componentName
  extract_lets name
  split
  · next hmarked =>
    intro h
    rw [String.append_left_inj] at h
    rw [h, hbefore] at hmarked
    cases hmarked
  · next hfree =>
    intro h
    rw [h, hname] at hfree
    exact hfree rfl

/-- The two names that cannot be set on a module are no names of components. -/
theorem componentName_ne_unset (path : String) :
    componentName path ≠ "__dict__" ∧ componentName path ≠ "__class__" :=
  ⟨componentName_ne_of_isDunder "__dict_" (by decide) (by decide) path,
    componentName_ne_of_isDunder "__class_" (by decide) (by decide) path⟩

/-! ## Dots -/

/-- The name of a component is not dotted. -/
theorem modulePart?_componentName (path : String) :
    Context.modulePart? (componentName path) = none := by
  have hdot : '.' ∉ (componentName path).toList := by
    intro h
    exact absurd ((wordlike_componentName path).2 '.' h) (by decide)
  unfold Context.modulePart?
  rw [Location.pieces_of_not_mem hdot]
  rfl

theorem pathSegments_ne_nil (path : String) : pathSegments path ≠ [] := by
  unfold pathSegments
  extract_lets slashed parts
  split
  · exact List.cons_ne_nil _ _
  · exact List.append_ne_nil_of_right_ne_nil _ (List.cons_ne_nil _ _)

theorem intercalate_ne_empty {separator t : String} (ht : t.toList ≠ []) (ts : List String) :
    separator.intercalate (t :: ts) ≠ "" := by
  intro h
  have hlist := congrArg String.toList h
  cases ts with
  | nil =>
    rw [String.intercalate_singleton] at hlist
    exact ht hlist
  | cons u us =>
    rw [String.intercalate_cons_cons, String.toList_append, String.toList_append] at hlist
    exact ht (List.append_eq_nil_iff.mp (List.append_eq_nil_iff.mp hlist).1).1

theorem moduleName_ne_empty (path : String) : moduleName path ≠ "" := by
  rw [moduleName]
  cases hs : pathSegments path with
  | nil => exact absurd hs (pathSegments_ne_nil path)
  | cons segment segments =>
    exact intercalate_ne_empty (wordlike_nameOfSegment segment).1 _

end LivePreview.Component
