import LivePreview.Location

/-!
# The pieces between separators

A text is cut at every separator. Nothing else of it is lost, and no piece has a separator.
-/

namespace LivePreview.Location

variable {separator : Char}

theorem pieces_eq_splitOn (separator : Char) (cs : List Char) :
    pieces separator cs = cs.splitOn separator := by
  induction cs with
  | nil => rfl
  | cons c cs ih =>
    rw [pieces, List.splitOn, List.splitOnP_cons_eq_if_modifyHead, ih, List.splitOn]
    by_cases hc : c = separator
    · simp [hc]
    · rw [if_neg hc, if_neg (by simpa using hc)]
      cases h : cs.splitOnP (· == separator) with
      | nil => exact absurd h (List.splitOnP_ne_nil _ _)
      | cons piece rest => rfl

theorem pieces_ne_nil (separator : Char) (cs : List Char) : pieces separator cs ≠ [] := by
  rw [pieces_eq_splitOn]
  exact List.splitOn_ne_nil separator cs

theorem pieces_of_not_mem {cs : List Char} (h : separator ∉ cs) : pieces separator cs = [cs] := by
  rw [pieces_eq_splitOn, List.splitOn_eq_singleton h]

theorem pieces_append_cons (separator : Char) (cs ds : List Char) :
    pieces separator (cs ++ separator :: ds) = pieces separator cs ++ pieces separator ds := by
  simp only [pieces_eq_splitOn, List.splitOn_append_cons_self]

theorem intercalate_pieces (separator : Char) (cs : List Char) :
    [separator].intercalate (pieces separator cs) = cs := by
  rw [pieces_eq_splitOn, List.intercalate_splitOn]

/-- A character that does not separate stands at the front of the first piece. -/
theorem exists_pieces_cons (separator : Char) {c : Char} (hc : c ≠ separator) (cs : List Char) :
    ∃ piece others, pieces separator cs = piece :: others ∧
      pieces separator (c :: cs) = (c :: piece) :: others := by
  obtain ⟨piece, others, hcs⟩ := List.exists_cons_of_ne_nil (pieces_ne_nil separator cs)
  exact ⟨piece, others, hcs, by rw [pieces, if_neg hc, hcs]⟩

theorem length_pieces (separator : Char) (cs : List Char) :
    (pieces separator cs).length = cs.count separator + 1 := by
  induction cs with
  | nil => rfl
  | cons c cs ih =>
    by_cases hc : c = separator
    · rw [pieces, if_pos hc, hc, List.count_cons_self, List.length_cons, ih]
    · obtain ⟨piece, others, hcs, hcons⟩ := exists_pieces_cons separator hc cs
      rw [List.count_cons_of_ne hc, ← ih, hcs, hcons, List.length_cons, List.length_cons]

theorem head?_pieces (separator : Char) (cs : List Char) :
    (pieces separator cs).head? = some (cs.takeWhile (· ≠ separator)) := by
  induction cs with
  | nil => rfl
  | cons c cs ih =>
    by_cases hc : c = separator
    · simp [pieces, hc]
    · obtain ⟨piece, others, hcs, hcons⟩ := exists_pieces_cons separator hc cs
      rw [hcs, List.head?_cons, Option.some.injEq] at ih
      simp [hcons, hc, ih]

theorem mem_of_mem_pieces (cs : List Char) :
    ∀ piece ∈ pieces separator cs, ∀ c ∈ piece, c ∈ cs := by
  induction cs with
  | nil => simp [pieces]
  | cons d ds ih =>
    intro piece hpiece c hc
    rw [pieces] at hpiece
    split at hpiece
    · rcases List.mem_cons.mp hpiece with rfl | hrest
      · exact absurd hc List.not_mem_nil
      · exact List.mem_cons_of_mem d (ih piece hrest c hc)
    · split at hpiece
      · rw [List.mem_singleton.mp hpiece] at hc
        rw [List.mem_singleton.mp hc]
        exact List.mem_cons_self
      · next first rest hcons =>
        rw [hcons] at ih
        rcases List.mem_cons.mp hpiece with rfl | hrest
        · rcases List.mem_cons.mp hc with rfl | hc
          · exact List.mem_cons_self
          · exact List.mem_cons_of_mem d (ih first List.mem_cons_self c hc)
        · exact List.mem_cons_of_mem d (ih piece (List.mem_cons_of_mem _ hrest) c hc)

/-- The separator is in none of the pieces. -/
theorem not_mem_of_mem_pieces (cs : List Char) :
    ∀ piece ∈ pieces separator cs, separator ∉ piece := by
  induction cs with
  | nil => simp [pieces]
  | cons c cs ih =>
    intro piece hpiece
    rw [pieces] at hpiece
    split at hpiece
    · rcases List.mem_cons.mp hpiece with rfl | hrest
      · exact List.not_mem_nil
      · exact ih piece hrest
    · next hc =>
      split at hpiece
      · next hnil =>
        rw [List.mem_singleton.mp hpiece, List.mem_singleton]
        exact Ne.symm hc
      · next first rest hcons =>
        rw [hcons] at ih
        rcases List.mem_cons.mp hpiece with rfl | hrest
        · rw [List.mem_cons, not_or]
          exact ⟨Ne.symm hc, ih first List.mem_cons_self⟩
        · exact ih piece (List.mem_cons_of_mem _ hrest)

end LivePreview.Location
