import LivePreview.Text.Normal
import LivePreview.Text.Points

/-!
# The first character of a normal form

A name that begins with an ASCII letter keeps a starter at its front: the letter decomposes to
itself and is no mark, so that no mark moves before it. What it is composed with gives a composite,
and no composite is an underscore. So the names that begin with an underscore are out of reach of
all others.
-/

namespace LivePreview.Text

/-! ## Tables -/

theorem mem_of_getElem?_insertMany {α β : Type} [BEq α] [LawfulBEq α] [Hashable α]
    {k : α} {v : β} (entries : List (α × β)) : ∀ m : Std.HashMap α β,
      (m.insertMany entries)[k]? = some v → m[k]? = some v ∨ (k, v) ∈ entries := by
  induction entries with
  | nil =>
    intro m h
    rw [Std.HashMap.insertMany_nil] at h
    exact .inl h
  | cons e entries ih =>
    obtain ⟨key, value⟩ := e
    intro m h
    rw [Std.HashMap.insertMany_cons] at h
    rcases ih _ h with h | h
    · rw [Std.HashMap.getElem?_insert] at h
      split at h
      · next hkey =>
        rw [eq_of_beq hkey, Option.some.inj h]
        exact .inr List.mem_cons_self
      · exact .inl h
    · exact .inr (List.mem_cons_of_mem _ h)

theorem mem_of_getElem?_ofList {α β : Type} [BEq α] [LawfulBEq α] [Hashable α] {k : α} {v : β}
    {entries : List (α × β)} (h : (Std.HashMap.ofList entries)[k]? = some v) :
    (k, v) ∈ entries := by
  rw [Std.HashMap.ofList_eq_insertMany_empty] at h
  rcases mem_of_getElem?_insertMany entries ∅ h with h | h
  · rw [Std.HashMap.getElem?_empty] at h
    cases h
  · exact h

/-- An ASCII character decomposes to itself. -/
theorem decompose_of_ascii {c : Nat} (hc : c < 128) : decompose c = [c] := by
  have hkeys : (decompositionEntries.all fun e => 128 ≤ e.1) = true := by decide +kernel
  have hnone : decompositions[c]? = none := by
    cases hentry : decompositions[c]? with
    | none => rfl
    | some value =>
      have hkey := List.all_eq_true.mp hkeys _ (mem_of_getElem?_ofList hentry)
      exact absurd (of_decide_eq_true hkey) (Nat.not_le.mpr hc)
  rw [decompose, if_neg (by omega), hnone]
  rfl

/-- No ASCII character is a combining mark. -/
theorem combiningClass_of_ascii {c : Nat} (hc : c < 128) : combiningClass c = 0 := by
  have hfirst : ∀ e ∈ combiningClassEntries, 128 ≤ e.1 := by decide +kernel
  unfold combiningClass
  split
  · next first last cls hfind =>
    have hrange := List.find?_some hfind
    have hlow : first ≤ c := of_decide_eq_true (Bool.and_eq_true_iff.mp hrange).1
    exact absurd (Nat.le_trans (hfirst _ (List.mem_of_find?_eq_some hfind)) hlow)
      (Nat.not_le.mpr hc)
  · rfl

/-- No composite is an underscore. -/
theorem composite?_ne_underscore {a b joined : Nat} (h : composite? a b = some joined) :
    joined ≠ '_'.toNat := by
  have hunderscore : '_'.toNat = 0x5f := rfl
  have hvalues : ∀ e ∈ compositionEntries, e.2 ≠ 0x5f := by decide +kernel
  rw [hunderscore]
  unfold composite? at h
  split at h
  · have hjoined := Option.some.inj h
    omega
  · split at h
    · have hjoined := Option.some.inj h
      omega
    · exact hvalues _ (mem_of_getElem?_ofList h)

/-! ## Ordering and composition -/

/-- A starter keeps its place behind all that is put before it. -/
theorem exists_placeMark_concat (p cls starter : Nat) (passed : List (Nat × Nat)) :
    ∃ before, placeMark p cls (passed ++ [(starter, 0)]) = before ++ [(starter, 0)] := by
  induction passed with
  | nil => exact ⟨[(p, cls)], by simp [placeMark]⟩
  | cons e passed ih =>
    obtain ⟨q, other⟩ := e
    rw [List.cons_append, placeMark]
    split
    · obtain ⟨before, hbefore⟩ := ih
      exact ⟨(q, other) :: before, by rw [hbefore, List.cons_append]⟩
    · exact ⟨(p, cls) :: (q, other) :: passed, rfl⟩

theorem exists_orderMarks_cons {starter : Nat} (hstarter : combiningClass starter = 0)
    (ps : List Nat) : ∃ rest, orderMarks (starter :: ps) = (starter, 0) :: rest := by
  have hfold : ∀ passed : List (Nat × Nat), (∃ before, passed = before ++ [(starter, 0)]) →
      ∃ before, ps.foldl (fun passed p => placeMark p (combiningClass p) passed) passed =
        before ++ [(starter, 0)] := by
    intro passed hpassed
    refine List.foldlRecOn (motive := fun passed => ∃ before, passed = before ++ [(starter, 0)])
      ps _ hpassed ?_
    rintro _ ⟨before, rfl⟩ p _
    exact exists_placeMark_concat p (combiningClass p) starter before
  obtain ⟨before, hbefore⟩ := hfold [(starter, 0)] ⟨[], rfl⟩
  refine ⟨before.reverse, ?_⟩
  rw [orderMarks, List.foldl_cons, hstarter]
  change (ps.foldl (fun passed p => placeMark p (combiningClass p) passed)
    [(starter, 0)]).reverse = _
  rw [hbefore, List.reverse_append]
  rfl

theorem head?_composeFrom (rest : List (Nat × Nat)) : ∀ (starter : Nat) (kept : List Nat)
    (last : Nat), starter ≠ '_'.toNat →
      ∃ p others, composeFrom starter kept last rest = p :: others ∧ p ≠ '_'.toNat := by
  induction rest with
  | nil => exact fun starter kept _ h => ⟨starter, kept.reverse, rfl, h⟩
  | cons e rest ih =>
    obtain ⟨p, cls⟩ := e
    intro starter kept last h
    rw [composeFrom]
    split
    · next joined hjoined =>
      refine ih joined kept last ?_
      split at hjoined
      · exact composite?_ne_underscore hjoined
      · cases hjoined
    · split
      · exact ⟨starter, _, rfl, h⟩
      · exact ih starter (p :: kept) cls h

/-- A name that begins with an ASCII letter has no normal form that begins with an underscore. -/
theorem head?_normalForm_ne_underscore {s : String} {c : Char} (hhead : s.toList.head? = some c)
    (hascii : c.toNat < 128) (hc : c ≠ '_') : (normalForm s).toList.head? ≠ some '_' := by
  unfold normalForm
  split
  · rw [hhead]
    exact fun h => hc (Option.some.inj h)
  · obtain ⟨cs, hcs⟩ : ∃ cs, s.toList = c :: cs := by
      cases hs : s.toList with
      | nil => rw [hs] at hhead; cases hhead
      | cons d cs =>
        rw [hs] at hhead
        exact ⟨cs, by rw [Option.some.inj hhead]⟩
    have hpoints : s.toList.flatMap (fun d => decompose d.toNat) =
        c.toNat :: cs.flatMap fun d => decompose d.toNat := by
      rw [hcs, List.flatMap_cons, decompose_of_ascii hascii, List.singleton_append]
    obtain ⟨rest, hrest⟩ := exists_orderMarks_cons (combiningClass_of_ascii hascii)
      (cs.flatMap fun d => decompose d.toNat)
    have hstarter : c.toNat ≠ '_'.toNat := fun h => hc (Char.toNat_inj.mp h)
    obtain ⟨p, others, hp, hne⟩ := head?_composeFrom rest c.toNat [] 0 hstarter
    simp only [hpoints, hrest]
    rw [compose, if_pos rfl, hp, String.toList_ofList]
    exact fun h => hne (toNat_of_ofNat (Option.some.inj h) (by decide))

end LivePreview.Text
