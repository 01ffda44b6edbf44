import LivePreview.Module.Resolver

/-!
# Lookup in a table of records

What a table answers as a resolver is one of its records: the last of a name, or the last of a
location. The locations of a directory are those of its records that lie in it, and are ascending, so
that the first one of a kind comes before all others of this kind.
-/

namespace LivePreview

/-! ## The order of locations -/

namespace Location

theorem lt_self (l : Location) : l.lt l = false := by
  rw [lt, decide_eq_false_iff_not]
  exact List.lt_irrefl l.parts

/-- What does not come before what does not come before a location does not come before it. -/
theorem not_lt_trans {l m k : Location} (hml : m.lt l = false) (hkm : k.lt m = false) :
    k.lt l = false := by
  rw [lt, decide_eq_false_iff_not] at hml hkm ⊢
  exact List.not_lt.mpr (List.le_trans (List.not_lt.mp hml) (List.not_lt.mp hkm))

theorem not_lt_total (l m : Location) : m.lt l = false ∨ l.lt m = false := by
  rw [lt, lt, decide_eq_false_iff_not, decide_eq_false_iff_not]
  exact (List.le_total l.parts m.parts).imp List.not_lt.mpr List.not_lt.mpr

/-- Two locations in one directory that come neither before the other are the same. -/
theorem eq_of_not_lt {l m : Location} (hparent : l.parent = m.parent) (hlm : l.lt m = false)
    (hml : m.lt l = false) : l = m := by
  have hroot : l.root = m.root := congrArg (·.root) hparent
  have hparts : l.parts = m.parts := by
    rw [lt, decide_eq_false_iff_not] at hlm hml
    exact List.le_antisymm (List.not_lt.mp hml) (List.not_lt.mp hlm)
  obtain ⟨root, segments⟩ := l
  obtain ⟨otherRoot, otherSegments⟩ := m
  simp only at hroot
  subst hroot
  by_cases hrelative : root = .relative
  · simpa [parts, hrelative] using hparts
  · simpa [parts, hrelative] using hparts

theorem pairwise_sort (ls : List Location) : (sort ls).Pairwise fun l m => m.lt l = false := by
  have hsorted : (sort ls).Pairwise fun l m => (!m.lt l) = true := by
    refine List.pairwise_mergeSort (fun a b c hab hbc => ?_) (fun a b => ?_) ls
    · rw [Bool.not_eq_true'] at hab hbc ⊢
      exact not_lt_trans hab hbc
    · rw [Bool.or_eq_true, Bool.not_eq_true', Bool.not_eq_true']
      exact not_lt_total a b
  exact hsorted.imp fun h => (Bool.not_eq_true' _).mp h

theorem mem_sort {l : Location} {ls : List Location} : l ∈ sort ls ↔ l ∈ ls :=
  (List.mergeSort_perm ls _).mem_iff

end Location

namespace Module

/-! ## Records -/

namespace Lookup

variable {ms : List Record} {directory l : Location} {m : Record}

theorem name_of_byName? {name : String} (h : byName? ms name = some m) : m.name = name := by
  simpa using List.find?_some h

theorem mem_of_byName? {name : String} (h : byName? ms name = some m) : m ∈ ms :=
  List.mem_reverse.mp (List.mem_of_find?_eq_some h)

theorem exists_byName? (h : m ∈ ms) : ∃ other, byName? ms m.name = some other := by
  rw [← Option.isSome_iff_exists, byName?, List.find?_isSome]
  exact ⟨m, List.mem_reverse.mpr h, by simp⟩

theorem location_of_byLocation? (h : byLocation? ms l = some m) : m.location = some l := by
  simpa using List.find?_some h

theorem mem_of_byLocation? (h : byLocation? ms l = some m) : m ∈ ms :=
  List.mem_reverse.mp (List.mem_of_find?_eq_some h)

theorem exists_byLocation? (h : m ∈ ms) (hlocation : m.location = some l) :
    ∃ other, byLocation? ms l = some other := by
  rw [← Option.isSome_iff_exists, byLocation?, List.find?_isSome]
  exact ⟨m, List.mem_reverse.mpr h, by simpa using hlocation⟩

/-- The locations in a directory are those of some records. -/
theorem exists_of_mem_inDirectory (h : l ∈ inDirectory ms directory) :
    ∃ m, byLocation? ms l = some m := by
  rw [inDirectory, Location.mem_sort, List.mem_filter, List.mem_eraseDups, List.mem_filterMap] at h
  obtain ⟨⟨m, hm, hlocation⟩, -⟩ := h
  exact exists_byLocation? hm hlocation

theorem parent_of_mem_inDirectory (h : l ∈ inDirectory ms directory) : l.parent = directory := by
  rw [inDirectory, Location.mem_sort, List.mem_filter, decide_eq_true_iff] at h
  exact h.2

theorem mem_inDirectory (h : byLocation? ms l = some m) (hparent : l.parent = directory) :
    l ∈ inDirectory ms directory := by
  have hlocated : l ∈ ms.filterMap (·.location) :=
    List.mem_filterMap.mpr ⟨m, mem_of_byLocation? h, location_of_byLocation? h⟩
  rw [inDirectory, Location.mem_sort, List.mem_filter, List.mem_eraseDups, decide_eq_true_iff]
  exact ⟨hlocated, hparent⟩

/-- No location of a directory for which the same is true comes before the first one. -/
theorem not_lt_of_find?_inDirectory {p : Location → Bool}
    (h : (inDirectory ms directory).find? p = some l) :
    ∀ k ∈ inDirectory ms directory, p k = true → k.lt l = false := by
  have hsorted : (inDirectory ms directory).Pairwise fun l k => k.lt l = false :=
    Location.pairwise_sort _
  obtain ⟨-, before, after, hsplit, hbefore⟩ := List.find?_eq_some_iff_append.mp h
  rw [hsplit] at hsorted ⊢
  obtain ⟨-, hrest, -⟩ := List.pairwise_append.mp hsorted
  intro k hk hp
  rcases List.mem_append.mp hk with hk | hk
  · have hnot := hbefore k hk
    rw [hp] at hnot
    cases hnot
  · rcases List.mem_cons.mp hk with rfl | hk
    · exact Location.lt_self k
    · exact List.rel_of_pairwise_cons hrest hk

theorem find?_inDirectory_eq_some_iff {p : Location → Bool} :
    (inDirectory ms directory).find? p = some l ↔ l ∈ inDirectory ms directory ∧ p l = true ∧
      ∀ k ∈ inDirectory ms directory, p k = true → k.lt l = false := by
  constructor
  · exact fun h => ⟨List.mem_of_find?_eq_some h, List.find?_some h, not_lt_of_find?_inDirectory h⟩
  · rintro ⟨hl, hp, hfirst⟩
    have hsome : ((inDirectory ms directory).find? p).isSome = true :=
      List.find?_isSome.mpr ⟨l, hl, hp⟩
    obtain ⟨k, hk⟩ := Option.isSome_iff_exists.mp hsome
    -- Neither of the two comes before the other, and both lie in one directory.
    have hmem := List.mem_of_find?_eq_some hk
    have hparent : k.parent = l.parent :=
      (parent_of_mem_inDirectory hmem).trans (parent_of_mem_inDirectory hl).symm
    have hkl : k.lt l = false := hfirst k hmem (List.find?_some hk)
    have hlk : l.lt k = false := not_lt_of_find?_inDirectory hk l hl hp
    rw [hk, Location.eq_of_not_lt hparent hkl hlk]

end Lookup

/-! ## Tables as resolvers -/

section Table

variable {ms : List Record} {directory l : Location} {m : Record}

theorem load_ofTable_eq_ok_iff {name : String} :
    (Resolver.ofTable ms).load name = .ok m ↔ Lookup.byName? ms name = some m := by
  rw [Resolver.ofTable]
  cases hfound : Lookup.byName? ms name with
  | none => simp [hfound]
  | some other => simp [hfound]

theorem inspect_ofTable_eq_ok_iff :
    (Resolver.ofTable ms).inspect l = .ok m ↔ Lookup.byLocation? ms l = some m := by
  rw [Resolver.ofTable]
  cases hfound : Lookup.byLocation? ms l with
  | none => simp [hfound]
  | some other => simp [hfound]

theorem list_ofTable_eq_ok_iff {files : List Location} :
    (Resolver.ofTable ms).list directory = .ok files ↔
      files = Lookup.inDirectory ms directory ∧ files ≠ [] := by
  rw [Resolver.ofTable]
  cases hfiles : Lookup.inDirectory ms directory with
  | nil => simp [hfiles]
  | cons first others =>
    simp only [hfiles, Except.ok.injEq]
    constructor
    · rintro rfl
      exact ⟨rfl, List.cons_ne_nil _ _⟩
    · exact fun h => h.1.symm

theorem list_ofTable_eq_error_iff {fault : HostFault} :
    (Resolver.ofTable ms).list directory = .error fault ↔
      Lookup.inDirectory ms directory = [] ∧ fault = .noModulesUnder directory := by
  rw [Resolver.ofTable]
  cases hfiles : Lookup.inDirectory ms directory with
  | nil => simp [hfiles, eq_comm]
  | cons first others => simp [hfiles]

end Table

end Module

end LivePreview
