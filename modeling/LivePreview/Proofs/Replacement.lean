import LivePreview.Module.Rule
import LivePreview.Proofs.Pieces
import LivePreview.Text.Points

/-!
# A word of a path replaced

The directory of a family may differ from the one of its anchor in a word. The word is looked for in
the lower case form of a segment, and as many characters as it has are cut out of the segment
itself. That is the word, in whatever case of letters, as long as the two forms have their
characters at the same places: a dotted capital I becomes two characters, and a capital sigma is
folded by what stands around it, so that a word with it need not be found where it would be found by
itself.
-/

namespace LivePreview

/-! ## Folding character by character -/

namespace Text

/-- The lower case form of a character by itself. -/
def lowerChar (c : Char) : Char := Char.ofNat (lowerPoint lowerRuns c.toNat)

/-- Both small sigmas as one. -/
def medial (c : Char) : Char := if c = 'ς' then 'σ' else c

variable {cs p : List Char}

theorem lowerAfter_cons (before : List Char) {c : Char} (hdotted : c ≠ 'İ') (hsigma : c ≠ 'Σ')
    (cs : List Char) :
    lowerAfter before (c :: cs) = lowerChar c :: lowerAfter (c :: before) cs := by
  have hdotted : c.toNat ≠ 0x130 := fun h => hdotted (Char.toNat_inj.mp h)
  have hsigma : c.toNat ≠ 0x3a3 := fun h => hsigma (Char.toNat_inj.mp h)
  rw [lowerAfter, if_neg hdotted, if_neg hsigma]
  rfl

theorem lowerAfter_sigma (before cs : List Char) :
    lowerAfter before ('Σ' :: cs) =
      (if meetsCased before && !meetsCased cs then 'ς' else 'σ') ::
        lowerAfter ('Σ' :: before) cs := by
  have hdotted : 'Σ'.toNat ≠ 0x130 := by decide
  have hsigma : 'Σ'.toNat = 0x3a3 := by decide
  rw [lowerAfter, if_neg hdotted, if_pos hsigma]
  split <;> rfl

theorem lowerAfter_eq_map (hdotted : 'İ' ∉ cs) (hsigma : 'Σ' ∉ cs) :
    ∀ before, lowerAfter before cs = cs.map lowerChar := by
  induction cs with
  | nil => exact fun _ => rfl
  | cons c cs ih =>
    rw [List.mem_cons, not_or] at hdotted hsigma
    intro before
    rw [lowerAfter_cons before (Ne.symm hdotted.1) (Ne.symm hsigma.1), ih hdotted.2 hsigma.2,
      List.map_cons]

/-- Up to the form of a sigma, nothing but a dotted capital I is folded by more than the character
itself. -/
theorem map_medial_lowerAfter (hdotted : 'İ' ∉ cs) :
    ∀ before, (lowerAfter before cs).map medial = cs.map (medial ∘ lowerChar) := by
  induction cs with
  | nil => exact fun _ => rfl
  | cons c cs ih =>
    rw [List.mem_cons, not_or] at hdotted
    intro before
    by_cases hsigma : c = 'Σ'
    · have hmedial : (medial ∘ lowerChar) 'Σ' = 'σ' := by decide
      rw [hsigma, lowerAfter_sigma, List.map_cons, List.map_cons, ih hdotted.2, hmedial]
      split <;> rfl
    · rw [lowerAfter_cons before (Ne.symm hdotted.1) hsigma, List.map_cons, List.map_cons,
        ih hdotted.2, Function.comp_apply]

theorem length_lowerChars (hdotted : 'İ' ∉ cs) : (lowerChars cs).length = cs.length := by
  have h := congrArg List.length (map_medial_lowerAfter hdotted [])
  rw [List.length_map, List.length_map] at h
  exact h

theorem map_medial_eq_iff (hp : 'σ' ∉ p ∧ 'ς' ∉ p) {cs : List Char} :
    cs.map medial = p ↔ cs = p := by
  constructor
  · intro h
    have hplain : ∀ c ∈ cs, medial c = c := by
      intro c hc
      refine if_neg fun hfinal => hp.1 ?_
      rw [← h]
      exact List.mem_map.mpr ⟨c, hc, if_pos hfinal⟩
    rw [← h, List.map_congr_left hplain, List.map_id']
  · intro h
    have hplain : ∀ c ∈ p, medial c = c := by
      intro c hc
      refine if_neg fun hfinal => hp.2 ?_
      rw [← hfinal]
      exact hc
    rw [h, List.map_congr_left hplain, List.map_id']

/-- A separator is a lower case form of itself only. -/
theorem lowerPoint_eq_slash {runs : List (Nat × Nat × Nat × Nat)}
    (h : ∀ run ∈ runs, 0x2f < run.2.2.2) {n : Nat} (hn : lowerPoint runs n = 0x2f) : n = 0x2f := by
  induction runs with
  | nil => exact hn
  | cons run runs ih =>
    obtain ⟨first, last, step, image⟩ := run
    obtain ⟨himage, hruns⟩ := List.forall_mem_cons.mp h
    rw [lowerPoint] at hn
    split at hn
    · exact hn
    · split at hn
      · split at hn
        · simp only at himage
          omega
        · exact ih hruns hn
      · exact ih hruns hn

theorem lowerChar_eq_slash {c : Char} (h : lowerChar c = '/') : c = '/' := by
  have hruns : ∀ run ∈ lowerRuns, 0x2f < run.2.2.2 := by decide +kernel
  have hpoint : lowerPoint lowerRuns c.toNat = '/'.toNat := toNat_of_ofNat h (by decide)
  exact Char.toNat_inj.mp (lowerPoint_eq_slash hruns hpoint)

/-- Folding brings no separator in. -/
theorem slash_notMem_lowerAfter (h : '/' ∉ cs) : ∀ before, '/' ∉ lowerAfter before cs := by
  induction cs with
  | nil => exact fun _ => List.not_mem_nil
  | cons c cs ih =>
    rw [List.mem_cons, not_or] at h
    intro before
    rw [lowerAfter, List.mem_append, not_or]
    refine ⟨?_, ih h.2 _⟩
    split
    · decide
    · split
      · split <;> decide
      · rw [List.mem_singleton]
        exact fun hslash => h.1 (lowerChar_eq_slash hslash.symm).symm

theorem lowerChars_ne_nil (h : cs ≠ []) : lowerChars cs ≠ [] := by
  obtain ⟨c, cs, rfl⟩ := List.exists_cons_of_ne_nil h
  rw [lowerChars, lowerAfter]
  intro hnil
  have hfolded := (List.append_eq_nil_iff.mp hnil).1
  split at hfolded
  · exact absurd hfolded (by simp)
  · split at hfolded <;> exact absurd hfolded (by simp)

theorem toList_lower (s : String) : (lower s).toList = lowerChars s.toList :=
  String.toList_ofList

theorem toList_lower_ne_nil {s : String} (h : s ≠ "") : (lower s).toList ≠ [] := by
  rw [toList_lower]
  exact lowerChars_ne_nil (mt String.toList_eq_nil_iff.mp h)

end Text

/-! ## The place of the word -/

namespace Module

variable {piece cs : List Char}

theorem prefix_of_firstIndex? {i : Nat} (h : firstIndex? piece cs = some i) :
    piece <+: cs.drop i ∧ ∀ j < i, ¬ piece <+: cs.drop j := by
  induction cs generalizing i with
  | nil =>
    rw [firstIndex?] at h
    split at h
    · next hempty =>
      rw [List.isEmpty_iff.mp hempty, ← Option.some.inj h]
      exact ⟨List.nil_prefix, fun j hj => absurd hj (Nat.not_lt_zero j)⟩
    · cases h
  | cons c cs ih =>
    rw [firstIndex?] at h
    split at h
    · next hhere =>
      rw [← Option.some.inj h]
      exact ⟨List.isPrefixOf_iff_prefix.mp hhere, fun j hj => absurd hj (Nat.not_lt_zero j)⟩
    · next hhere =>
      obtain ⟨i, hi, rfl⟩ := Option.map_eq_some_iff.mp h
      obtain ⟨hpiece, hfirst⟩ := ih hi
      refine ⟨hpiece, fun j hj => ?_⟩
      cases j with
      | zero => exact fun hzero => hhere (List.isPrefixOf_iff_prefix.mpr hzero)
      | succ j => exact hfirst j (by omega)

theorem not_prefix_of_firstIndex? (h : firstIndex? piece cs = none) :
    ∀ i, ¬ piece <+: cs.drop i := by
  induction cs with
  | nil =>
    rw [firstIndex?] at h
    split at h
    · cases h
    · next hempty =>
      intro i hfront
      rw [List.drop_nil, List.prefix_nil] at hfront
      exact hempty (List.isEmpty_iff.mpr hfront)
  | cons c cs ih =>
    rw [firstIndex?] at h
    split at h
    · cases h
    · next hhere =>
      intro i
      cases i with
      | zero => exact fun hzero => hhere (List.isPrefixOf_iff_prefix.mpr hzero)
      | succ i => exact ih (Option.map_eq_none_iff.mp h) i

/-- A piece in the image of a text is the image of a piece of it. -/
theorem prefix_drop_map_iff {f : Char → Char} {i : Nat} (hpiece : piece ≠ []) :
    piece <+: (cs.map f).drop i ↔
      ∃ a m b, cs = a ++ m ++ b ∧ a.length = i ∧ m.map f = piece := by
  rw [← List.map_drop, List.prefix_map_iff]
  constructor
  · rintro ⟨m, ⟨b, hb⟩, rfl⟩
    have hi : i ≤ cs.length := by
      by_cases hlong : cs.length < i
      · rw [List.drop_eq_nil_of_le (by omega), List.append_eq_nil_iff] at hb
        rw [hb.1] at hpiece
        exact absurd rfl hpiece
      · omega
    refine ⟨cs.take i, m, b, ?_, List.length_take_of_le hi, rfl⟩
    rw [List.append_assoc, hb, List.take_append_drop]
  · rintro ⟨a, m, b, rfl, rfl, rfl⟩
    rw [List.append_assoc, List.drop_left]
    exact ⟨m, List.prefix_append m b, rfl⟩

/-- Where `f` folds the characters one by one, as far as `piece` can tell, the piece is in the lower
case form of a text where the text has a piece with this form. -/
theorem prefix_drop_lowerChars_iff {f g : Char → Char} (hpiece : piece ≠ [])
    (hg : ∀ other : List Char, other.map g = piece ↔ other = piece)
    (hf : ∀ m, m ⊆ cs → (Text.lowerChars m).map g = m.map f) (i : Nat) :
    piece <+: (Text.lowerChars cs).drop i ↔
      ∃ a m b, cs = a ++ m ++ b ∧ a.length = i ∧ Text.lowerChars m = piece := by
  have hfront : piece <+: (Text.lowerChars cs).drop i ↔ piece <+: (cs.map f).drop i := by
    rw [← hf cs (List.Subset.refl cs), ← List.map_drop, List.prefix_map_iff]
    constructor
    · intro h
      exact ⟨piece, h, ((hg piece).mpr rfl).symm⟩
    · rintro ⟨other, hother, hfolded⟩
      rw [← (hg other).mp hfolded.symm]
      exact hother
  rw [hfront, prefix_drop_map_iff hpiece]
  refine exists_congr fun a => exists_congr fun m => exists_congr fun b => ?_
  refine and_congr_right fun hcs => and_congr_right fun _ => ?_
  have hm : m ⊆ cs := by
    rw [hcs]
    exact fun c hc => List.mem_append_left b (List.mem_append_right a hc)
  rw [← hf m hm, hg]

/-- The lower case form of a segment has its characters where the segment has them, and at a sigma
`old` cannot tell one form from the other. -/
structure Aligned (old segment : String) : Prop where
  dotless : 'İ' ∉ segment.toList
  medial : 'Σ' ∈ segment.toList → 'σ' ∉ (Text.lower old).toList ∧ 'ς' ∉ (Text.lower old).toList

variable {old new segment : String}

theorem Aligned.prefix_drop_iff (h : Aligned old segment) (hold : old ≠ "") (i : Nat) :
    (Text.lower old).toList <+: (Text.lower segment).toList.drop i ↔
      ∃ a m b, segment.toList = a ++ m ++ b ∧ a.length = i ∧
        Text.lowerChars m = (Text.lower old).toList := by
  have hpiece := Text.toList_lower_ne_nil hold
  rw [Text.toList_lower segment]
  by_cases hsigma : 'Σ' ∈ segment.toList
  · exact prefix_drop_lowerChars_iff hpiece (fun _ => Text.map_medial_eq_iff (h.medial hsigma))
      (fun m hm => Text.map_medial_lowerAfter (fun hc => h.dotless (hm hc)) []) i
  · refine prefix_drop_lowerChars_iff (f := Text.lowerChar) (g := id) hpiece (fun m => ?_)
      (fun m hm => ?_) i
    · rw [List.map_id]
    · rw [List.map_id]
      exact Text.lowerAfter_eq_map (fun hc => h.dotless (hm hc)) (fun hc => hsigma (hm hc)) []

/-! ## A segment -/

/-- The text `a ++ m ++ b` is cut around the first piece that reads `old` in any case of letters. -/
structure FirstMatch (old a m b : String) : Prop where
  same : Text.lower m = Text.lower old
  first : ∀ a' m' b', a' ++ m' ++ b' = a ++ m ++ b → Text.lower m' = Text.lower old →
    a.length ≤ a'.length

theorem exists_match_of_prefix (h : Aligned old segment) (hold : old ≠ "") {i : Nat}
    (hfront : (Text.lower old).toList <+: (Text.lower segment).toList.drop i) :
    ∃ a m b, segment = a ++ m ++ b ∧ a.length = i ∧ Text.lower m = Text.lower old := by
  obtain ⟨a, m, b, hsegment, ha, hm⟩ := (h.prefix_drop_iff hold i).mp hfront
  refine ⟨String.ofList a, String.ofList m, String.ofList b, ?_, ?_, ?_⟩
  · rw [← String.ofList_append, ← String.ofList_append, ← hsegment, String.ofList_toList]
  · rw [String.length_ofList, ha]
  · rw [Text.lower, String.toList_ofList, hm, String.ofList_toList]

theorem prefix_of_match {a m b : String} (h : Aligned old (a ++ m ++ b)) (hold : old ≠ "")
    (hm : Text.lower m = Text.lower old) :
    (Text.lower old).toList <+: (Text.lower (a ++ m ++ b)).toList.drop a.length := by
  refine (h.prefix_drop_iff hold _).mpr ⟨a.toList, m.toList, b.toList, ?_, String.length_toList, ?_⟩
  · rw [String.toList_append, String.toList_append]
  · rw [← Text.toList_lower, hm]

theorem replaceIn_of_no_match (h : Aligned old segment) (hold : old ≠ "")
    (hnone : ∀ a m b, segment = a ++ m ++ b → Text.lower m ≠ Text.lower old) :
    replaceIn old new segment = segment := by
  cases hindex : firstIndex? (Text.lower old).toList (Text.lower segment).toList with
  | none => rw [replaceIn, hindex]
  | some i =>
    obtain ⟨hfront, -⟩ := prefix_of_firstIndex? hindex
    obtain ⟨a, m, b, hsegment, -, hm⟩ := exists_match_of_prefix h hold hfront
    exact absurd hm (hnone a m b hsegment)

/-- The first match is found where it is. -/
theorem firstIndex?_of_firstMatch {a m b : String} (h : Aligned old (a ++ m ++ b)) (hold : old ≠ "")
    (hmatch : FirstMatch old a m b) :
    firstIndex? (Text.lower old).toList (Text.lower (a ++ m ++ b)).toList = some a.length := by
  have hhere := prefix_of_match h hold hmatch.same
  cases hindex : firstIndex? (Text.lower old).toList (Text.lower (a ++ m ++ b)).toList with
  | none => exact absurd hhere (not_prefix_of_firstIndex? hindex _)
  | some i =>
    obtain ⟨hfront, hfirst⟩ := prefix_of_firstIndex? hindex
    have hle : i ≤ a.length := by
      by_cases hlt : a.length < i
      · exact absurd hhere (hfirst _ hlt)
      · omega
    obtain ⟨a', m', b', hsegment, hlength, hm'⟩ := exists_match_of_prefix h hold hfront
    have hge := hmatch.first a' m' b' hsegment.symm hm'
    have hi : i = a.length := by omega
    rw [hi]

theorem length_of_lower_eq {m : String} (hm : 'İ' ∉ m.toList) (hold : 'İ' ∉ old.toList)
    (h : Text.lower m = Text.lower old) : m.length = old.length := by
  have hlength := congrArg List.length (congrArg String.toList h)
  rw [Text.toList_lower, Text.toList_lower, Text.length_lowerChars hm,
    Text.length_lowerChars hold] at hlength
  exact hlength

/-- What is cut out of the segment is the first match, all of it and no more. -/
theorem replaceIn_of_firstMatch {a m b : String} (h : Aligned old (a ++ m ++ b)) (hold : old ≠ "")
    (hdotless : 'İ' ∉ old.toList) (hmatch : FirstMatch old a m b) :
    replaceIn old new (a ++ m ++ b) = a ++ new ++ b := by
  have hm : 'İ' ∉ m.toList := by
    refine fun hin => h.dotless ?_
    rw [String.toList_append, String.toList_append]
    exact List.mem_append_left _ (List.mem_append_right _ hin)
  have htake : (a ++ m ++ b).toList.take a.length = a.toList := by
    rw [String.toList_append, String.toList_append, List.append_assoc]
    exact List.take_left
  have hdrop : (a ++ m ++ b).toList.drop (a.length + old.length) = b.toList := by
    rw [← length_of_lower_eq hm hdotless hmatch.same, ← String.length_append, String.toList_append]
    exact List.drop_left
  rw [replaceIn, firstIndex?_of_firstMatch h hold hmatch]
  simp only [htake, hdrop, String.ofList_toList]

end Module

/-! ## The segments of a path -/

namespace Location

/-- What a path keeps of a text as one segment. -/
structure IsSegment (s : String) : Prop where
  named : s ≠ ""
  away : s ≠ "."
  whole : '/' ∉ s.toList

theorem isSegment_of_mem_ofText {p s : String} (h : s ∈ (ofText p).segments) : IsSegment s := by
  obtain ⟨piece, hpiece, rfl⟩ := List.mem_map.mp h
  obtain ⟨hin, hnamed⟩ := List.mem_filter.mp hpiece
  rw [named, Bool.and_eq_true, decide_eq_true_iff, decide_eq_true_iff] at hnamed
  refine ⟨fun hempty => hnamed.1 ?_, fun hdot => hnamed.2 ?_, ?_⟩
  · rw [← @String.toList_ofList piece, hempty, String.toList_empty]
  · rw [← @String.toList_ofList piece, hdot]
    rfl
  · rw [String.toList_ofList]
    exact not_mem_of_mem_pieces _ piece hin

theorem rootOf_of_not_mem {cs : List Char} (h : '/' ∉ cs) : rootOf cs = .relative := by
  unfold rootOf
  split
  · exact absurd List.mem_cons_self h
  · exact absurd List.mem_cons_self h
  · exact absurd List.mem_cons_self h
  · rfl

theorem IsSegment.ofText {s : String} (h : IsSegment s) : ofText s = ⟨.relative, [s]⟩ := by
  have hnamed : Location.named s.toList = true := by
    rw [Location.named, Bool.and_eq_true, decide_eq_true_iff, decide_eq_true_iff]
    refine ⟨mt String.toList_eq_nil_iff.mp h.named, fun hdot => h.away ?_⟩
    rw [← String.ofList_toList (s := s), hdot]
  rw [Location.ofText, ofChars, pieces_of_not_mem h.whole, rootOf_of_not_mem h.whole,
    List.filter_cons_of_pos hnamed, List.filter_nil, List.map_singleton, String.ofList_toList]

theorem IsSegment.join {s : String} (h : IsSegment s) (l : Location) :
    l.join s = ⟨l.root, l.segments ++ [s]⟩ := by
  change l.append (Location.ofText s) = _
  rw [h.ofText]
  rfl

theorem foldl_join {ss : List String} (h : ∀ s ∈ ss, IsSegment s) (l : Location) :
    ss.foldl join l = ⟨l.root, l.segments ++ ss⟩ := by
  induction ss generalizing l with
  | nil => rw [List.foldl_nil, List.append_nil]
  | cons s ss ih =>
    obtain ⟨hs, hss⟩ := List.forall_mem_cons.mp h
    rw [List.foldl_cons, ih hss, hs.join, List.append_assoc, List.singleton_append]

/-- A location is put together again from its parts. -/
theorem ofParts_parts {l : Location} (h : ∀ s ∈ l.segments, IsSegment s) : ofParts l.parts = l := by
  obtain ⟨root, segments⟩ := l
  cases root with
  | relative => exact foldl_join h ⟨.relative, []⟩
  | slash =>
    have hroot : join ⟨.relative, []⟩ Root.slash.text = ⟨.slash, []⟩ := by decide
    change segments.foldl join (join ⟨.relative, []⟩ Root.slash.text) = _
    rw [hroot, foldl_join h, List.nil_append]
  | twoSlashes =>
    have hroot : join ⟨.relative, []⟩ Root.twoSlashes.text = ⟨.twoSlashes, []⟩ := by decide
    change segments.foldl join (join ⟨.relative, []⟩ Root.twoSlashes.text) = _
    rw [hroot, foldl_join h, List.nil_append]

end Location

namespace Module

variable {old new segment : String}

theorem isSegment_replaceIn (h : Location.IsSegment segment) (hnew : new ≠ "")
    (hslash : '/' ∉ new.toList) (hdot : '.' ∉ new.toList) :
    Location.IsSegment (replaceIn old new segment) := by
  rw [replaceIn]
  split
  · exact h
  · next i hi =>
    obtain ⟨c, hc⟩ := List.exists_mem_of_ne_nil _ (mt String.toList_eq_nil_iff.mp hnew)
    extract_lets cs
    have hmem : ∀ a b : List Char, c ∈ (String.ofList a ++ new ++ String.ofList b).toList := by
      intro a b
      rw [String.toList_append, String.toList_append]
      exact List.mem_append_left _ (List.mem_append_right _ hc)
    refine ⟨fun hempty => ?_, fun haway => ?_, ?_⟩
    · have hin := hmem (cs.take i) (cs.drop (i + old.length))
      rw [hempty] at hin
      exact absurd hin (by simp)
    · have hin := hmem (cs.take i) (cs.drop (i + old.length))
      rw [haway] at hin
      have hchar : c = '.' := by simpa using hin
      rw [hchar] at hc
      exact hdot hc
    · simp only [String.toList_append, String.toList_ofList, List.mem_append, not_or]
      exact ⟨⟨fun hin => h.whole (List.mem_of_mem_take hin), hslash⟩,
        fun hin => h.whole (List.mem_of_mem_drop hin)⟩

/-- No word without separators is in the text of a root. -/
theorem replaceIn_root (hold : old ≠ "") (hslash : '/' ∉ old.toList) (root : Root) :
    replaceIn old new root.text = root.text := by
  have hlower : (Text.lower root.text).toList = root.text.toList := by cases root <;> decide +kernel
  have hslashes : ∀ c ∈ root.text.toList, c = '/' := by cases root <;> simp [Root.text]
  rw [replaceIn, hlower]
  split
  · rfl
  · next i hi =>
    obtain ⟨c, hc⟩ := List.exists_mem_of_ne_nil _ (Text.toList_lower_ne_nil hold)
    have hroot : c = '/' := by
      refine hslashes c (List.mem_of_mem_drop (i := i) ?_)
      exact (prefix_of_firstIndex? hi).1.subset hc
    rw [hroot, Text.toList_lower] at hc
    exact absurd hc (Text.slash_notMem_lowerAfter hslash [])

/-- The parts of the directory are those of the other one, each with the word replaced. -/
theorem parts_directory_replace {l : Location} (hl : ∀ s ∈ l.segments, Location.IsSegment s)
    (hold : old ≠ "") (holdslash : '/' ∉ old.toList) (hnew : new ≠ "")
    (hnewslash : '/' ∉ new.toList) (hdot : '.' ∉ new.toList) :
    ((Sibling.replace old new).directory l).parts = l.parent.parts.map (replaceIn old new) := by
  have hmap : l.parent.parts.map (replaceIn old new) =
      Location.parts ⟨l.root, l.parent.segments.map (replaceIn old new)⟩ := by
    have hroot : l.parent.root = l.root := rfl
    rw [Location.parts, Location.parts, hroot]
    split
    · rfl
    · rw [List.map_cons, replaceIn_root hold holdslash]
  have hsegments : ∀ s ∈ l.parent.segments.map (replaceIn old new), Location.IsSegment s := by
    intro s hs
    obtain ⟨segment, hsegment, rfl⟩ := List.mem_map.mp hs
    exact isSegment_replaceIn (hl segment (List.dropLast_subset _ hsegment)) hnew hnewslash hdot
  change (Location.ofParts (l.parent.parts.map (replaceIn old new))).parts = _
  rw [hmap, Location.ofParts_parts hsegments]

/-- A directory that differs in a word has as many parts. A part in which folding keeps characters
at their places is the same if it does not have the word in any case of letters; else the first such
word in it is replaced, and what stands before and behind it is kept. -/
theorem directory_replace (p old new : String) (hold : old ≠ "") (holdslash : '/' ∉ old.toList)
    (hnew : new ≠ "") (hnewslash : '/' ∉ new.toList) (hdot : '.' ∉ new.toList) :
    let l := Location.ofText p
    let moved := (Sibling.replace old new).directory l
    moved.parts.length = l.parent.parts.length ∧
      ∀ s t, (s, t) ∈ l.parent.parts.zip moved.parts → Aligned old s →
        ((∀ a m b, s = a ++ m ++ b → Text.lower m ≠ Text.lower old) → t = s) ∧
        ('İ' ∉ old.toList →
          ∀ a m b, s = a ++ m ++ b → FirstMatch old a m b → t = a ++ new ++ b) := by
  intro l moved
  have hparts : moved.parts = l.parent.parts.map (replaceIn old new) :=
    parts_directory_replace (fun s => Location.isSegment_of_mem_ofText) hold holdslash hnew
      hnewslash hdot
  refine ⟨by rw [hparts, List.length_map], ?_⟩
  intro s t hst haligned
  rw [hparts, ← List.map_prod_left_eq_zip] at hst
  obtain ⟨segment, -, hpair⟩ := List.mem_map.mp hst
  obtain ⟨rfl, rfl⟩ := Prod.mk.inj hpair
  refine ⟨replaceIn_of_no_match haligned hold, ?_⟩
  rintro hdotless a m b rfl hmatch
  exact replaceIn_of_firstMatch haligned hold hdotless hmatch

theorem directory_replace_widgets :
    let l := Location.ofText "/opt/widgets_server-1.2/lib/x.py"
    let moved := (Sibling.replace "Widgets_Server" "widgets").directory l
    moved.parts.length = 4 ∧
      ∀ t, ("widgets_server-1.2", t) ∈ l.parent.parts.zip moved.parts → t = "widgets-1.2" := by
  intro l moved
  obtain ⟨hlength, hparts⟩ := directory_replace "/opt/widgets_server-1.2/lib/x.py" "Widgets_Server"
    "widgets" (by decide) (by decide) (by decide) (by decide) (by decide)
  have hl : l.parent.parts.length = 4 := by decide
  refine ⟨hlength.trans hl, fun t ht => ?_⟩
  have haligned : Aligned "Widgets_Server" "widgets_server-1.2" :=
    ⟨by decide, fun hsigma => absurd hsigma (by decide)⟩
  have hmatch : FirstMatch "Widgets_Server" "" "widgets_server" "-1.2" :=
    ⟨by decide +kernel, fun _ _ _ _ _ => Nat.zero_le _⟩
  exact (hparts _ t ht haligned).2 (by decide) "" "widgets_server" "-1.2" (by decide) hmatch

/-- The word is not at the front, where it would begin with the dotted capital I. -/
theorem firstMatch_behind_dotted : FirstMatch "server" "İ" "server" "" := by
  refine ⟨rfl, fun a m b hcut hm => ?_⟩
  have hcs := congrArg String.toList hcut
  have hlower := congrArg String.toList hm
  have hword : (Text.lower "server").toList = "server".toList := by decide +kernel
  have hone : "İ".length = 1 := by decide
  rw [String.toList_append, String.toList_append] at hcs
  rw [Text.toList_lower, hword] at hlower
  cases ha : a.toList with
  | cons c cs =>
    rw [hone, ← String.length_toList, ha, List.length_cons]
    omega
  | nil =>
    cases hmchars : m.toList with
    | nil =>
      rw [hmchars] at hlower
      exact absurd hlower (by decide)
    | cons c cs =>
      rw [ha, hmchars] at hcs
      have hc : c = 'İ' := (List.cons.inj hcs).1
      rw [hmchars, hc, Text.lowerChars, Text.lowerAfter] at hlower
      exact absurd (List.cons.inj hlower).1 (by decide)

/-- Behind a dotted capital I the word is cut out one character late. -/
theorem directory_replace_not_exact :
    ¬ ∀ p old new : String, old ≠ "" → '/' ∉ old.toList → new ≠ "" → '/' ∉ new.toList →
      '.' ∉ new.toList →
      let l := Location.ofText p
      let moved := (Sibling.replace old new).directory l
      moved.parts.length = l.parent.parts.length ∧
        ∀ s t, (s, t) ∈ l.parent.parts.zip moved.parts →
          ((∀ a m b, s = a ++ m ++ b → Text.lower m ≠ Text.lower old) → t = s) ∧
          (∀ a m b, s = a ++ m ++ b → FirstMatch old a m b → t = a ++ new ++ b) := by
  intro h
  obtain ⟨-, hparts⟩ := h "/opt/İserver/x.py" "server" "client" (by decide) (by decide) (by decide)
    (by decide) (by decide)
  have hmember : ("İserver", "İsclient") ∈ (Location.ofText "/opt/İserver/x.py").parent.parts.zip
      ((Sibling.replace "server" "client").directory (.ofText "/opt/İserver/x.py")).parts := by
    decide +kernel
  have hreplaced := (hparts _ _ hmember).2 "İ" "server" "" (by decide) firstMatch_behind_dotted
  exact absurd hreplaced (by decide)

end Module

end LivePreview
