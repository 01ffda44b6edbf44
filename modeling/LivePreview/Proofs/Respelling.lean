import Mathlib.Logic.Relation
import LivePreview.Proofs.Name

/-!
# Paths that are spelled in another way

The names for a path are made of its named segments: what stands between slashes of both kinds, empty
segments and single points left out. More slashes, other slashes and points between slashes add no
named segment. There is one thing besides that the names depend on. Exactly two slashes at the front
are a root of their own, which is taken for a segment: the name of the module then begins with it,
and a path without named segments gets the name of the component from it.
-/

namespace LivePreview.Component

/-- Both kinds of slashes separate segments. -/
def isSlash (c : Char) : Bool := c = '/' || c = '\\'

/-- An edit of a path that names no other segment: a slash at the front or next to a slash, a slash
that is turned, or a point between two slashes. -/
inductive Respelling : List Char → List Char → Prop
  | front (cs : List Char) {c : Char} (hc : isSlash c = true) : Respelling cs (c :: cs)
  | ahead (before behind : List Char) {c d : Char} (hc : isSlash c = true) (hd : isSlash d = true) :
      Respelling (before ++ c :: behind) (before ++ d :: c :: behind)
  | after (before behind : List Char) {c d : Char} (hc : isSlash c = true) (hd : isSlash d = true) :
      Respelling (before ++ c :: behind) (before ++ c :: d :: behind)
  | turn (before behind : List Char) :
      Respelling (before ++ '/' :: behind) (before ++ '\\' :: behind)
  | point (before behind : List Char) {c d : Char} (hc : isSlash c = true) (hd : isSlash d = true) :
      Respelling (before ++ c :: d :: behind) (before ++ c :: '.' :: d :: behind)

/-- Any number of such edits lead from one path to the other, done or undone. -/
def Respelled (p q : String) : Prop := Relation.EqvGen Respelling p.toList q.toList

/-- Exactly two slashes stand at the front. -/
def DoublyRooted (path : String) : Prop := (path.toList.takeWhile isSlash).length = 2

instance (path : String) : Decidable (DoublyRooted path) :=
  inferInstanceAs (Decidable (_ = _))

/-! ## Named segments -/

def namedPieces (cs : List Char) : List (List Char) := (cs.splitOnP isSlash).filter Location.named

def namedSegments (path : String) : List String := (namedPieces path.toList).map String.ofList

theorem namedPieces_append_cons (before behind : List Char) {c : Char} (hc : isSlash c = true) :
    namedPieces (before ++ c :: behind) = namedPieces before ++ namedPieces behind := by
  rw [namedPieces, List.splitOnP_append_cons _ _ hc, List.filter_append]
  rfl

theorem namedPieces_cons (behind : List Char) {c : Char} (hc : isSlash c = true) :
    namedPieces (c :: behind) = namedPieces behind := namedPieces_append_cons [] behind hc

theorem namedPieces_point (behind : List Char) {c : Char} (hc : isSlash c = true) :
    namedPieces ('.' :: c :: behind) = namedPieces behind := namedPieces_append_cons ['.'] behind hc

/-- An edit keeps the named segments. -/
theorem Respelling.namedPieces_eq {cs ds : List Char} (h : Respelling cs ds) :
    namedPieces cs = namedPieces ds := by
  cases h with
  | front cs hc => rw [namedPieces_cons cs hc]
  | ahead before behind hc hd =>
    rw [namedPieces_append_cons _ _ hc, namedPieces_append_cons _ _ hd, namedPieces_cons _ hc]
  | after before behind hc hd =>
    rw [namedPieces_append_cons _ _ hc, namedPieces_append_cons _ _ hc, namedPieces_cons _ hd]
  | turn before behind =>
    rw [namedPieces_append_cons _ _ (by decide), namedPieces_append_cons _ _ (by decide)]
  | point before behind hc hd =>
    rw [namedPieces_append_cons _ _ hc, namedPieces_append_cons _ _ hc, namedPieces_point _ hd,
      namedPieces_cons _ hd]

theorem Respelled.namedSegments_eq {p q : String} (h : Respelled p q) :
    namedSegments p = namedSegments q := by
  have hpieces {cs ds : List Char} (h : Relation.EqvGen Respelling cs ds) :
      namedPieces cs = namedPieces ds := by
    induction h with
    | rel cs ds hedit => exact hedit.namedPieces_eq
    | refl cs => rfl
    | symm cs ds _ ih => exact ih.symm
    | trans cs ds es _ _ ihfirst ihsecond => exact ihfirst.trans ihsecond
  rw [namedSegments, namedSegments, hpieces h]

/-! ## Names by named segments -/

/-- A backslash counts as a slash. -/
def slashed (cs : List Char) : List Char := cs.map fun c => if c = '\\' then '/' else c

theorem slashed_cons_of_isSlash {c : Char} (hc : isSlash c = true) (cs : List Char) :
    slashed (c :: cs) = '/' :: slashed cs := by
  rw [slashed, List.map_cons, slashed]
  congr 1
  simp only [isSlash, Bool.or_eq_true, decide_eq_true_eq] at hc
  rcases hc with rfl | rfl <;> rfl

theorem slashed_cons_of_not_isSlash {c : Char} (hc : isSlash c = false) (cs : List Char) :
    slashed (c :: cs) = c :: slashed cs ∧ c ≠ '/' := by
  simp only [isSlash, Bool.or_eq_false_iff, decide_eq_false_iff_not] at hc
  rw [slashed, List.map_cons, if_neg hc.2]
  exact ⟨rfl, hc.1⟩

theorem pieces_slashed (cs : List Char) :
    Location.pieces '/' (slashed cs) = cs.splitOnP isSlash := by
  induction cs with
  | nil => rfl
  | cons c cs ih =>
    rw [List.splitOnP_cons_eq_if_modifyHead, ← ih]
    by_cases hc : isSlash c = true
    · rw [slashed_cons_of_isSlash hc, if_pos hc, Location.pieces, if_pos rfl]
    · obtain ⟨hcons, hne⟩ := slashed_cons_of_not_isSlash (Bool.eq_false_iff.mpr hc) cs
      obtain ⟨piece, others, hcs, hpieces⟩ := Location.exists_pieces_cons '/' hne (slashed cs)
      rw [hcons, if_neg hc, hpieces, hcs]
      rfl

theorem segments_slashed (path : String) :
    (Location.ofChars (slashed path.toList)).segments = namedSegments path := by
  rw [Location.ofChars, pieces_slashed]
  rfl

theorem takeWhile_of_head_ne {cs : List Char} (h : ∀ ds, cs ≠ '/' :: ds) :
    cs.takeWhile (· = '/') = [] := by
  cases cs with
  | nil => rfl
  | cons c cs => exact List.takeWhile_cons_of_neg fun hc => h cs (by rw [of_decide_eq_true hc])

/-- Two slashes are a root of their own exactly if there is no third. -/
theorem rootOf_eq_twoSlashes_iff (cs : List Char) :
    Location.rootOf cs = .twoSlashes ↔ (cs.takeWhile (· = '/')).length = 2 := by
  unfold Location.rootOf
  split
  · simp
  · next cs hthird =>
    simp [takeWhile_of_head_ne hthird]
  · next cs _ hsecond =>
    simp [takeWhile_of_head_ne hsecond]
  · next _ _ hfirst =>
    simp [takeWhile_of_head_ne hfirst]

theorem root_slashed (path : String) :
    (Location.ofChars (slashed path.toList)).root = .twoSlashes ↔ DoublyRooted path := by
  have hrun : (slashed path.toList).takeWhile (· = '/') =
      slashed (path.toList.takeWhile isSlash) := by
    rw [slashed, List.takeWhile_map, slashed]
    congr 2
    funext c
    by_cases hc : c = '\\' <;> simp [isSlash, hc]
  rw [DoublyRooted, Location.ofChars, rootOf_eq_twoSlashes_iff, hrun, slashed, List.length_map]

theorem slash_notMem_namedSegments (path : String) : "/" ∉ namedSegments path := by
  intro h
  obtain ⟨piece, hpiece, hslash⟩ := List.mem_map.mp h
  rw [namedPieces, ← pieces_slashed] at hpiece
  refine Location.not_mem_of_mem_pieces _ piece (List.mem_filter.mp hpiece).1 ?_
  rw [← String.toList_ofList (l := piece), hslash]
  decide

/-- What a path gives besides its named segments. -/
def frontSegments (path : String) : List String := if DoublyRooted path then ["//"] else []

/-- The last segment without its endings; where there is no segment, an underscore stands for it. -/
def stemmed (segments : List String) : List String :=
  match segments.getLast? with
  | none => ["_"]
  | some last => segments.dropLast ++ [String.ofList (last.toList.takeWhile (· ≠ '.'))]

theorem pathSegments_eq (path : String) :
    pathSegments path = stemmed (frontSegments path ++ namedSegments path) := by
  have hparts : (Location.ofChars (slashed path.toList)).parts.filter (· ≠ "/") =
      frontSegments path ++ namedSegments path := by
    have hkept : (namedSegments path).filter (· ≠ "/") = namedSegments path := by
      refine List.filter_eq_self.mpr fun s hs => decide_eq_true fun hslash => ?_
      exact slash_notMem_namedSegments path (hslash ▸ hs)
    have hroot := root_slashed path
    rw [Location.parts, segments_slashed, frontSegments]
    cases hrooted : (Location.ofChars (slashed path.toList)).root with
    | relative =>
      rw [if_pos rfl, if_neg (fun h => nomatch hrooted.symm.trans (hroot.mpr h)), hkept]
      rfl
    | slash =>
      rw [if_neg (by decide), if_neg (fun h => nomatch hrooted.symm.trans (hroot.mpr h)),
        List.filter_cons_of_neg (by decide), hkept]
      rfl
    | twoSlashes =>
      rw [if_neg (by decide), if_pos (hroot.mp hrooted), List.filter_cons_of_pos (by decide), hkept]
      rfl
  rw [stemmed, ← hparts]
  rfl

theorem stemmed_ne_nil (segments : List String) : stemmed segments ≠ [] := by
  unfold stemmed
  split
  · exact List.cons_ne_nil _ _
  · exact List.append_ne_nil_of_right_ne_nil _ (List.cons_ne_nil _ _)

theorem stemmed_append (front : List String) {segments : List String} (h : segments ≠ []) :
    stemmed (front ++ segments) = front ++ stemmed segments := by
  have hlast := List.getLast?_eq_some_getLast h
  rw [stemmed, stemmed, List.getLast?_append, hlast, List.dropLast_append_of_ne_nil h]
  exact List.append_assoc ..

theorem nameOfSegment_root : nameOfSegment "//" = "__" := by decide +kernel

theorem frontSegments_of_not {path : String} (h : ¬DoublyRooted path) : frontSegments path = [] :=
  if_neg h

/-- The name of the component at a path of these segments. -/
def componentOf (segments : List String) : String :=
  let name := nameOfSegment ((stemmed segments).getLastD "")
  if isDunder name || reservedNames.contains name then name ++ "_" else name

/-- The name of the module for a path of these segments. -/
def moduleOfSegments (segments : List String) : String :=
  ".".intercalate ((stemmed segments).map nameOfSegment)

theorem componentName_eq (path : String) :
    componentName path = if DoublyRooted path ∧ namedSegments path = [] then "___"
      else componentOf (namedSegments path) := by
  have hname : componentName path = componentOf (frontSegments path ++ namedSegments path) := by
    rw [componentName, pathSegments_eq, componentOf]
  by_cases hnamed : namedSegments path = []
  · rw [hname, hnamed, List.append_nil, frontSegments]
    split
    · next hrooted =>
      rw [if_pos ⟨hrooted, rfl⟩]
      decide +kernel
    · next hrooted => rw [if_neg fun h => hrooted h.1]
  · obtain ⟨first, others, hstemmed⟩ :=
      List.exists_cons_of_ne_nil (stemmed_ne_nil (namedSegments path))
    rw [if_neg fun h => hnamed h.2, hname, componentOf, componentOf, stemmed_append _ hnamed,
      List.getLastD_eq_getLast?, List.getLastD_eq_getLast?, List.getLast?_append, hstemmed,
      List.getLast?_cons, Option.some_or]

theorem moduleName_eq (path : String) :
    moduleName path =
      if ¬DoublyRooted path then moduleOfSegments (namedSegments path)
      else if namedSegments path = [] then "__"
      else "__." ++ moduleOfSegments (namedSegments path) := by
  have hname : moduleName path = moduleOfSegments (frontSegments path ++ namedSegments path) := by
    rw [moduleName, pathSegments_eq, moduleOfSegments]
  by_cases hrooted : DoublyRooted path
  · rw [if_neg (not_not_intro hrooted), hname, frontSegments, if_pos hrooted]
    by_cases hnamed : namedSegments path = []
    · rw [if_pos hnamed, hnamed]
      decide +kernel
    · obtain ⟨first, others, hstemmed⟩ :=
        List.exists_cons_of_ne_nil (stemmed_ne_nil (namedSegments path))
      rw [if_neg hnamed, moduleOfSegments, moduleOfSegments, stemmed_append _ hnamed, hstemmed,
        List.singleton_append, List.map_cons, List.map_cons, nameOfSegment_root,
        String.intercalate_cons_cons]
      rfl
  · rw [if_pos hrooted, hname, frontSegments_of_not hrooted, List.nil_append]

/-! ## Names of paths spelled in two ways -/

/-- Paths that differ in how their segments are divided have the same named segments. They give the
same name of the module exactly if both or neither have the root of two slashes, and the same name of
the component in just these cases and where a segment is named at all. Where only one has this root,
the name of its module is that of the other behind one more segment. -/
theorem names_of_respelled {p q : String} (h : Respelled p q) :
    namedSegments p = namedSegments q ∧
    (componentName p = componentName q ↔
      (DoublyRooted p ↔ DoublyRooted q) ∨ namedSegments p ≠ []) ∧
    (moduleName p = moduleName q ↔ (DoublyRooted p ↔ DoublyRooted q)) ∧
    (¬DoublyRooted p → DoublyRooted q →
      moduleName q = if namedSegments p = [] then "__" else "__." ++ moduleName p) := by
  have hnamed := h.namedSegments_eq
  have hcomponent : componentOf [] = "_" := by decide +kernel
  have hmodule : moduleOfSegments [] = "_" := by decide +kernel
  have hlonger (m : String) : m ≠ "__." ++ m := by
    intro heq
    have hlength := congrArg String.length heq
    rw [String.length_append, show "__.".length = 3 from rfl] at hlength
    omega
  rw [componentName_eq p, componentName_eq q, moduleName_eq p, moduleName_eq q, ← hnamed]
  refine ⟨rfl, ?_⟩
  by_cases hsegments : namedSegments p = []
  · by_cases hp : DoublyRooted p <;> by_cases hq : DoublyRooted q <;>
      simp [hp, hq, hsegments, hcomponent, hmodule]
  · by_cases hp : DoublyRooted p <;> by_cases hq : DoublyRooted q <;>
      simp [hp, hq, hsegments, hlonger, (hlonger _).symm]

/-- Slashes are put at the front, and a point between two others. -/
theorem names_of_respelled_home :
    Respelled "Pages/Home.page.tpl" "\\Pages\\./Home.page.tpl" ∧
    componentName "\\Pages\\./Home.page.tpl" = "Home" ∧
    moduleName "\\Pages\\./Home.page.tpl" = "Pages.Home" := by
  have hspelled : Respelled "Pages/Home.page.tpl" "\\Pages\\./Home.page.tpl" :=
    .trans _ _ _ (.rel _ _ (.front _ (c := '\\') (by decide))) <|
    .trans _ _ _ (.rel _ _ (.ahead "\\Pages".toList "Home.page.tpl".toList (c := '/') (d := '\\')
      (by decide) (by decide))) <|
    .rel _ _ (.point "\\Pages".toList "Home.page.tpl".toList (c := '\\') (d := '/')
      (by decide) (by decide))
  obtain ⟨-, hcomponent, hmodule, -⟩ := names_of_respelled hspelled
  refine ⟨hspelled, ?_, ?_⟩
  · rw [← hcomponent.mpr (.inl (by decide))]
    decide +kernel
  · rw [← hmodule.mpr (by decide)]
    decide +kernel

/-- With two slashes at the front the root becomes a part of the name. -/
theorem names_of_respelled_not_kept : ¬ ∀ p q : String, Respelled p q →
    componentName p = componentName q ∧ moduleName p = moduleName q := by
  intro hclaim
  have hspelled : Respelled "Card.tpl" "//Card.tpl" :=
    .trans _ _ _ (.rel _ _ (.front _ (c := '/') (by decide)))
      (.rel _ _ (.front _ (c := '/') (by decide)))
  have hplain : moduleName "Card.tpl" = "Card" := by decide +kernel
  have hrooted : moduleName "//Card.tpl" = "__.Card" := by decide +kernel
  obtain ⟨-, hmodule⟩ := hclaim _ _ hspelled
  rw [hplain, hrooted] at hmodule
  exact absurd hmodule (by decide)

end LivePreview.Component
