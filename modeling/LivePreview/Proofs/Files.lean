import LivePreview.Proofs.Pieces
import LivePreview.Proofs.Reading
import LivePreview.Proofs.Rounds

/-!
# The names that a tree of files can load

A dotted name leads to what its last part leads to in the directory that the other parts spell. That
is a directory on some path of the tree, or a file whose name without its ending is the last part. A
path therefore gives at most one name for each of its segments and one for the file at its end: a
tree keeps to the bound that it gives.
-/

namespace LivePreview

/-! ## Dotted names -/

namespace Module

theorem map_toList_dottedParts (name : String) :
    (dottedParts name).map String.toList = Location.pieces '.' name.toList := by
  rw [dottedParts, List.map_map]
  exact (List.map_congr_left fun cs _ => String.toList_ofList).trans (List.map_id _)

theorem intercalate_dottedParts (name : String) : ".".intercalate (dottedParts name) = name := by
  apply String.toList_inj.mp
  rw [String.toList_intercalate, map_toList_dottedParts]
  exact Location.intercalate_pieces '.' name.toList

theorem dottedParts_ne_nil (name : String) : dottedParts name ≠ [] := by
  rw [dottedParts, Ne, List.map_eq_nil_iff]
  exact Location.pieces_ne_nil '.' name.toList

theorem point_not_mem_dottedParts {name part : String} (h : part ∈ dottedParts name) :
    '.' ∉ part.toList := by
  obtain ⟨cs, hcs, rfl⟩ := List.mem_map.mp h
  rw [String.toList_ofList]
  exact Location.not_mem_of_mem_pieces name.toList cs hcs

theorem beforePoint_append {name ending : String} (hname : '.' ∉ name.toList)
    (hending : ending.toList.head? = some '.') : beforePoint (name ++ ending) = name := by
  obtain ⟨rest, hrest⟩ := List.head?_eq_some_iff.mp hending
  have hletters : ∀ c ∈ name.toList, decide (c ≠ '.') = true :=
    fun c hc => decide_eq_true fun heq => hname (heq ▸ hc)
  rw [beforePoint, String.toList_append, hrest, List.takeWhile_append_of_pos hletters,
    List.takeWhile_cons_of_neg (by simp), List.append_nil, String.ofList_toList]

/-! ## Where a name leads -/

namespace FileTree

variable {t : FileTree} {directory : List String} {name : String}

theorem exists_path_of_mem_children (h : name ∈ t.children directory) :
    ∃ path ∈ t.paths, directory ++ [name] <+: path := by
  rw [children, List.mem_eraseDups, List.mem_filterMap] at h
  obtain ⟨path, hpath, hhead⟩ := h
  split at hhead
  · next hprefix =>
    obtain ⟨rest, rfl⟩ := List.isPrefixOf_iff_prefix.mp hprefix
    rw [List.drop_left] at hhead
    obtain ⟨inner, rfl⟩ := List.head?_eq_some_iff.mp hhead
    refine ⟨_, hpath, inner, ?_⟩
    rw [List.append_assoc, List.singleton_append]
  · cases hhead

theorem mem_paths_of_isFile {path : List String} (h : t.isFile path = true) : path ∈ t.paths := by
  rw [isFile, content?, Option.isSome_map, List.find?_isSome] at h
  obtain ⟨file, hfile, hpath⟩ := h
  refine List.mem_append_left _ (List.mem_map.mpr ⟨file, hfile, ?_⟩)
  exact of_decide_eq_true hpath

/-- A module is looked for in its own directory, or is a file with one of the endings. -/
theorem find?_eq_some {found : Found} (h : t.find? directory name = some found) :
    (∀ inner, found.directory? = some inner → inner = directory ++ [name]) ∧
      ((∃ path ∈ t.paths, directory ++ [name] <+: path) ∨
        ∃ ending ∈ moduleEndings, directory ++ [name ++ ending] ∈ t.paths) := by
  unfold find? at h
  extract_lets here inner packages files isHere at h
  split at h
  · next path hpath =>
    cases h
    refine ⟨fun _ hinner => (Option.some.inj hinner).symm, .inl ?_⟩
    split at hpath
    · next hhere => exact exists_path_of_mem_children (List.contains_iff_mem.mp hhere)
    · cases hpath
  · next file rest _ hfiles =>
    cases h
    refine ⟨fun _ hinner => (by cases hinner), .inr ?_⟩
    have hfile : file ∈ files := hfiles ▸ List.mem_cons_self
    obtain ⟨hending, hpresent⟩ := List.mem_filter.mp hfile
    obtain ⟨ending, hmem, rfl⟩ := List.mem_map.mp hending
    rw [Bool.and_eq_true] at hpresent
    exact ⟨ending, hmem, mem_paths_of_isFile hpresent.2⟩
  · split at h
    · next hhere =>
      cases h
      refine ⟨fun _ hinner => (Option.some.inj hinner).symm, .inl ?_⟩
      rw [Bool.and_eq_true] at hhere
      exact exists_path_of_mem_children (List.contains_iff_mem.mp hhere.1)
    · cases h


/-- The modules of a package lie where its name says. -/
theorem directory_of_descend {parts : List String} :
    ∀ {name : String} {found last : Found} {outer inner : List String},
      t.descend name found parts = .ok last →
      (∀ d, found.directory? = some d → d = outer) → last.directory? = some inner →
      inner = outer ++ parts := by
  induction parts with
  | nil =>
    intro name found last outer inner hlast houter hinner
    cases hlast
    rw [List.append_nil]
    exact houter inner hinner
  | cons part parts ih =>
    intro name found last outer inner hlast houter hinner
    rw [descend] at hlast
    split at hlast
    · cases hlast
    · next directory hdirectory =>
      split at hlast
      · cases hlast
      · next next hnext =>
        obtain ⟨_, -, hrest⟩ := bind_eq_ok_iff.mp hlast
        rw [houter directory hdirectory] at hnext
        rw [ih hrest (find?_eq_some hnext).1 hinner, List.append_assoc, List.singleton_append]

theorem directory_of_importModule {parts : List String} {found : Found} {inner : List String}
    (h : t.importModule parts = .ok found) (hinner : found.directory? = some inner) :
    inner = parts := by
  cases parts with
  | nil => cases h
  | cons part parts =>
    rw [importModule] at h
    split at h
    · cases h
    · next top htop =>
      obtain ⟨_, -, hrest⟩ := bind_eq_ok_iff.mp h
      have houter : ∀ d, top.directory? = some d → d = [part] := by
        unfold findTop? at htop
        split at htop
        · cases htop
          exact fun _ hd => by cases hd
        · exact (find?_eq_some htop).1
      exact directory_of_descend hrest houter hinner

/-- A name leads to what its last part leads to in the directory that its other parts spell. -/
theorem locate_eq_some {found : Found} (h : t.locate name = .ok (some found)) :
    name ∈ builtInNames ∨ ∃ outer last, dottedParts name = outer ++ [last] ∧
      t.find? outer last = some found := by
  have hsplit := (List.dropLast_concat_getLast (dottedParts_ne_nil name)).symm
  unfold locate at h
  split at h
  · cases h
  · extract_lets parts at h
    split at h
    · next hnone =>
      -- A name without a point is its own last part, looked for at the top.
      have hname : dottedParts name = [name] := by
        rw [hnone, List.nil_append] at hsplit
        have hjoined := intercalate_dottedParts name
        rw [hsplit, String.intercalate_singleton] at hjoined
        rw [hsplit, hjoined]
      rw [findTop?] at h
      split at h
      · next hbuiltIn => exact .inl (List.contains_iff_mem.mp hbuiltIn)
      · exact .inr ⟨[], name, hname, Except.ok.inj h⟩
    · obtain ⟨package, hpackage, h⟩ := bind_eq_ok_iff.mp h
      split at h
      · cases h
      · next directory hdirectory =>
        rw [directory_of_importModule hpackage hdirectory, List.getLast?_eq_some_getLast
          (dottedParts_ne_nil name), Option.getD_some] at h
        exact .inr ⟨_, _, hsplit, Except.ok.inj h⟩

end FileTree

theorem locate_of_loadFile {t : FileTree} {settings : FileSettings} {name : String} {m : Record}
    (h : loadFile t settings name = .ok m) : ∃ found, t.locate name = .ok (some found) := by
  unfold loadFile at h
  split at h
  · cases h
  · cases h
  · next found hfound => exact ⟨found, hfound⟩

/-! ## Names on a path -/

/-- The names that a path can be loaded under: as a directory, or as a file without its ending. -/
def namesOnPath (path : List String) : List String :=
  ".".intercalate (path.dropLast ++ [beforePoint (path.getLastD "")]) ::
    (List.range path.length).map fun n => ".".intercalate (path.take (n + 1))

theorem length_namesOnPath (path : List String) : (namesOnPath path).length = path.length + 1 := by
  rw [namesOnPath, List.length_cons, List.length_map, List.length_range]

theorem mem_namesOnPath_of_prefix {parts path : List String} (hparts : parts ≠ [])
    (h : parts <+: path) : ".".intercalate parts ∈ namesOnPath path := by
  have hpos : 0 < parts.length := List.length_pos_iff.mpr hparts
  have hlength : parts.length ≤ path.length := h.length_le
  refine List.mem_cons_of_mem _ (List.mem_map.mpr ⟨parts.length - 1, ?_, ?_⟩)
  · rw [List.mem_range]
    omega
  · rw [Nat.sub_add_cancel hpos, ← List.prefix_iff_eq_take.mp h]

theorem mem_namesOnPath_of_file {outer : List String} {name ending : String}
    (hname : '.' ∉ name.toList) (hending : ending.toList.head? = some '.') :
    ".".intercalate (outer ++ [name]) ∈ namesOnPath (outer ++ [name ++ ending]) := by
  rw [namesOnPath, List.dropLast_concat, List.getLastD_concat, beforePoint_append hname hending]
  exact List.mem_cons_self

theorem length_flatMap_namesOnPath (paths : List (List String)) :
    ∀ n, paths.foldl (fun n p => n + p.length + 1) n = n + (paths.flatMap namesOnPath).length := by
  induction paths with
  | nil => exact fun _ => rfl
  | cons path paths ih =>
    intro n
    rw [List.foldl_cons, ih, List.flatMap_cons, List.length_append, length_namesOnPath]
    omega

theorem head_of_mem_moduleEndings {ending : String} (h : ending ∈ moduleEndings) :
    ending.toList.head? = some '.' := by
  revert ending
  decide

theorem bounded_ofFiles (t : FileTree) (settings : FileSettings) :
    (Resolver.ofFiles t settings).Bounded := by
  refine ⟨builtInNames ++ t.paths.flatMap namesOnPath, ?_, ?_⟩
  · rw [List.length_append]
    simp only [Resolver.ofFiles, length_flatMap_namesOnPath, Nat.zero_add]
    exact Nat.le_refl _
  · intro name m hload
    obtain ⟨found, hfound⟩ := locate_of_loadFile hload
    rw [List.mem_append]
    rcases FileTree.locate_eq_some hfound with hbuiltIn | ⟨outer, last, hparts, hfind⟩
    · exact .inl hbuiltIn
    · right
      rw [← intercalate_dottedParts name, hparts, List.mem_flatMap]
      obtain ⟨-, hplace⟩ := FileTree.find?_eq_some hfind
      rcases hplace with ⟨path, hpath, hprefix⟩ | ⟨ending, hending, hpath⟩
      · exact ⟨path, hpath, mem_namesOnPath_of_prefix (List.concat_ne_nil _ _) hprefix⟩
      · have hmem : last ∈ dottedParts name := by
          rw [hparts]
          exact List.mem_append_right _ List.mem_cons_self
        have hlast : '.' ∉ last.toList := point_not_mem_dottedParts hmem
        exact ⟨_, hpath, mem_namesOnPath_of_file hlast (head_of_mem_moduleEndings hending)⟩

end Module

end LivePreview
