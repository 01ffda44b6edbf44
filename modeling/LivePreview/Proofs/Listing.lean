import LivePreview.Proofs.Files
import LivePreview.Proofs.Lookup
import Mathlib.Data.List.Nodup

/-!
# Directories of a tree and of a table

A tree of sources lists in a directory the files that lie there and the package files one directory
further down. A table that has the same files as its locations lists those that lie there, and no
others. So the two agree exactly in directories without packages.
-/

namespace LivePreview.Module

/-! ## Trees of sources -/

/-- Every file is a source, no segment of a path leads up again, and nothing lies below a file. -/
structure FileTree.OfSources (t : FileTree) : Prop where
  source : ∀ path, t.isFile path = true → ∃ outer name, path = outer ++ [name] ∧
    sourceEnding.toList <:+ name.toList
  plain : ∀ path, t.isFile path = true → ".." ∉ path
  apart : ∀ path below, t.isFile path = true → t.isFile (path ++ below) = true → below = []

/-- The locations of the records are those of the files. -/
def FileTree.RecordedIn (t : FileTree) (ms : List Record) : Prop :=
  ∀ l, (∃ m ∈ ms, m.location = some l) ↔ ∃ path, t.isFile path = true ∧ l = t.location path

namespace FileTree

variable {t : FileTree} {directory path : List String} {name : String}

theorem mem_children_of_prefix (hpath : path ∈ t.paths) (h : directory ++ [name] <+: path) :
    name ∈ t.children directory := by
  obtain ⟨inner, rfl⟩ := h
  rw [children, List.mem_eraseDups, List.mem_filterMap]
  refine ⟨_, hpath, ?_⟩
  have hfront : directory.isPrefixOf (directory ++ [name] ++ inner) = true := by
    rw [List.isPrefixOf_iff_prefix, List.append_assoc]
    exact List.prefix_append _ _
  rw [if_pos hfront, List.append_assoc, List.drop_left, List.singleton_append, List.head?_cons]

theorem isDirectory_of_prefix {below : List String} (hpath : path ++ below ∈ t.paths)
    (hbelow : below ≠ []) : t.isDirectory path = true := by
  have hlength : 0 < below.length := List.length_pos_iff.mpr hbelow
  have hany : (t.paths.any fun p => path.isPrefixOf p && path.length < p.length) = true := by
    rw [List.any_eq_true]
    refine ⟨_, hpath, ?_⟩
    rw [Bool.and_eq_true, List.isPrefixOf_iff_prefix, decide_eq_true_iff, List.length_append]
    exact ⟨List.prefix_append _ _, by omega⟩
  rw [isDirectory, hany, Bool.or_true]

/-- Segments that do not lead up are followed as they stand, as long as a file lies below. -/
theorem follow_eq_ok {below : List String} (l : Location) (ss : List String) :
    ∀ path, path ++ ss ++ below ∈ t.paths → ".." ∉ ss → t.follow l path ss = .ok (path ++ ss) := by
  induction ss with
  | nil =>
    intro path _ _
    rw [follow, List.append_nil]
  | cons s ss ih =>
    intro path hpath hplain
    obtain ⟨hs, hss⟩ := not_or.mp (mt List.mem_cons.mpr hplain)
    have hdirectory : t.isDirectory path = true := by
      rw [List.append_assoc] at hpath
      exact isDirectory_of_prefix hpath (by simp)
    have hpassable : t.passable l path = .ok () := by
      rw [passable, if_pos hdirectory]
    rw [follow, hpassable, if_neg (Ne.symm hs)]
    change t.follow l (path ++ [s]) ss = _
    rw [ih (path ++ [s]) (by simpa using hpath) hss, List.append_assoc, List.singleton_append]

theorem path?_location (hfile : t.isFile (directory ++ [name]) = true) (hplain : ".." ∉ directory) :
    t.path? (t.location directory) = .ok directory := by
  have hfront : t.root.segments.isPrefixOf (t.root.segments ++ directory) = true := by
    rw [List.isPrefixOf_iff_prefix]
    exact List.prefix_append _ _
  have hpath : [] ++ directory ++ [name] ∈ t.paths := mem_paths_of_isFile hfile
  rw [path?, location, if_pos ⟨rfl, hfront⟩, List.drop_left,
    follow_eq_ok _ directory [] hpath hplain, List.nil_append]

theorem parent_location (t : FileTree) (directory : List String) (name : String) :
    (t.location (directory ++ [name])).parent = t.location directory := by
  rw [location, location, Location.parent, ← List.append_assoc, List.dropLast_concat]

theorem location_injective (t : FileTree) : Function.Injective t.location := by
  intro path other h
  have hsegments := congrArg (·.segments) h
  exact List.append_cancel_left hsegments

end FileTree

/-! ## What is listed -/

section Listing

variable {t : FileTree} {directory : List String} {name : String}

/-- The module that a name in a directory stands for: a source, or a package with its file. -/
def FileTree.moduleFile? (t : FileTree) (directory : List String) (name : String) :
    Option Location :=
  if t.isFile (directory ++ [name]) then some (t.location (directory ++ [name]))
  else if t.isFile (directory ++ [name, packageFile]) then
    some (t.location (directory ++ [name, packageFile]))
  else none

theorem moduleFile?_eq_some_iff (ht : t.OfSources) {l : Location} :
    t.moduleFile? directory name = some l ↔
      t.isFile (directory ++ [name]) = true ∧ l = t.location (directory ++ [name]) ∨
      t.isFile (directory ++ [name, packageFile]) = true ∧
        l = t.location (directory ++ [name, packageFile]) := by
  rw [FileTree.moduleFile?]
  by_cases hfile : t.isFile (directory ++ [name]) = true
  · have hpackage : ¬ t.isFile (directory ++ [name, packageFile]) = true := by
      intro hpackage
      have hbelow := ht.apart (directory ++ [name]) [packageFile] hfile (by simpa using hpackage)
      exact List.cons_ne_nil _ _ hbelow
    simp [hfile, hpackage, eq_comm]
  · by_cases hpackage : t.isFile (directory ++ [name, packageFile]) = true
    · simp [hfile, hpackage, eq_comm]
    · simp [hfile, hpackage]

theorem listFiles_location (ht : t.OfSources) (hfile : t.isFile (directory ++ [name]) = true) :
    listFiles t {} (t.location directory) =
      .ok (Location.sort ((t.children directory).filterMap (t.moduleFile? directory))) := by
  have hplain : ".." ∉ directory :=
    fun hup => ht.plain _ hfile (List.mem_append_left _ hup)
  have hdirectory : t.isDirectory directory = true :=
    FileTree.isDirectory_of_prefix (FileTree.mem_paths_of_isFile hfile) (List.cons_ne_nil _ _)
  have hpassable : t.passable (t.location directory) directory = .ok () := by
    rw [FileTree.passable, if_pos hdirectory]
  rw [listFiles, FileTree.path?_location hfile hplain]
  change (t.passable (t.location directory) directory >>= fun _ => _) = _
  rw [hpassable]
  change Except.ok _ = _
  refine congrArg (fun f => Except.ok (Location.sort ((t.children directory).filterMap f)))
    (funext fun entry => ?_)
  have hinside (segments : List String) :
      ({ t.location directory with segments := (t.location directory).segments ++ segments } :
        Location) = t.location (directory ++ segments) := by
    rw [FileTree.location, FileTree.location, List.append_assoc]
  simp only [hinside, List.append_assoc, List.singleton_append]
  rw [FileTree.moduleFile?]
  split
  · next hsource =>
    obtain ⟨outer, name, hpath, hending⟩ := ht.source _ hsource
    have hname : entry = name := (List.append_inj' hpath rfl).2 |> List.singleton_inj.mp
    have hlisted : (({} : FileSettings).endings.any fun ending =>
        ending.toList.isSuffixOf entry.toList) = true := by
      rw [List.any_eq_true, hname]
      exact ⟨sourceEnding, List.mem_cons_self, List.isSuffixOf_iff_suffix.mpr hending⟩
    rw [if_pos hlisted]
  · rfl

theorem nodup_filterMap_moduleFile? (ht : t.OfSources) :
    ((t.children directory).filterMap (t.moduleFile? directory)).Nodup := by
  refine List.Nodup.filterMap (fun name other l hname hother => ?_) (nodup_eraseDups _)
  -- Whatever is listed has the name that it is listed for right behind the directory.
  have hnext : ∀ entry, t.moduleFile? directory entry = some l →
      ∃ below, l = t.location (directory ++ entry :: below) := by
    intro entry hentry
    rcases (moduleFile?_eq_some_iff ht).mp hentry with ⟨-, hl⟩ | ⟨-, hl⟩
    · exact ⟨[], hl⟩
    · exact ⟨[packageFile], hl⟩
  obtain ⟨below, rfl⟩ := hnext name hname
  obtain ⟨others, hlocation⟩ := hnext other hother
  have hsegments := List.append_cancel_left (t.location_injective hlocation)
  exact (List.cons_eq_cons.mp hsegments).1

theorem mem_filterMap_moduleFile? (ht : t.OfSources) {l : Location} :
    l ∈ (t.children directory).filterMap (t.moduleFile? directory) ↔
      (∃ name, t.isFile (directory ++ [name]) = true ∧ l = t.location (directory ++ [name])) ∨
      ∃ name, t.isFile (directory ++ [name, packageFile]) = true ∧
        l = t.location (directory ++ [name, packageFile]) := by
  rw [← exists_or, List.mem_filterMap]
  constructor
  · rintro ⟨name, -, hentry⟩
    exact ⟨name, (moduleFile?_eq_some_iff ht).mp hentry⟩
  · rintro ⟨name, hentry⟩
    refine ⟨name, ?_, (moduleFile?_eq_some_iff ht).mpr hentry⟩
    rcases hentry with ⟨hfile, -⟩ | ⟨hfile, -⟩
    · exact FileTree.mem_children_of_prefix (FileTree.mem_paths_of_isFile hfile)
        (List.prefix_refl _)
    · refine FileTree.mem_children_of_prefix (FileTree.mem_paths_of_isFile hfile)
        ⟨[packageFile], ?_⟩
      rw [List.append_assoc, List.singleton_append]

/-! ## The table beside it -/

theorem mem_inDirectory_iff (ht : t.OfSources) {ms : List Record} (hms : t.RecordedIn ms)
    {l : Location} : l ∈ Lookup.inDirectory ms (t.location directory) ↔
      ∃ name, t.isFile (directory ++ [name]) = true ∧ l = t.location (directory ++ [name]) := by
  rw [Lookup.inDirectory, Location.mem_sort, List.mem_filter, List.mem_eraseDups,
    List.mem_filterMap, hms l, decide_eq_true_iff]
  constructor
  · rintro ⟨⟨path, hfile, rfl⟩, hparent⟩
    obtain ⟨outer, name, rfl, -⟩ := ht.source path hfile
    rw [t.parent_location] at hparent
    rw [t.location_injective hparent] at hfile ⊢
    exact ⟨name, hfile, rfl⟩
  · rintro ⟨name, hfile, rfl⟩
    exact ⟨⟨_, hfile, rfl⟩, t.parent_location directory name⟩

theorem parent_package_ne (t : FileTree) (directory : List String) (name : String) :
    (t.location (directory ++ [name, packageFile])).parent ≠ t.location directory := by
  have hsplit : directory ++ [name, packageFile] = (directory ++ [name]) ++ [packageFile] := by simp
  rw [hsplit, t.parent_location]
  intro heq
  have hlength := congrArg List.length (t.location_injective heq)
  simp at hlength

theorem nodup_sort {ls : List Location} (h : ls.Nodup) : (Location.sort ls).Nodup :=
  (List.mergeSort_perm ls _).nodup_iff.mpr h

/-- Two ascending lists of the same locations of one directory are one list. -/
theorem eq_of_ascending {ls ks : List Location} (hls : ls.Pairwise fun l m => m.lt l = false)
    (hks : ks.Pairwise fun l m => m.lt l = false) (hnodup : ls.Nodup) (hnodup' : ks.Nodup)
    (hmem : ∀ l, l ∈ ls ↔ l ∈ ks) (hparent : ∀ l ∈ ls, l.parent = t.location directory) :
    ls = ks := by
  have hperm : ls.Perm ks := (List.perm_ext_iff_of_nodup hnodup hnodup').mpr hmem
  refine hperm.eq_of_pairwise (fun l k hl hk hlk hkl => ?_) hls hks
  have hsame : l.parent = k.parent := (hparent l hl).trans (hparent k ((hmem k).mpr hk)).symm
  exact Location.eq_of_not_lt hsame hkl hlk

theorem inDirectory_eq_filter (ht : t.OfSources) {ms : List Record} (hms : t.RecordedIn ms)
    (directory : List String) :
    Lookup.inDirectory ms (t.location directory) =
      (Location.sort ((t.children directory).filterMap (t.moduleFile? directory))).filter
        (·.parent = t.location directory) := by
  refine eq_of_ascending (t := t) (Location.pairwise_sort _)
    ((Location.pairwise_sort _).filter _) (nodup_sort ((nodup_eraseDups _).filter _))
    ((nodup_sort (nodup_filterMap_moduleFile? ht)).filter _) (fun l => ?_)
    fun l hl => Lookup.parent_of_mem_inDirectory hl
  rw [mem_inDirectory_iff ht hms, List.mem_filter, Location.mem_sort, mem_filterMap_moduleFile? ht,
    decide_eq_true_iff]
  constructor
  · rintro ⟨name, hfile, rfl⟩
    exact ⟨.inl ⟨name, hfile, rfl⟩, t.parent_location directory name⟩
  · rintro ⟨hsource | ⟨name, -, rfl⟩, hparent⟩
    · exact hsource
    · exact absurd hparent (parent_package_ne t directory name)

/-- In a directory of a tree of sources that holds a file, the tree lists, ascending, the files
there and the package files one directory further down; a table of the same files lists those that
lie there. The two listings are the same exactly where no package lies in the directory. -/
theorem listings_of_sources (ht : t.OfSources) {ms : List Record} (hms : t.RecordedIn ms)
    (hfile : t.isFile (directory ++ [name]) = true) :
    ∃ files, (Resolver.ofFiles t {}).list (t.location directory) = .ok files ∧
      files.Pairwise (fun l m => m.lt l = false) ∧ files.Nodup ∧
      (∀ l, l ∈ files ↔
        (∃ name, t.isFile (directory ++ [name]) = true ∧ l = t.location (directory ++ [name])) ∨
        ∃ package, t.isFile (directory ++ [package, packageFile]) = true ∧
          l = t.location (directory ++ [package, packageFile])) ∧
      (Resolver.ofTable ms).list (t.location directory) =
        .ok (files.filter (·.parent = t.location directory)) ∧
      ((Resolver.ofTable ms).list (t.location directory) =
          (Resolver.ofFiles t {}).list (t.location directory) ↔
        ∀ package, t.isFile (directory ++ [package, packageFile]) = false) := by
  let files := Location.sort ((t.children directory).filterMap (t.moduleFile? directory))
  have hmem : ∀ l, l ∈ files ↔ l ∈ (t.children directory).filterMap (t.moduleFile? directory) :=
    fun l => Location.mem_sort
  have hlisted : (Resolver.ofFiles t {}).list (t.location directory) = .ok files :=
    listFiles_location ht hfile
  have htable : (Resolver.ofTable ms).list (t.location directory) =
      .ok (files.filter (·.parent = t.location directory)) := by
    rw [list_ofTable_eq_ok_iff, ← inDirectory_eq_filter ht hms]
    have hhere := (mem_inDirectory_iff ht hms).mpr ⟨name, hfile, rfl⟩
    exact ⟨rfl, List.ne_nil_of_mem hhere⟩
  refine ⟨files, hlisted, Location.pairwise_sort _, nodup_sort (nodup_filterMap_moduleFile? ht),
    fun l => (hmem l).trans (mem_filterMap_moduleFile? ht), htable, ?_⟩
  rw [hlisted, htable, Except.ok.injEq, List.filter_eq_self]
  constructor
  · intro hall package
    rw [← Bool.not_eq_true]
    intro hpackage
    have hin : t.location (directory ++ [package, packageFile]) ∈ files :=
      (hmem _).mpr ((mem_filterMap_moduleFile? ht).mpr (.inr ⟨package, hpackage, rfl⟩))
    exact parent_package_ne t directory package (of_decide_eq_true (hall _ hin))
  · intro hnone l hl
    rcases (mem_filterMap_moduleFile? ht).mp ((hmem l).mp hl) with
      ⟨entry, -, rfl⟩ | ⟨package, hpackage, -⟩
    · exact decide_eq_true (t.parent_location directory entry)
    · rw [hnone package] at hpackage
      cases hpackage

end Listing

/-! ## A source beside a package -/

/-- A source and a package that lie in one directory. -/
def siteTree : FileTree where
  root := .ofText "/site"
  files := [(["a.py"], []), (["pkg", packageFile], [])]
  directories := []

def siteRecords : List Record :=
  [{ name := "a", location := some (.ofText "/site/a.py") },
    { name := "pkg", location := some (.ofText "/site/pkg/__init__.py") }]

theorem isFile_siteTree {path : List String} :
    siteTree.isFile path = true ↔ path = ["a.py"] ∨ path = ["pkg", packageFile] := by
  rw [FileTree.isFile, FileTree.content?, Option.isSome_map, List.find?_isSome]
  simp [siteTree, eq_comm]

theorem ofSources_siteTree : siteTree.OfSources where
  source path hpath := by
    rcases isFile_siteTree.mp hpath with rfl | rfl
    · exact ⟨[], "a.py", rfl, by decide⟩
    · exact ⟨["pkg"], packageFile, rfl, by decide⟩
  plain path hpath := by
    rcases isFile_siteTree.mp hpath with rfl | rfl
    · decide
    · decide
  apart path below hpath hbelow := by
    rw [isFile_siteTree] at hpath hbelow
    rcases hpath with rfl | rfl
    · simpa using hbelow
    · simpa [packageFile] using hbelow

theorem recordedIn_siteRecords : siteTree.RecordedIn siteRecords := by
  intro l
  have hsource : Location.ofText "/site/a.py" = siteTree.location ["a.py"] := by decide
  have hpackage :
      Location.ofText "/site/pkg/__init__.py" = siteTree.location ["pkg", packageFile] := by
    decide
  constructor
  · rintro ⟨m, hm, hl⟩
    rcases List.mem_cons.mp hm with rfl | hm
    · exact ⟨["a.py"], isFile_siteTree.mpr (.inl rfl), (Option.some.inj hl).symm.trans hsource⟩
    · rw [List.mem_singleton.mp hm] at hl
      exact ⟨["pkg", packageFile], isFile_siteTree.mpr (.inr rfl),
        (Option.some.inj hl).symm.trans hpackage⟩
  · rintro ⟨path, hpath, rfl⟩
    rcases isFile_siteTree.mp hpath with rfl | rfl
    · exact ⟨_, List.mem_cons_self, congrArg some hsource⟩
    · exact ⟨_, List.mem_cons_of_mem _ List.mem_cons_self, congrArg some hpackage⟩

theorem list_siteRecords :
    (Resolver.ofTable siteRecords).list (.ofText "/site") = .ok [.ofText "/site/a.py"] := by
  decide +kernel

theorem location_siteTree : siteTree.location [] = .ofText "/site" := by
  decide

theorem package_siteTree :
    siteTree.location ([] ++ ["pkg", packageFile]) = .ofText "/site/pkg/__init__.py" := by
  decide

theorem listings_of_sources_site :
    siteTree.OfSources ∧ siteTree.RecordedIn siteRecords ∧ siteTree.isFile ([] ++ ["a.py"]) = true ∧
    ∃ files, (Resolver.ofFiles siteTree {}).list (.ofText "/site") = .ok files ∧
      .ofText "/site/pkg/__init__.py" ∈ files ∧
      (Resolver.ofTable siteRecords).list (.ofText "/site") =
        .ok (files.filter (·.parent = .ofText "/site")) ∧
      (Resolver.ofTable siteRecords).list (.ofText "/site") ≠
        (Resolver.ofFiles siteTree {}).list (.ofText "/site") := by
  have hfile : siteTree.isFile ([] ++ ["a.py"]) = true := isFile_siteTree.mpr (.inl rfl)
  have hpackage : siteTree.isFile ([] ++ ["pkg", packageFile]) = true :=
    isFile_siteTree.mpr (.inr rfl)
  obtain ⟨files, hlisted, -, -, hmem, htable, hsame⟩ :=
    listings_of_sources ofSources_siteTree recordedIn_siteRecords hfile
  rw [location_siteTree] at hlisted htable hsame
  refine ⟨ofSources_siteTree, recordedIn_siteRecords, hfile, files, hlisted, ?_, htable, ?_⟩
  · rw [← package_siteTree]
    exact (hmem _).mpr (.inr ⟨"pkg", hpackage, rfl⟩)
  · intro heq
    rw [hsame.mp heq "pkg"] at hpackage
    cases hpackage

/-- A tree and a table of the same sources do not always list the same in a directory with a source
in it. -/
theorem listings_not_always_same :
    ¬ ∀ (t : FileTree) (ms : List Record) (directory : List String) (name : String),
      t.OfSources → t.RecordedIn ms → t.root.root ≠ .relative →
      t.isFile (directory ++ [name]) = true →
      (Resolver.ofTable ms).list (t.location directory) =
        (Resolver.ofFiles t {}).list (t.location directory) := by
  intro hall
  have hfile : siteTree.isFile ([] ++ ["a.py"]) = true := isFile_siteTree.mpr (.inl rfl)
  have hsame := hall siteTree siteRecords [] "a.py" ofSources_siteTree recordedIn_siteRecords
    (by decide) hfile
  have htree : (Resolver.ofFiles siteTree {}).list (siteTree.location []) = .ok (Location.sort _) :=
    listFiles_location ofSources_siteTree hfile
  rw [htree, location_siteTree, list_siteRecords, Except.ok.injEq] at hsame
  have hlisted : siteTree.location ([] ++ ["pkg", packageFile]) ∈ [.ofText "/site/a.py"] := by
    rw [hsame, Location.mem_sort, mem_filterMap_moduleFile? ofSources_siteTree]
    exact .inr ⟨"pkg", isFile_siteTree.mpr (.inr rfl), rfl⟩
  rw [package_siteTree] at hlisted
  exact absurd hlisted (by decide)

end LivePreview.Module
