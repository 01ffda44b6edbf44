import LivePreview.Proofs.Containment
import LivePreview.Proofs.Failures

/-!
# Which exceptions of a tree of files are handled

Reading a source fails in the operating system, at its bytes or in its code, and for each of these
there is a handler around it. Listing a directory fails in the operating system only, as long as its
path has no null character. Looking for a module runs packages, which may raise what they like: there
the host is relied on for raising nothing but ordinary exceptions and the end of the host. So a closure
over a tree ends without an exception, and what it answers has a failure for each problem, unless the
reader gives up on a source for reasons of its own: for that there is no handler.
-/

namespace LivePreview.Module

/-! ## Kinds of failures -/

/-- What the operating system says of a path. -/
def ofSystem : HostFault → Bool
  | .noSuchFile _ | .notADirectory _ | .isADirectory _ => true
  | _ => false

theorem takes_ofFault_of_ofSystem {fault : HostFault} (h : ofSystem fault = true) :
    Caught.system.takes (.ofFault fault) = true := by
  cases fault <;> first | rfl | cases h

theorem message_ofFault (fault : HostFault) : (HostError.ofFault fault).message = fault.text := by
  cases fault <;> rfl

/-- What stands around the reading of a source. -/
abbrev readingHandlers : List Caught := [.system, .decoding, .code, .value]

/-- Whatever is wrong with a source is a matter of the operating system, the code, or a value. -/
theorem handled_ofFault (fault : HostFault) :
    readingHandlers.any (·.takes (.ofFault fault)) = true := by
  cases fault <;> rfl

variable {t : FileTree} {settings : FileSettings}

namespace FileTree

theorem ofSystem_of_passable {l : Location} {path : List String} {fault : HostFault}
    (h : t.passable l path = .error fault) : ofSystem fault = true := by
  unfold passable at h
  split at h
  · cases h
  · split at h
    · cases h
      rfl
    · cases h
      rfl

theorem ofSystem_of_follow {l : Location} {fault : HostFault} (ss : List String) :
    ∀ path, t.follow l path ss = .error fault → ofSystem fault = true := by
  induction ss with
  | nil =>
    intro path h
    cases h
  | cons s ss ih =>
    intro path h
    rcases bind_eq_error_iff.mp h with hpassable | ⟨_, -, hrest⟩
    · exact ofSystem_of_passable hpassable
    · exact ih _ hrest

theorem ofSystem_of_path? {l : Location} {fault : HostFault} (h : t.path? l = .error fault) :
    ofSystem fault = true := by
  unfold path? at h
  split at h
  · exact ofSystem_of_follow _ _ h
  · cases h
    rfl

end FileTree

/-! ## Reading, listing, looking -/

theorem FileTree.mem_files_of_read {l : Location} {bytes : List Nat} (h : t.read l = .ok bytes) :
    ∃ file ∈ t.files, file.2 = bytes := by
  obtain ⟨path, -, h⟩ := bind_eq_ok_iff.mp h
  split at h
  · next hcontent =>
    cases h
    obtain ⟨file, hfile, hbytes⟩ := Option.map_eq_some_iff.mp hcontent
    exact ⟨file, List.mem_of_find?_eq_some hfile, hbytes⟩
  · split at h <;> cases h

/-- The reader gives up on no source of the tree. -/
def FileTree.WithinLimits (t : FileTree) (settings : FileSettings) (limits : Limits) : Prop :=
  ∀ file ∈ t.files, ∀ text, settings.encoding.decode file.2 = .ok text → limits text = none

/-- Within its limits the reader reads as one that has none. -/
theorem fileImports_of_withinLimits {limits : Limits} (hreads : t.WithinLimits settings limits)
    (l : Location) (package : Option String) :
    fileImports t settings limits l package = fileImports t settings .none l package := by
  unfold fileImports
  cases hread : t.read l with
  | error fault => rfl
  | ok bytes =>
    obtain ⟨file, hfile, rfl⟩ := FileTree.mem_files_of_read hread
    dsimp only
    cases hdecode : settings.encoding.decode file.2 with
    | error fault => rfl
    | ok text =>
      dsimp only
      rw [hreads file hfile text hdecode]
      rfl

theorem handled_fileImports {l : Location} {package : Option String} {e : HostError}
    (h : fileImports t settings .none l package = .error e) :
    readingHandlers.any (·.takes e) = true := by
  unfold fileImports at h
  split at h
  · cases h
    exact handled_ofFault _
  · split at h
    · cases h
      rfl
    · next text _ =>
      change (scanImports text package).mapError HostError.ofFault = .error e at h
      cases hscan : scanImports text package with
      | ok references =>
        rw [hscan] at h
        cases h
      | error fault =>
        rw [hscan] at h
        cases h
        exact handled_ofFault fault

theorem ofSystem_of_listFiles {l : Location} {fault : HostFault}
    (h : listFiles t settings l = .error fault) : ofSystem fault = true := by
  unfold listFiles at h
  rcases bind_eq_error_iff.mp h with hpath | ⟨path, -, h⟩
  · exact FileTree.ofSystem_of_path? hpath
  · rcases bind_eq_error_iff.mp h with hpassable | ⟨_, -, h⟩
    · exact FileTree.ofSystem_of_passable hpassable
    · cases h

variable {limits : Limits}

theorem answer_describeGuarded (hreads : t.WithinLimits settings limits) (name : String)
    (l : Option Location) (package : Option String) :
    loadAnswer (describeGuarded t settings limits name l package) =
      .ok (describe t settings name l package) := by
  cases l with
  | none => rfl
  | some l =>
    simp only [describeGuarded, describe, fileImports_of_withinLimits hreads]
    split
    · cases himports : fileImports t settings .none l package with
      | ok references => rfl
      | error e =>
        simp only [guarded, if_pos (handled_fileImports himports)]
        rfl
    · rfl

theorem answer_inspectGuarded (hreads : t.WithinLimits settings limits) (l : Location) :
    loadAnswer (inspectGuarded t settings limits l) = .ok (inspectFile t settings l) := by
  unfold inspectGuarded inspectFile
  extract_lets name
  split
  · exact answer_describeGuarded hreads _ _ _
  · rfl

theorem answer_listUnguarded {l : Location} (hl : l.NullFree) :
    listAnswer (listUnguarded t settings l) =
      .ok ((listFiles t settings l).mapError HostFault.text) := by
  have hnull : l.text.toList.contains '\x00' ≠ true :=
    fun h => hl.text (List.contains_iff_mem.mp h)
  rw [listUnguarded, if_neg hnull]
  cases hfiles : listFiles t settings l with
  | ok files => rfl
  | error fault =>
    have hsystem := ofSystem_of_listFiles hfiles
    change (if Caught.system.takes (.ofFault fault) then _ else _) = _
    rw [if_pos (takes_ofFault_of_ofSystem hsystem), message_ofFault]
    rfl

/-- Looking for a module raises only what the handlers around it take. -/
def FileTree.LooksSafely (t : FileTree) : Prop :=
  ∀ name e, t.locate name = .error e →
    Caught.ordinary.takes e = true ∨ Caught.exit.takes e = true

namespace FileTree

/-- What looking for a module can end with: there is no such module, or a file raises something. -/
def MayRaise (t : FileTree) (e : HostError) : Prop :=
  e.kind = "ImportError" ∨ e.kind = "ModuleNotFoundError" ∨
    ∃ file ∈ t.files, t.run file.1 = .error e

theorem mayRaise_of_run {path : List String} {e : HostError} (h : t.run path = .error e) :
    t.MayRaise e := by
  have hrun := h
  unfold run at h
  split at h
  · cases h
  · next bytes hcontent =>
    rw [content?, Option.map_eq_some_iff] at hcontent
    obtain ⟨file, hfile, -⟩ := hcontent
    have hpath := List.find?_some hfile
    rw [decide_eq_true_iff] at hpath
    refine .inr (.inr ⟨file, List.mem_of_find?_eq_some hfile, ?_⟩)
    rw [hpath]
    exact hrun

theorem mayRaise_of_runFound {found : Found} {e : HostError} (h : t.runFound found = .error e) :
    t.MayRaise e := by
  unfold runFound at h
  split at h
  · exact mayRaise_of_run h
  · cases h

theorem mayRaise_of_descend {e : HostError} (parts : List String) :
    ∀ name found, t.descend name found parts = .error e → t.MayRaise e := by
  induction parts with
  | nil =>
    intro name found h
    cases h
  | cons part parts ih =>
    intro name found h
    rw [descend] at h
    split at h
    · cases h
      exact .inr (.inl rfl)
    · split at h
      · cases h
        exact .inr (.inl rfl)
      · rcases bind_eq_error_iff.mp h with hrun | ⟨_, -, hrest⟩
        · exact mayRaise_of_runFound hrun
        · exact ih _ _ hrest

theorem mayRaise_of_importModule {parts : List String} {e : HostError}
    (h : t.importModule parts = .error e) : t.MayRaise e := by
  cases parts with
  | nil =>
    cases h
    exact .inr (.inl rfl)
  | cons part parts =>
    rw [importModule] at h
    split at h
    · cases h
      exact .inr (.inl rfl)
    · rcases bind_eq_error_iff.mp h with hrun | ⟨_, -, hrest⟩
      · exact mayRaise_of_runFound hrun
      · exact mayRaise_of_descend parts _ _ hrest

theorem mayRaise_of_locate {name : String} {e : HostError} (h : t.locate name = .error e) :
    t.MayRaise e := by
  unfold locate at h
  split at h
  · cases h
    exact .inl rfl
  · extract_lets parts at h
    split at h
    · cases h
    · rcases bind_eq_error_iff.mp h with hpackage | ⟨package, -, h⟩
      · exact mayRaise_of_importModule hpackage
      · split at h
        · cases h
          exact .inr (.inl rfl)
        · cases h

/-- Each file, when it is run, raises only what the handlers take. -/
def runsSafely (t : FileTree) : Bool :=
  t.files.all fun file =>
    match t.run file.1 with
    | .ok _ => true
    | .error e => Caught.ordinary.takes e || Caught.exit.takes e

theorem looksSafely_of_runsSafely (h : t.runsSafely = true) : t.LooksSafely := by
  intro name e hlocate
  rcases mayRaise_of_locate hlocate with hkind | hkind | ⟨file, hfile, hrun⟩
  · left
    rw [Caught.takes, hkind]
    decide
  · left
    rw [Caught.takes, hkind]
    decide
  · have hsafe := List.all_eq_true.mp h file hfile
    rw [hrun, Bool.or_eq_true] at hsafe
    exact hsafe

end FileTree

theorem answer_loadGuarded (hlooks : t.LooksSafely) (hreads : t.WithinLimits settings limits)
    (name : String) :
    loadAnswer (loadGuarded t settings limits name) = .ok (loadFile t settings name) := by
  unfold loadGuarded loadFile
  cases hfound : t.locate name with
  | error e =>
    have htakes : [Caught.ordinary, Caught.exit].any (·.takes e) = true := by
      rw [List.any_cons, List.any_cons, List.any_nil, Bool.or_false, Bool.or_eq_true]
      exact hlooks name e hfound
    simp only [guarded, if_pos htakes]
    rfl
  | ok found =>
    cases found with
    | none => rfl
    | some found => exact answer_describeGuarded hreads _ _ _

theorem answers_ofFiles (hlooks : t.LooksSafely) (hreads : t.WithinLimits settings limits) :
    (RaisingResolver.ofFiles t settings limits).Answers (.ofFiles t settings) where
  load := answer_loadGuarded hlooks hreads
  inspect := answer_inspectGuarded hreads
  list _ hl := answer_listUnguarded hl
  size := rfl

/-! ## Trees without null characters -/

/-- There is no null character in a path of the tree: no file system has one. -/
structure FileTree.NullFree (t : FileTree) : Prop where
  root : t.root.NullFree
  paths : ∀ path ∈ t.paths, ∀ s ∈ path, '\x00' ∉ s.toList

theorem location_of_describe {name : String} {l : Option Location} {package : Option String}
    {m : Record} (h : describe t settings name l package = .ok m) : m.location = l := by
  unfold describe at h
  split at h
  · cases h
    rfl
  · split at h
    · split at h
      · cases h
        rfl
      · cases h
    · cases h
      rfl

namespace FileTree

theorem mem_paths_of_find? {directory path : List String} {name : String} {found : Found}
    (h : t.find? directory name = some found) (hpath : found.path? = some path) :
    path ∈ t.paths := by
  unfold find? at h
  extract_lets here inner packages files isHere at h
  split at h
  · next package hpackage =>
    cases h
    cases hpath
    split at hpackage
    · exact mem_paths_of_isFile (List.find?_some hpackage)
    · cases hpackage
  · next file rest _ hfiles =>
    cases h
    cases hpath
    have hfile : file ∈ files := hfiles ▸ List.mem_cons_self
    have hpresent := (List.mem_filter.mp hfile).2
    rw [Bool.and_eq_true] at hpresent
    exact mem_paths_of_isFile hpresent.2
  · split at h
    · cases h
      cases hpath
    · cases h

theorem mem_paths_of_locate {name : String} {found : Found} {path : List String}
    (h : t.locate name = .ok (some found)) (hpath : found.path? = some path) : path ∈ t.paths := by
  unfold locate at h
  split at h
  · cases h
  · extract_lets parts at h
    split at h
    · rw [findTop?] at h
      split at h
      · cases h
        cases hpath
      · exact mem_paths_of_find? (Except.ok.inj h) hpath
    · obtain ⟨package, -, h⟩ := bind_eq_ok_iff.mp h
      split at h
      · cases h
      · exact mem_paths_of_find? (Except.ok.inj h) hpath

theorem NullFree.location (h : t.NullFree) {path : List String} (hpath : path ∈ t.paths) :
    (t.location path).NullFree := by
  intro s hs
  rcases List.mem_append.mp hs with hroot | hpart
  · exact h.root s hroot
  · exact h.paths path hpath s hpart

theorem NullFree.children (h : t.NullFree) {directory : List String} {name : String}
    (hname : name ∈ t.children directory) : '\x00' ∉ name.toList := by
  obtain ⟨path, hpath, hbelow⟩ := exists_path_of_mem_children hname
  exact h.paths path hpath name (hbelow.subset (List.mem_append_right _ List.mem_cons_self))

theorem NullFree.listFiles (h : t.NullFree) {l : Location} (hl : l.NullFree)
    {files : List Location} (hfiles : listFiles t settings l = .ok files) :
    ∀ file ∈ files, file.NullFree := by
  unfold Module.listFiles at hfiles
  obtain ⟨path, -, hfiles⟩ := bind_eq_ok_iff.mp hfiles
  obtain ⟨_, -, hfiles⟩ := bind_eq_ok_iff.mp hfiles
  cases hfiles
  intro file hfile
  rw [Location.mem_sort, List.mem_filterMap] at hfile
  obtain ⟨name, hname, hfile⟩ := hfile
  have hname := h.children hname
  -- What is listed is the name below the directory, or the package file below that.
  have hbelow : ∀ segments : List String, (∀ s ∈ segments, '\x00' ∉ s.toList) →
      Location.NullFree { l with segments := l.segments ++ segments } := by
    intro segments hsegments s hs
    rcases List.mem_append.mp hs with hold | hnew
    · exact hl s hold
    · exact hsegments s hnew
  extract_lets child inside at hfile
  split at hfile
  · split at hfile
    · cases hfile
      exact hbelow [name] (by simpa using hname)
    · cases hfile
  · split at hfile
    · cases hfile
      exact hbelow [name, packageFile] (by simpa [packageFile] using hname)
    · cases hfile

end FileTree

theorem nullFree_ofFiles (h : t.NullFree) (settings : FileSettings) :
    (Resolver.ofFiles t settings).NullFree := by
  constructor
  · intro name m hload l hl
    change loadFile t settings name = .ok m at hload
    unfold loadFile at hload
    split at hload
    · cases hload
    · cases hload
    · next found hfound =>
      rw [location_of_describe hload, Option.map_eq_some_iff] at hl
      obtain ⟨path, hpath, rfl⟩ := hl
      exact h.location (FileTree.mem_paths_of_locate hfound hpath)
  · intro directory files hdirectory hfiles file hfile m hinspect l hl
    change inspectFile t settings file = .ok m at hinspect
    unfold inspectFile at hinspect
    extract_lets name at hinspect
    split at hinspect
    · rw [location_of_describe hinspect] at hl
      cases hl
      exact h.listFiles hdirectory hfiles _ hfile
    · cases hinspect

/-! ## The closure of a tree -/

/-- A module could not be loaded, or the anchor of a rule is missing. -/
def IsModuleFailure (f : Failure) : Prop :=
  f.code? = some .moduleLoadFailed ∨ f.code? = some .anchorModuleMissing

theorem code_of_failedModule {f : Failure} {name : String} (h : f.failedModule? = some name) :
    f.code? = some .moduleLoadFailed := by
  cases f <;> first | rfl | cases h

theorem code_of_loadFile {name : String} {f : Failure} (h : loadFile t settings name = .error f) :
    f.code? = some .moduleLoadFailed :=
  code_of_failedModule (failsNamed_ofFiles t settings name f h)

theorem code_of_inspectFile {l : Location} {f : Failure}
    (h : inspectFile t settings l = .error f) : f.code? = some .moduleLoadFailed := by
  unfold inspectFile at h
  extract_lets name at h
  split at h
  · exact code_of_failedModule (failedModule_of_describe h)
  · cases h
    rfl

theorem isModuleFailure_of_reported {known : Recorded} {rule : Rule} {f : Failure}
    (h : f ∈ reported (.ofFiles t settings) known rule) : IsModuleFailure f := by
  unfold reported at h
  split at h
  · rw [List.mem_singleton.mp h]
    exact .inr rfl
  · rw [List.mem_singleton.mp h]
    exact .inr rfl
  · extract_lets directory at h
    split at h
    · rw [List.mem_singleton.mp h]
      exact .inl rfl
    · obtain ⟨l, -, hl⟩ := List.mem_filterMap.mp h
      exact .inl (code_of_inspectFile (Resolver.inspectFailure?_eq_some_iff.mp hl))

theorem isModuleFailure_of_reports {f : Failure} (rules : List Rule) :
    ∀ s, f ∈ reports (.ofFiles t settings) rules s → IsModuleFailure f := by
  induction rules with
  | nil => exact fun _ h => absurd h List.not_mem_nil
  | cons rule rules ih =>
    intro s h
    rcases List.mem_append.mp h with hrule | hrest
    · exact isModuleFailure_of_reported hrule
    · exact ih _ hrest

theorem isModuleFailure_closure {rules : List Rule} {seeds : List Record} :
    ∀ f ∈ (closure (.ofFiles t settings) rules seeds).registry.failures, IsModuleFailure f := by
  intro f hf
  rw [(failures_closure _ rules seeds).mem_iff] at hf
  rcases List.mem_append.mp hf with hload | hrule
  · obtain ⟨name, -, hname⟩ := List.mem_filterMap.mp hload
    exact .inl (code_of_loadFile (Resolver.loadFailure?_eq_some_iff.mp hname))
  · exact isModuleFailure_of_reports rules _ hrule

/-- When all is done, a reference of a recorded module is recorded, or it was loaded in vain. -/
theorem contains_or_failed {resolver : Resolver} (hnamed : Moment.LoadsNamed resolver)
    {rules : List Rule} {seeds : List Record} {last : Moment}
    (hlast : Moment.Reached resolver rules seeds last) (hdone : last.Done) {m : Record}
    (hm : m ∈ last.search.registry.modules) {n : String} (hn : n ∈ m.references) :
    last.search.registry.contains n = true ∨
      n ∈ last.search.loads ∧ ∃ f, resolver.load n = .error f := by
  have horderly := Moment.orderly_of_reached hnamed hlast
  rcases horderly.covered m hm n hn with hrest | hheld | hfailed
  · rw [hdone.2.1] at hrest
    exact absurd hrest List.not_mem_nil
  · exact .inl (hheld.contains hdone)
  · exact .inr (horderly.failed n hfailed)

/-- Where the reader gives up on no source of a tree of files, a closure over the tree raises nothing.
It goes on to the end: what it answers is the last of its moments. Whatever went wrong on the way has
become a failure of a module or of an anchor, and a reference of a recorded module is recorded too,
unless there is a failure of loading it. -/
theorem closure_raises_nothing {t : FileTree} (htree : t.NullFree) (hlooks : t.LooksSafely)
    {settings : FileSettings} {limits : Limits} (hreads : t.WithinLimits settings limits)
    {rules : List Rule} (hrules : ∀ rule ∈ rules, rule.NullFree)
    {seeds : List Record} (hseeds : ∀ m ∈ seeds, m.NullFree) :
    let resolver := Resolver.ofFiles t settings
    ∃ found, (RaisingResolver.ofFiles t settings limits).closure rules seeds = .ok found ∧
      found = closure resolver rules seeds ∧
      (∃ last, Moment.Reached resolver rules seeds last ∧ last.Done ∧
        found.registry = last.search.registry ∧ found.loads = last.search.loads) ∧
      found.registry.failures.Perm (found.loads.filterMap resolver.loadFailure? ++
        reports resolver rules (traverse resolver .start seeds)) ∧
      (∀ f ∈ found.registry.failures, IsModuleFailure f) ∧
      ∀ m ∈ found.registry.modules, ∀ n ∈ m.references, found.registry.contains n = true ∨
        ∃ f ∈ found.registry.failures, resolver.load n = .error f := by
  intro resolver
  have hnamed := loadsNamed_ofFiles t settings
  obtain ⟨last, hlast, hdone, hregistry, hloads⟩ :=
    closure_reached hnamed (bounded_ofFiles t settings) rules seeds
  have hfailures := failures_closure resolver rules seeds
  refine ⟨closure resolver rules seeds,
    (answers_ofFiles hlooks hreads).closure (nullFree_ofFiles htree settings) hrules hseeds, rfl,
    ⟨last, hlast, hdone, hregistry, hloads⟩, hfailures, isModuleFailure_closure, ?_⟩
  intro m hm n hn
  rw [hregistry] at hm ⊢
  refine (contains_or_failed hnamed hlast hdone hm hn).imp id ?_
  rintro ⟨hloaded, f, hf⟩
  rw [← hloads] at hloaded
  refine ⟨f, ?_, hf⟩
  rw [← hregistry, hfailures.mem_iff]
  exact List.mem_append_left _
    (List.mem_filterMap.mpr ⟨n, hloaded, Resolver.loadFailure?_eq_some_iff.mpr hf⟩)

/-- A source that is no text, and a package that ends the host when it is run. -/
def exitingTree : FileTree where
  root := .ofText "/vfs"
  files := [(["bad.py"], [255]),
    (["quits", "__init__.py"], "raise SystemExit(3)".toList.map Char.toNat),
    (["quits", "inner.py"], [])]
  directories := []

theorem exits_exitingTree : ∃ e, exitingTree.locate "quits.inner" = .error e ∧
    Caught.exit.takes e = true ∧ Caught.ordinary.takes e = false := by
  have hexits : (match exitingTree.locate "quits.inner" with
      | .ok _ => false
      | .error e => Caught.exit.takes e && !Caught.ordinary.takes e) = true := by
    decide +kernel
  split at hexits
  · cases hexits
  · next e he =>
    rw [Bool.and_eq_true, Bool.not_eq_true'] at hexits
    exact ⟨e, he, hexits⟩

theorem nullFree_exitingTree : exitingTree.NullFree := by
  constructor
  · exact Location.nullFree_ofText (by decide)
  · decide

theorem withinLimits_exitingTree : exitingTree.WithinLimits {} (Limits.ofStack 100) := by
  have hall : (exitingTree.files.all fun file =>
      match Text.Encoding.utf8.decode file.2 with
      | .ok text => (Limits.ofStack 100 text).isNone
      | .error _ => true) = true := by
    decide +kernel
  intro file hfile text hdecode
  have hfits := List.all_eq_true.mp hall file hfile
  rw [hdecode] at hfits
  exact Option.isNone_iff_eq_none.mp hfits

/-- A closure over such a tree raises nothing, even where the package is asked for. -/
theorem closure_of_exitingTree :
    exitingTree.NullFree ∧ exitingTree.LooksSafely ∧
    exitingTree.WithinLimits {} (Limits.ofStack 100) ∧
    (∃ e, exitingTree.locate "quits.inner" = .error e ∧
      Caught.exit.takes e = true ∧ Caught.ordinary.takes e = false) ∧
    ∃ found, (RaisingResolver.ofFiles exitingTree {} (Limits.ofStack 100)).closure
        [⟨"near", "app", .child "parts"⟩]
        [⟨"app", some (.ofText "/vfs/app.py"), ["bad", "quits.inner"], false⟩] = .ok found ∧
      ∀ f ∈ found.registry.failures, IsModuleFailure f := by
  have hlooks : exitingTree.LooksSafely :=
    FileTree.looksSafely_of_runsSafely (by decide +kernel)
  have hrule : ∀ rule ∈ [(⟨"near", "app", .child "parts"⟩ : Rule)], rule.NullFree := by
    intro rule hrule
    rw [List.mem_singleton.mp hrule]
    change '\x00' ∉ "parts".toList
    decide
  have hseed : ∀ m ∈ [(⟨"app", some (.ofText "/vfs/app.py"), ["bad", "quits.inner"], false⟩ :
      Record)], m.NullFree := by
    intro m hm l hl
    rw [List.mem_singleton.mp hm] at hl
    cases hl
    exact Location.nullFree_ofText (by decide)
  obtain ⟨found, hfound, -, -, -, hfailures, -⟩ :=
    closure_raises_nothing nullFree_exitingTree hlooks withinLimits_exitingTree hrule hseed
  exact ⟨nullFree_exitingTree, hlooks, withinLimits_exitingTree, exits_exitingTree, found, hfound,
    hfailures⟩

/-! ## Sources on which the reader gives up -/

/-- A name leads to a source file, and the reader gives up on its text. -/
def FileTree.GivesUp (t : FileTree) (settings : FileSettings) (limits : Limits) (name : String)
    (e : HostError) : Prop :=
  ∃ found path bytes text, t.locate name = .ok (some found) ∧ found.path? = some path ∧
    (t.location path).hasEnding sourceEnding = true ∧ t.read (t.location path) = .ok bytes ∧
    settings.encoding.decode bytes = .ok text ∧ limits text = some e

/-- An exception that no handler takes comes out of loading such a module. -/
theorem load_of_givesUp {limits : Limits} {name : String} {e : HostError}
    (h : t.GivesUp settings limits name e) (he : readingHandlers.any (·.takes e) = false) :
    loadGuarded t settings limits name = .error (.host e) := by
  obtain ⟨found, path, bytes, text, hfound, hpath, hending, hread, hdecode, hgives⟩ := h
  have himports (package : Option String) :
      fileImports t settings limits (t.location path) package = .error e := by
    unfold fileImports
    simp only [hread, hdecode, hgives]
  have hunhandled : ¬ readingHandlers.any (·.takes e) = true := by rw [he]; exact Bool.false_ne_true
  unfold loadGuarded
  rw [hfound]
  simp only [guarded, bind, Except.bind, hpath, Option.map_some, describeGuarded, if_pos hending,
    himports, if_neg hunhandled]
  rfl

/-- What comes out of loading the first of all references comes out of the closure. -/
theorem closure_of_load {resolver : RaisingResolver} {name : String} {raised : Raised}
    (hload : loadAnswer (resolver.load name) = .error raised) (rules : List Rule) {m : Record}
    {seeds : List Record} {others : List String} (hreferences : m.references = name :: others)
    (hnew : name ∉ (m :: seeds).map (·.name)) :
    resolver.closure rules (m :: seeds) = .error raised := by
  rw [List.map_cons, List.mem_cons, not_or] at hnew
  obtain ⟨hself, hothers⟩ := hnew
  let queue : Queue := ⟨seeds, ((m :: seeds).map (·.name)).filter (· ≠ m.name)⟩
  let begun : Search := { Search.start with registry := Registry.empty.add m }
  have hpending : queue.pending.contains name = false := by simp [queue, hself, hothers]
  have hrecorded : begun.registry.contains name = false := by
    rw [← Bool.not_eq_true]
    intro hcontains
    rcases (Registry.contains_add rfl).mp hcontains with hname | hempty
    · exact hself hname.symm
    · cases hempty
  have hfollow : resolver.followReference (begun, queue) name = .error raised := by
    have hstart : begun.failed.contains name = false := rfl
    simp only [RaisingResolver.followReference, hrecorded, hpending, hstart, Bool.or_self,
      Bool.false_eq_true, if_false, hload]
    rfl
  have hvisit : resolver.visit .start m { Queue.ofList (m :: seeds) with modules := seeds } =
      .error raised := by
    change m.references.foldlM resolver.followReference (begun, queue) = .error raised
    rw [hreferences, List.foldlM_cons, hfollow]
    rfl
  have htraverse : resolver.traverse .start (m :: seeds) = .error raised := by
    rw [RaisingResolver.traverse, List.length_cons, Nat.add_right_comm, RaisingResolver.drain]
    change resolver.visit .start m { Queue.ofList (m :: seeds) with modules := seeds } >>= _ = _
    rw [hvisit]
    rfl
  rw [RaisingResolver.closure, htraverse]
  rfl

/-- And it comes out of the closure, where this is the first module to be loaded. -/
theorem closure_of_givesUp {limits : Limits} {name : String} {e : HostError}
    (h : t.GivesUp settings limits name e) (he : readingHandlers.any (·.takes e) = false)
    (rules : List Rule) {m : Record} {seeds : List Record} {others : List String}
    (hreferences : m.references = name :: others)
    (hnew : name ∉ (m :: seeds).map (·.name)) :
    (RaisingResolver.ofFiles t settings limits).closure rules (m :: seeds) = .error (.host e) := by
  refine closure_of_load ?_ rules hreferences hnew
  change loadAnswer (loadGuarded t settings limits name) = _
  rw [load_of_givesUp h he]
  rfl

/-- A module with a chain of operators that is too long for the reader, and one that refers to it. -/
def deepTree : FileTree where
  root := .ofText "/vfs"
  files := [(["app.py"], "import deep\n".toList.map Char.toNat),
    (["deep.py"], "x = 1+1+1+1\n".toList.map Char.toNat)]
  directories := []

theorem givesUp_deepTree : deepTree.GivesUp {} (Limits.ofStack 2) "deep"
    ⟨"RecursionError", "maximum recursion depth exceeded during ast construction"⟩ := by
  exact ⟨.file ["deep.py"], ["deep.py"], "x = 1+1+1+1\n".toList.map Char.toNat, "x = 1+1+1+1\n",
    rfl, rfl, by decide +kernel, rfl, rfl, by decide +kernel⟩

/-- A stack that is too small for the reader ends the closure over such a tree, where a failure would
be recorded for any other problem. -/
theorem closure_of_deepTree :
    deepTree.NullFree ∧ deepTree.LooksSafely ∧
    (RaisingResolver.ofFiles deepTree {} (Limits.ofStack 2)).closure []
        [⟨"app", some (.ofText "/vfs/app.py"), ["deep"], false⟩] =
      .error (.host ⟨"RecursionError",
        "maximum recursion depth exceeded during ast construction"⟩) := by
  have hlooks : deepTree.LooksSafely := FileTree.looksSafely_of_runsSafely (by decide +kernel)
  refine ⟨⟨Location.nullFree_ofText (by decide), by decide⟩, hlooks, ?_⟩
  exact closure_of_givesUp givesUp_deepTree (by decide) [] rfl (by decide)

end LivePreview.Module
