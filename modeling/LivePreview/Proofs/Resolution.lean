import LivePreview.Proofs.Shape

/-!
# Many declarations of one name

Names of components share one module with the attributes that every module has and with the base of
all components, and none of them is one of these. So a module of shapes has just their components,
each at the place of the first shape that declares it, and with what the last one declares. Every
shape that takes a name over is reported, with the nearest path that it takes it from.
-/

namespace LivePreview.Component

/-! ## Names that modules have -/

/-- What a module object has before anything is declared, what its class gives it included. -/
def moduleAttributes : List String := [
  "__annotations__", "__class__", "__delattr__", "__dict__", "__dir__", "__doc__", "__eq__",
  "__format__", "__ge__", "__getattribute__", "__getstate__", "__gt__", "__hash__", "__init__",
  "__init_subclass__", "__le__", "__loader__", "__lt__", "__name__", "__ne__", "__new__",
  "__package__", "__reduce__", "__reduce_ex__", "__repr__", "__setattr__", "__sizeof__", "__spec__",
  "__str__", "__subclasshook__"]

/-- A name without its last character. -/
def withoutLast (name : String) : String := String.ofList name.toList.dropLast

/-- An attribute of a module has two underscores at its end and not one more. -/
theorem trimmed_moduleAttributes : ∀ n ∈ moduleAttributes,
    withoutLast n ++ "_" = n ∧ isDunder n = true ∧
      (isDunder (withoutLast n) || reservedNames.contains (withoutLast n)) = false := by
  decide +kernel

theorem componentName_notMem_moduleAttributes (path : String) :
    componentName path ∉ moduleAttributes := by
  intro h
  obtain ⟨htrimmed, hdunder, hfree⟩ := trimmed_moduleAttributes _ h
  rw [← htrimmed] at hdunder
  exact componentName_ne_of_isDunder _ hdunder hfree path htrimmed.symm

theorem componentName_notMem_firstNames (path : String) :
    componentName path ∉ Aggregate.firstNames := by
  intro h
  have hnames : ∀ n ∈ Aggregate.firstNames, n = baseName ∨ n ∈ moduleAttributes := by decide
  rcases hnames _ h with hbase | hattribute
  · exact componentName_ne_baseName path hbase
  · exact componentName_notMem_moduleAttributes path hattribute

namespace Aggregate

variable {run : Runner}

/-! ## Places -/

theorem eraseDups_concat (ns : List String) (n : String) :
    (ns ++ [n]).eraseDups = if n ∈ ns then ns.eraseDups else ns.eraseDups ++ [n] := by
  rw [List.eraseDups_append]
  by_cases h : n ∈ ns
  · simp [List.removeAll, h]
  · simp [List.removeAll, h, List.eraseDups_cons]

theorem keys_firstMembers : firstMembers.keys = firstNames := by decide

/-- A component that is entered keeps its place, or comes behind all others. -/
theorem keys_enter {b : Build} {path component : String} {surface? : Option Surface}
    {components : List String} (hkeys : b.members.keys = firstNames ++ components.eraseDups)
    (hfree : component ∉ firstNames) :
    (b.enter path component surface?).members.keys =
      firstNames ++ (components ++ [component]).eraseDups := by
  change (b.members.insert component surface?).keys = _
  rw [Table.keys_insert, hkeys, eraseDups_concat]
  simp only [List.mem_append, hfree, false_or, List.mem_eraseDups]
  split
  · rfl
  · exact List.append_assoc _ _ _

theorem keys_enterAll (entries : List (String × Shape)) :
    ∀ (b last : Build) (components : List String),
      b.members.keys = firstNames ++ components.eraseDups →
      (∀ e ∈ entries, e.2.component ∉ firstNames) → (b.enterAll run entries).2 = .ok last →
      last.members.keys =
        firstNames ++ (components ++ entries.map (·.2.component)).eraseDups := by
  induction entries with
  | nil =>
    intro b last components hkeys _ h
    cases h
    rw [List.map_nil, List.append_nil]
    exact hkeys
  | cons entry entries ih =>
    intro b last components hkeys hfree h
    obtain ⟨path, shape⟩ := entry
    obtain ⟨hfirst, hrest⟩ := List.forall_mem_cons.mp hfree
    cases hd : declared run path shape with
    | error f =>
      rw [Build.enterAll, hd] at h
      cases h
    | ok member =>
      rw [enterAll_cons hd] at h
      rw [ih _ _ _ (keys_enter hkeys hfirst) hrest h, List.append_assoc, List.map_cons,
        List.singleton_append]

/-- The components of a module are those of its names that stand for a surface. -/
theorem names_components (a : Aggregate) :
    a.components.map (·.1) = a.members.keys.filter fun n => (a.surface? n).isSome := by
  have hmembers : ∀ e ∈ a.members.entries, a.surface? e.1 = e.2 := by
    rintro ⟨n, surface?⟩ he
    rw [Aggregate.surface?, Table.mem_entries_iff.mp he]
    rfl
  rw [components, Table.keys]
  generalize a.members.entries = entries at hmembers
  induction entries with
  | nil => rfl
  | cons e entries ih =>
    obtain ⟨n, surface?⟩ := e
    obtain ⟨he, hrest⟩ := List.forall_mem_cons.mp hmembers
    simp only [List.filterMap_cons, List.map_cons, List.filter_cons] at he ⊢
    rw [he]
    cases surface? with
    | none => exact ih hrest
    | some s => exact congrArg (n :: ·) (ih hrest)

/-! ## What is reported -/

/-- The path of the nearest of these shapes with a component. -/
def nearest? (component : String) (earlier : List (String × Shape)) : Option String :=
  (earlier.reverse.find? fun e => e.2.component = component).map (·.1)

/-- One record for each shape whose component an earlier one has. -/
def replacements : (earlier shapes : List (String × Shape)) → List LogRecord
  | _, [] => []
  | earlier, e :: others =>
    ((nearest? e.2.component earlier).map (replacement e.2.component e.1)).toList ++
      replacements (earlier ++ [e]) others

theorem nearest?_concat (component : String) (earlier : List (String × Shape))
    (e : String × Shape) : nearest? component (earlier ++ [e]) =
      if e.2.component = component then some e.1 else nearest? component earlier := by
  rw [nearest?, List.reverse_append, List.reverse_singleton, List.singleton_append]
  by_cases h : e.2.component = component
  · simp [h]
  · simp [h, nearest?]

/-- Every component is owned by the nearest shape that declares it, so what is logged names it. -/
theorem log_enterAll (entries : List (String × Shape)) :
    ∀ (b last : Build) (earlier : List (String × Shape)),
      (∀ component, b.owners.get? component = nearest? component earlier) →
      (b.enterAll run entries).2 = .ok last →
      (b.enterAll run entries).1 = b.log ++ replacements earlier entries := by
  induction entries with
  | nil => exact fun b last earlier _ _ => (List.append_nil b.log).symm
  | cons entry entries ih =>
    intro b last earlier howners h
    obtain ⟨path, shape⟩ := entry
    cases hd : declared run path shape with
    | error f =>
      rw [Build.enterAll, hd] at h
      cases h
    | ok member =>
      rw [enterAll_cons hd] at h ⊢
      have hnext : ∀ component, (b.enter path shape.component member).owners.get? component =
          nearest? component (earlier ++ [(path, shape)]) := by
        intro component
        rw [nearest?_concat, ← howners]
        exact Table.get?_insert b.owners shape.component path component
      rw [ih _ _ _ hnext h, replacements, ← howners, ← List.append_assoc]
      rfl

/-! ## What names stand for -/

/-- Shapes that the reader of templates has made, under whatever keys they are kept. -/
def Extracted (shapes : Table String Shape) : Prop :=
  ∀ e ∈ shapes.entries, ∃ path content, Shape.extract path content = .ok e.2

theorem component_of_extracted {shapes : Table String Shape} (h : Extracted shapes)
    {e : String × Shape} (he : e ∈ shapes.entries) : ∃ path, e.2.component = componentName path := by
  obtain ⟨path, content, hshape⟩ := h e he
  obtain ⟨t, -, ht⟩ := extract_eq_ok hshape
  exact ⟨path, by rw [ht, component_ofTemplate]⟩

theorem declared_of_extracted {key path content : String} {shape : Shape} {member : Option Surface}
    (hshape : Shape.extract path content = .ok shape)
    (h : declared Stub.runText key shape = .ok member) :
    ∃ t, Template.declarationsOfChars content.toList = .ok t ∧
      member = some (Surface.ofTemplate t path) := by
  obtain ⟨t, ht, rfl⟩ := extract_eq_ok hshape
  exact ⟨t, ht, declared_ofTemplate h⟩

/-- A name that no shape declares stands for no component, even where a module has it. -/
theorem join_firstMembers (n : String) : (firstMembers.get? n).join = none := by
  cases hn : firstMembers.get? n with
  | none => rfl
  | some surface? =>
    have hnone : ∀ e ∈ firstMembers.entries, e.2 = none := by decide
    rw [Option.join_some]
    exact hnone _ (Table.mem_entries_iff.mpr hn)

/-- A component that some shape has is that of a last shape. -/
theorem exists_last {entries : List (String × Shape)} {n : String}
    (h : ∃ e ∈ entries, e.2.component = n) :
    ∃ first e others, entries = first ++ e :: others ∧ e.2.component = n ∧
      ∀ o ∈ others, o.2.component ≠ n := by
  induction entries with
  | nil =>
    obtain ⟨e, he, -⟩ := h
    exact absurd he List.not_mem_nil
  | cons entry entries ih =>
    by_cases hrest : ∃ e ∈ entries, e.2.component = n
    · obtain ⟨first, e, others, rfl, he, hlast⟩ := ih hrest
      exact ⟨entry :: first, e, others, rfl, he, hlast⟩
    · obtain ⟨e, he, hname⟩ := h
      rcases List.mem_cons.mp he with rfl | hmem
      · exact ⟨[], e, entries, rfl, hname, fun o ho hother => hrest ⟨o, ho, hother⟩⟩
      · exact absurd ⟨e, hmem, hname⟩ hrest

section Build

variable {name : String} {references : List String} {shapes : Table String Shape} {a : Aggregate}

/-- The last shape with a component tells what surface it has. -/
theorem surface?_of_last (ha : (build Stub.runText name references shapes).2 = .ok a)
    {first others : List (String × Shape)} {e : String × Shape}
    (hentries : shapes.entries = first ++ e :: others)
    (hlast : ∀ o ∈ others, o.2.component ≠ e.2.component) {path content : String}
    (hshape : Shape.extract path content = .ok e.2) :
    ∃ t, Template.declarationsOfChars content.toList = .ok t ∧
      a.surface? e.2.component = some (Surface.ofTemplate t path) := by
  have he : e ∈ shapes.entries := by
    rw [hentries]
    exact List.mem_append_right _ List.mem_cons_self
  obtain ⟨member, hmember⟩ := build_eq_ok_iff.mp ⟨a, ha⟩ e he
  obtain ⟨t, ht, hsurface⟩ := declared_of_extracted hshape hmember
  refine ⟨t, ht, ?_⟩
  rw [surface?_build ha, lastDeclared_of_last hentries rfl hlast, hmember, hsurface]
  rfl

/-- A name has a surface exactly when some shape declares it. -/
theorem isSome_surface?_iff (hshapes : Extracted shapes)
    (ha : (build Stub.runText name references shapes).2 = .ok a) (n : String) :
    (a.surface? n).isSome = true ↔ ∃ e ∈ shapes.entries, e.2.component = n := by
  rw [surface?_build ha, lastDeclared]
  cases hfind : shapes.entries.reverse.find? fun e => e.2.component = n with
  | none =>
    simp only [join_firstMembers, Option.isSome_none, Bool.false_eq_true, false_iff, not_exists,
      not_and]
    intro e he hn
    rw [List.find?_eq_none] at hfind
    exact hfind e (List.mem_reverse.mpr he) (decide_eq_true hn)
  | some e =>
    have he : e ∈ shapes.entries := List.mem_reverse.mp (List.mem_of_find?_eq_some hfind)
    have hn := List.find?_some hfind
    rw [decide_eq_true_iff] at hn
    obtain ⟨path, content, hshape⟩ := hshapes e he
    obtain ⟨member, hmember⟩ := build_eq_ok_iff.mp ⟨a, ha⟩ e he
    obtain ⟨t, -, hsurface⟩ := declared_of_extracted hshape hmember
    simp only [hmember, hsurface]
    exact ⟨fun _ => ⟨e, he, hn⟩, fun _ => rfl⟩

theorem components_build (hshapes : Extracted shapes)
    (ha : (build Stub.runText name references shapes).2 = .ok a) :
    a.components.map (·.1) = (shapes.entries.map (·.2.component)).eraseDups := by
  have hfree : ∀ e ∈ shapes.entries, e.2.component ∉ firstNames := by
    intro e he
    obtain ⟨path, hpath⟩ := component_of_extracted hshapes he
    rw [hpath]
    exact componentName_notMem_firstNames path
  have hkeys : a.members.keys =
      firstNames ++ (shapes.entries.map (·.2.component)).eraseDups := by
    obtain ⟨last, hlast, rfl⟩ := build_eq_ok ha
    exact keys_enterAll shapes.entries _ last [] keys_firstMembers hfree hlast
  have hfirst : firstNames.filter (fun n => (a.surface? n).isSome) = [] := by
    rw [List.filter_eq_nil_iff]
    intro n hn hsome
    obtain ⟨e, he, rfl⟩ := (isSome_surface?_iff hshapes ha n).mp hsome
    exact hfree e he hn
  have hdeclared : ∀ n ∈ (shapes.entries.map (·.2.component)).eraseDups,
      (a.surface? n).isSome = true := by
    intro n hn
    rw [List.mem_eraseDups, List.mem_map] at hn
    exact (isSome_surface?_iff hshapes ha n).mpr hn
  rw [names_components, hkeys, List.filter_append, hfirst, List.nil_append,
    List.filter_eq_self.mpr hdeclared]

theorem log_build {run : Runner} (ha : (build run name references shapes).2 = .ok a) :
    (build run name references shapes).1 = replacements [] shapes.entries := by
  obtain ⟨last, hlast, -⟩ := build_eq_ok ha
  exact log_enterAll shapes.entries _ last [] (fun _ => rfl) hlast

end Build

end Aggregate

/-! ## Whole contexts -/

theorem modulePart?_of_undotted {n : String} (h : '.' ∉ n.toList) :
    Context.modulePart? n = none := by
  rw [Context.modulePart?, Location.pieces_of_not_mem h]
  rfl

theorem resolve_of_undotted (c : Context) {n : String} (h : '.' ∉ n.toList) :
    c.resolve n = (c.aggregate.surface? n).map (Binding.ofSurface n) := by
  rw [Context.resolve, modulePart?_of_undotted h]

theorem ofSurface_ofTemplate (n path : String) (t : Template) :
    Binding.ofSurface n (Surface.ofTemplate t path) = {
      name := n
      module := moduleName path
      source := some path
      params := some (t.params.map fun p => (p.name, p.hint.map (·.source)))
      required := (t.params.filter (·.required)).map (·.name) } := by
  have hmodule : (moduleName path).isEmpty = false := by
    rw [← Bool.not_eq_true, String.isEmpty_iff]
    exact moduleName_ne_empty path
  rw [Binding.ofSurface, Surface.ofTemplate]
  simp only [hmodule, Bool.false_eq_true, if_false]

/-- A rebuild logs what the build logs, and that it is done. -/
theorem log_rebuild {c next : Context} {shapes : Table String Shape} {log : Log}
    (h : c.rebuild shapes = (log, .ok next)) :
    ∃ rebuilt : LogRecord, rebuilt.severity = .debug ∧ log =
      (Aggregate.build c.run c.aggregateName (c.external.map (·.name)) shapes).1 ++ [rebuilt] := by
  unfold Context.rebuild at h
  split at h
  · cases h
  · next buildLog a hbuild =>
    cases h
    rw [hbuild]
    exact ⟨_, rfl, rfl⟩

/-- Where every shape can be entered, there is a rebuild. -/
theorem exists_rebuild {c : Context} {shapes : Table String Shape}
    (h : ∀ e ∈ shapes.entries, Aggregate.Declares c.run e) :
    ∃ log next, c.rebuild shapes = (log, .ok next) := by
  obtain ⟨next, hnext⟩ := Context.rebuild_eq_ok_iff.mpr h
  generalize c.rebuild shapes = rebuilt at hnext ⊢
  obtain ⟨log, result⟩ := rebuilt
  exact ⟨log, next, congrArg (Prod.mk log) hnext⟩

section Rebuild

variable {c next : Context} {shapes : Table String Shape} (hrun : c.run = Stub.runText)
  (hnext : (c.rebuild shapes).2 = .ok next)

include hrun hnext

theorem build_of_rebuild : (Aggregate.build Stub.runText c.aggregateName
    (c.external.map (·.name)) shapes).2 = .ok next.aggregate := by
  obtain ⟨a, ha, rfl⟩ := Context.rebuild_eq_ok hnext
  rw [Context.aggregateOf, hrun] at ha
  exact ha

/-- The last shape of a name tells what the name stands for. -/
theorem resolve_of_last {first others : List (String × Shape)} {e : String × Shape}
    (hentries : shapes.entries = first ++ e :: others)
    (hlast : ∀ o ∈ others, o.2.component ≠ e.2.component) {path content : String}
    (hshape : Shape.extract path content = .ok e.2) :
    ∃ t, Template.declarationsOfChars content.toList = .ok t ∧ next.resolve e.2.component =
      some (Binding.ofSurface e.2.component (Surface.ofTemplate t path)) := by
  obtain ⟨t, ht, hsurface⟩ :=
    Aggregate.surface?_of_last (build_of_rebuild hrun hnext) hentries hlast hshape
  have hundotted : '.' ∉ e.2.component.toList := by
    obtain ⟨u, -, hu⟩ := extract_eq_ok hshape
    rw [hu, component_ofTemplate]
    exact fun h => absurd ((wordlike_componentName path).2 '.' h) (by decide)
  refine ⟨t, ht, ?_⟩
  rw [resolve_of_undotted next hundotted, hsurface, Option.map_some]

/-- What a name stands for, if not something external, is in the module of its last shape. -/
theorem module_of_declared (hshapes : Aggregate.Extracted shapes) {n : String} {b : Binding}
    (hresolve : next.resolve n = some b) (hdeclared : b.isExternal = false) :
    ∃ first e others, shapes.entries = first ++ e :: others ∧ e.2.component = n ∧
      (∀ o ∈ others, o.2.component ≠ n) ∧ b.module = moduleName e.2.path := by
  have ha := build_of_rebuild hrun hnext
  have hsurface : ∃ s, next.aggregate.surface? n = some s ∧ Binding.ofSurface n s = b := by
    unfold Context.resolve at hresolve
    split at hresolve
    · split at hresolve
      · cases hresolve
        cases hdeclared
      · cases hresolve
    · exact Option.map_eq_some_iff.mp hresolve
  obtain ⟨s, hs, rfl⟩ := hsurface
  have hdeclares : ∃ e ∈ shapes.entries, e.2.component = n := by
    rw [← Aggregate.isSome_surface?_iff hshapes ha, hs]
    rfl
  obtain ⟨first, e, others, hentries, rfl, hlast⟩ := Aggregate.exists_last hdeclares
  have he : e ∈ shapes.entries := by
    rw [hentries]
    exact List.mem_append_right _ List.mem_cons_self
  obtain ⟨path, content, hshape⟩ := hshapes e he
  obtain ⟨t, -, ht⟩ := Aggregate.surface?_of_last ha hentries hlast hshape
  obtain ⟨u, -, hu⟩ := extract_eq_ok hshape
  refine ⟨first, e, others, hentries, rfl, hlast, ?_⟩
  rw [hs, Option.some.injEq] at ht
  rw [ht, ofSurface_ofTemplate, hu, Shape.ofTemplate]

end Rebuild

/-- What a context knows behind a rebuild. Its components are those of the shapes, in the order in
which they were declared first, and no module has an attribute of such a name before. An undotted
name stands for something exactly when it is declared, and then for what the last shape of this name
says. Each shape that takes a name over is reported once, with the nearest path before it. -/
theorem rebuild_resolution {c next : Context} {shapes : Table String Shape} {log : Log}
    (hrun : c.run = Stub.runText) (hshapes : Aggregate.Extracted shapes)
    (hnext : c.rebuild shapes = (log, .ok next)) :
    next.aggregate.components.map (·.1) = (shapes.entries.map (·.2.component)).eraseDups ∧
    (∀ p ∈ next.aggregate.components, p.1 ≠ baseName ∧ p.1 ∉ moduleAttributes) ∧
    (∀ n, '.' ∉ n.toList →
      ((next.resolve n).isSome = true ↔ ∃ e ∈ shapes.entries, e.2.component = n)) ∧
    (∀ first e others, shapes.entries = first ++ e :: others →
      (∀ o ∈ others, o.2.component ≠ e.2.component) →
      ∀ path content, Shape.extract path content = .ok e.2 →
        ∃ t, Template.declarationsOfChars content.toList = .ok t ∧
          next.resolve e.2.component = some {
            name := e.2.component
            module := moduleName path
            source := some path
            params := some (t.params.map fun p => (p.name, p.hint.map (·.source)))
            required := (t.params.filter (·.required)).map (·.name) }) ∧
    ∃ rebuilt : LogRecord, rebuilt.severity = .debug ∧
      log = Aggregate.replacements [] shapes.entries ++ [rebuilt] := by
  have hresult := congrArg Prod.snd hnext
  have ha := build_of_rebuild hrun hresult
  have hnames := Aggregate.components_build hshapes ha
  obtain ⟨rebuilt, hseverity, hlog⟩ := log_rebuild hnext
  rw [hrun, Aggregate.log_build ha] at hlog
  refine ⟨hnames, ?_, ?_, ?_, rebuilt, hseverity, hlog⟩
  · intro p hp
    have hname : p.1 ∈ (shapes.entries.map (·.2.component)).eraseDups := by
      rw [← hnames]
      exact List.mem_map_of_mem hp
    obtain ⟨e, he, hcomponent⟩ := List.mem_map.mp (List.mem_eraseDups.mp hname)
    obtain ⟨path, hpath⟩ := Aggregate.component_of_extracted hshapes he
    rw [← hcomponent, hpath]
    exact ⟨componentName_ne_baseName path, componentName_notMem_moduleAttributes path⟩
  · intro n hn
    rw [resolve_of_undotted next hn, Option.isSome_map]
    exact Aggregate.isSome_surface?_iff hshapes ha n
  · intro first e others hentries hlast path content hshape
    obtain ⟨t, ht, hresolve⟩ := resolve_of_last hrun hresult hentries hlast hshape
    rw [ofSurface_ofTemplate] at hresolve
    exact ⟨t, ht, hresolve⟩

/-- One template at three paths, the last of which takes over the name of the first. -/
def cardPaths : List String := ["Card.tpl", "Menu.tpl", "shop/Card.tpl"]

def cardShapes (t : Template) : Table String Shape where
  entries := cardPaths.map fun path => (path, .ofTemplate t path)
  nodup := by
    rw [List.map_map]
    exact (by decide +kernel : (cardPaths.map id).Nodup)

theorem extracted_cardShapes {content : String} {t : Template}
    (ht : Template.declarationsOfChars content.toList = .ok t) :
    Aggregate.Extracted (cardShapes t) := by
  intro e he
  obtain ⟨path, -, rfl⟩ := List.mem_map.mp he
  exact ⟨path, content, by rw [Shape.extract, ht]⟩

theorem components_cardShapes (t : Template) :
    (cardShapes t).entries.map (·.2.component) = ["Card", "Menu", "Card"] := by
  have hnames : cardPaths.map componentName = ["Card", "Menu", "Card"] := by decide +kernel
  rw [← hnames, cardShapes, List.map_map]
  refine List.map_congr_left fun path _ => ?_
  rw [Function.comp_apply, component_ofTemplate]

theorem exists_rebuild_cardShapes (t : Template) :
    ∃ log next, (Context.new [] "declarations").rebuild (cardShapes t) = (log, .ok next) := by
  have hplain : ∀ path ∈ cardPaths, '\x00' ∉ path.toList ∧
      Text.isIdentifier (componentName path).toList = true ∧
      Text.isKeyword (componentName path) = false ∧
      Text.normalForm (componentName path) = componentName path := by
    decide +kernel
  refine exists_rebuild fun e he => ?_
  obtain ⟨path, hpath, rfl⟩ := List.mem_map.mp he
  obtain ⟨hnull, hidentifier, hkeyword, hnormal⟩ := hplain path hpath
  exact declares_ofTemplate hnull hidentifier hkeyword hnormal t

/-- The later card counts, at the place of the first one, and is reported. -/
theorem rebuild_resolution_twice : ∃ shapes next log,
    Aggregate.Extracted shapes ∧
    (Context.new [] "declarations").rebuild shapes = (log, .ok next) ∧
    next.aggregate.components.map (·.1) = ["Card", "Menu"] ∧
    (∃ b, next.resolve "Card" = some b ∧ b.module = "shop.Card") ∧
    ∃ rebuilt, log =
      [Aggregate.replacement "Card" "shop/Card.tpl" "Card.tpl"] ++ [rebuilt] := by
  have hread : (Template.declarationsOfChars "@param x".toList).isOk = true := by decide +kernel
  cases ht : Template.declarationsOfChars "@param x".toList with
  | error objection =>
    rw [ht] at hread
    cases hread
  | ok t =>
    have hshapes := extracted_cardShapes ht
    have hlast : Shape.extract "shop/Card.tpl" "@param x" =
        .ok (.ofTemplate t "shop/Card.tpl") := by
      rw [Shape.extract, ht]
    obtain ⟨log, next, hnext⟩ := exists_rebuild_cardShapes t
    obtain ⟨hcomponents, -, -, hresolve, rebuilt, -, hlog⟩ := rebuild_resolution rfl hshapes hnext
    obtain ⟨hcard, hmenu, hshop⟩ : componentName "Card.tpl" = "Card" ∧
        componentName "Menu.tpl" = "Menu" ∧ componentName "shop/Card.tpl" = "Card" := by
      decide +kernel
    have hmodule : moduleName "shop/Card.tpl" = "shop.Card" := by decide +kernel
    have hentries : (cardShapes t).entries =
        [("Card.tpl", .ofTemplate t "Card.tpl"), ("Menu.tpl", .ofTemplate t "Menu.tpl")] ++
          ("shop/Card.tpl", .ofTemplate t "shop/Card.tpl") :: [] := rfl
    refine ⟨cardShapes t, next, log, hshapes, hnext, ?_, ?_, rebuilt, ?_⟩
    · rw [hcomponents, components_cardShapes]
      decide
    · obtain ⟨u, -, hbinding⟩ := hresolve _ _ _ hentries
        (fun o ho => absurd ho List.not_mem_nil) _ _ hlast
      rw [component_ofTemplate, hshop] at hbinding
      exact ⟨_, hbinding, hmodule⟩
    · rw [hlog]
      simp [cardShapes, cardPaths, Aggregate.replacements, Aggregate.nearest?, hcard, hmenu, hshop]

end LivePreview.Component
