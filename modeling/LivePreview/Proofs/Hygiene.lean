import LivePreview.Proofs.Denotation
import LivePreview.Proofs.Dotted
import LivePreview.Proofs.Emission
import LivePreview.Proofs.NormalForm
import LivePreview.Proofs.Refusals
import LivePreview.Proofs.Tags

/-!
# What the name of a tag denotes

A generated module calls a component by a name, or by a chain of attributes that begins with one. The
header of the module binds this name, and so may others: the statements of the render method bind
its parameters, the content, and names with an underscore at the front, and another import may bind
it again. The names with an underscore are out of reach of all tags. The parameters of the template
and the content are not, nor are modules and components that share a name.
-/

namespace LivePreview

namespace Code

open LivePreview.Text (isKeyword normalForm)

/-! ## Names that statements bind -/

/-- The segments of a dotted name, as they are read. -/
def segmentsOf (name : String) : List String := (Module.dottedParts name).map normalForm

/-- The name that a dotted name begins with, as it is read. -/
def rootOf (name : String) : String := (segmentsOf name).headD ""

mutual

/-- The names that a statement binds, in the block where it stands or in a block inside of it. -/
def Statement.binds : Statement → List String
  | .importModule m => [rootOf m]
  | .importFrom _ names => names.map fun i => normalForm (i.renamed.getD i.name)
  | .classDef name _ _ body => normalForm name :: blockBinds body
  | .function name params body =>
    normalForm name :: ((params.map fun q => normalForm q.name) ++ blockBinds body)
  | .assign (.name id) _ => [normalForm id]
  | .assign _ _ | .expression _ | .return _ | .pass => []

def blockBinds : List Statement → List String
  | [] => []
  | s :: ss => s.binds ++ blockBinds ss

end

/-- The names that are local to a function or to a function inside of it. -/
def Statement.locals : Statement → List String
  | .function _ params body => (params.map fun q => normalForm q.name) ++ blockBinds body
  | _ => []

theorem mem_blockBinds {ss : List Statement} {x : String} :
    x ∈ blockBinds ss ↔ ∃ s ∈ ss, x ∈ s.binds := by
  induction ss with
  | nil => simp [blockBinds]
  | cons s ss ih => simp [blockBinds, ih]

theorem blockBinds_append (ss others : List Statement) :
    blockBinds (ss ++ others) = blockBinds ss ++ blockBinds others := by
  induction ss with
  | nil => rfl
  | cons s ss ih => rw [List.cons_append, blockBinds, blockBinds, ih, List.append_assoc]

/-- What an imported name stands for. -/
inductive Meaning where
  /-- A module that lies in no other one. -/
  | module (name : String)
  | member (module : List String) (name : String)
  deriving DecidableEq, Repr

/-- The names that an import binds, each with what it then stands for. To import a module in another
one is to bind the outermost one. -/
def Statement.imports : Statement → List (String × Meaning)
  | .importModule m => [(rootOf m, .module (rootOf m))]
  | .importFrom m names => names.map fun i =>
    (normalForm (i.renamed.getD i.name), .member (segmentsOf m) (normalForm i.name))
  | _ => []

/-- The name at the front of a chain of attributes. -/
def Expr.rootName? : Expr → Option String
  | .name id => some id
  | .attribute e _ => e.rootName?
  | _ => none

theorem rootName?_attributes (names : List String) : ∀ e : Expr,
    (attributes e names).rootName? = e.rootName? := by
  induction names with
  | nil => exact fun e => rfl
  | cons s names ih => exact fun e => ih (.attribute e (normalForm s))

theorem rootName?_wordAtom {s : String} {e : Expr} (h : wordAtom? s = some e) :
    e.rootName? = if isKeyword s then none else some (normalForm s) := by
  unfold wordAtom? at h
  split at h
  · next hkeyword =>
    rw [if_pos hkeyword]
    split at h
    · cases h; rfl
    · split at h
      · cases h; rfl
      · split at h
        · cases h; rfl
        · cases h
  · next hname =>
    rw [if_neg hname]
    cases h
    rfl

end Code

namespace Component

open LivePreview.Code (Expr Meaning Statement attributes blockBinds dotted? mem_blockBinds rootOf
  segmentsOf)
open LivePreview.Template (TagName Use)
open LivePreview.Text (isKeyword normalForm)

/-! ## Names that the render method binds -/

/-- Every name that a statement binds has an underscore at its front. -/
def Hidden (s : Statement) : Prop := ∀ x ∈ s.binds, x.toList.head? = some '_'

theorem normalForm_fixed : ∀ s ∈ ["self", "_children", "children", "_buf", "_append"],
    normalForm s = s := by
  decide +kernel

theorem normalForm_contentName (number : Nat) :
    normalForm (contentName number) = contentName number := by
  refine Text.normalForm_of_ascii fun c hc => ?_
  rw [contentName, String.toList_append] at hc
  rcases List.mem_append.mp hc with hc | hc
  · have hprefix : ("_children_".toList.all fun c => c.toNat < 128) = true := by decide
    exact of_decide_eq_true (List.all_eq_true.mp hprefix c hc)
  · rw [Nat.toString_eq_repr, Nat.toList_repr] at hc
    have hdigit := Nat.isDigit_of_mem_toDigits (by decide) (by decide) hc
    simp only [Char.isDigit, Bool.and_eq_true, decide_eq_true_eq] at hdigit
    exact Nat.lt_of_le_of_lt hdigit.2 (by decide)

theorem head?_contentName (number : Nat) :
    (contentName number).toList.head? = some '_' := by
  rw [contentName, String.toList_append]
  rfl

theorem hidden_bufferStart : ∀ s ∈ bufferStart, Hidden s := by
  have hbuffer := normalForm_fixed "_buf" (by decide)
  have happend := normalForm_fixed "_append" (by decide)
  simp [bufferStart, Hidden, Statement.binds, hbuffer, happend]

theorem hidden_bufferEnd : Hidden bufferEnd := fun _ hx => absurd hx List.not_mem_nil

theorem hidden_content (number : Nat) (ss : List Statement) (hss : ∀ s ∈ ss, Hidden s) :
    Hidden (.function (contentName number) [] (bufferStart ++ ss ++ [bufferEnd])) := by
  intro x hx
  rw [Statement.binds, List.map_nil, List.nil_append, normalForm_contentName, List.mem_cons,
    mem_blockBinds] at hx
  rcases hx with rfl | ⟨s, hs, hx⟩
  · exact head?_contentName number
  · simp only [List.mem_append, List.mem_singleton] at hs
    rcases hs with (hs | hs) | rfl
    · exact hidden_bufferStart s hs x hx
    · exact hss s hs x hx
    · exact hidden_bufferEnd x hx

/-- All that is written for a body is hidden from tags. -/
theorem hidden_written {c : Context} {own : String} {ns : List Template.Node} {p : Progress}
    (h : writeNodes c own ⟨.empty, .empty⟩ ns = .ok p) : ∀ s ∈ p.draft.finish, Hidden s := by
  refine written_body ?_ h
  exact {
    text := fun _ x hx => absurd hx List.not_mem_nil
    escaped := fun _ _ x hx => absurd hx List.not_mem_nil
    call := fun _ _ _ _ _ _ _ _ x hx => absurd hx List.not_mem_nil
    content := hidden_content }

/-- The names without an underscore at the front that a render method makes its own. -/
def openNames (t : Template) : List String :=
  "self" :: "children" :: t.params.map fun q => normalForm q.name

theorem mem_blockBinds_loads (t : Template) (x : String) :
    x ∈ blockBinds (t.params.map fun q =>
      Statement.assign (.name q.name) (.attribute selfName q.name)) ↔
        ∃ q ∈ t.params, normalForm q.name = x := by
  rw [mem_blockBinds]
  simp [Statement.binds, eq_comm]

theorem notMem_blockBinds {ss : List Statement} (hss : ∀ s ∈ ss, Hidden s) {x : String}
    (hx : x.toList.head? ≠ some '_') : x ∉ blockBinds ss := by
  intro h
  obtain ⟨s, hs, h⟩ := mem_blockBinds.mp h
  exact hx (hss s hs x h)

/-- Of the names that begin with no underscore, a render method binds the component itself, its
content and its parameters. -/
theorem mem_locals_renderer {t : Template} {body : List Statement}
    (hbody : ∀ s ∈ body, Hidden s) {x : String} (hx : x.toList.head? ≠ some '_') :
    x ∈ (renderer t body).locals ↔ x ∈ openNames t := by
  have hself := normalForm_fixed "self" (by decide)
  have hcontent := normalForm_fixed "_children" (by decide)
  have hchildren := normalForm_fixed "children" (by decide)
  have hcontent' : x ≠ "_children" := by
    rintro rfl
    exact hx rfl
  have hstart := notMem_blockBinds hidden_bufferStart hx
  have hend := notMem_blockBinds (List.forall_mem_singleton.mpr hidden_bufferEnd) hx
  have hparams : x ∈ t.params.map (fun q => normalForm q.name) ↔
      ∃ q ∈ t.params, normalForm q.name = x := List.mem_map
  rw [renderer, Statement.locals, openNames]
  simp only [Code.blockBinds_append, List.mem_append, List.mem_cons, List.map_cons, List.map_nil,
    List.not_mem_nil, hself, hcontent, hcontent', hstart, hend, notMem_blockBinds hbody hx,
    mem_blockBinds_loads, hparams, or_false]
  split
  · next hany =>
    -- A parameter may take the place of the content.
    obtain ⟨q, hq, hname⟩ := List.any_eq_true.mp hany
    have hparam : x = "children" → ∃ q ∈ t.params, normalForm q.name = x := by
      rintro rfl
      exact ⟨q, hq, by rw [of_decide_eq_true hname, hchildren]⟩
    simp only [blockBinds, List.not_mem_nil, or_false]
    constructor
    · rintro (h | h)
      · exact .inl h
      · exact .inr (.inr h)
    · rintro (h | h | h)
      · exact .inl h
      · exact .inr (hparam h)
      · exact .inr h
  · have hbinding : x ∈ blockBinds [contentBinding] ↔ x = "children" := by
      rw [mem_blockBinds]
      simp [contentBinding, Statement.binds, hchildren]
    rw [hbinding]
    exact or_congr_right or_comm

/-! ## Names that the header binds -/

/-- What a header binds a name to: one of the fixed imports, a module that the template names or a
tag lies in, or a component that a tag is bound to. The component of the path itself is not
imported. -/
inductive HeaderBinds (c : Context) (path : String) (t : Template) : String → Meaning → Prop
  | fixed {name : String} {meaning : Meaning}
      (h : (name, meaning) ∈ fixedImports.flatMap Statement.imports) :
      HeaderBinds c path t name meaning
  | named {u : Template.Using} (h : u ∈ t.usings) :
      HeaderBinds c path t (rootOf u.module) (.module (rootOf u.module))
  | external {u : Use} {b : Binding} (h : u ∈ t.uses) (hresolve : c.resolve u.name = some b)
      (hexternal : b.isExternal = true) :
      HeaderBinds c path t (rootOf b.module) (.module (rootOf b.module))
  | declared {u : Use} {b : Binding} (h : u ∈ t.uses) (hresolve : c.resolve u.name = some b)
      (hdeclared : b.isExternal = false) (hother : u.name ≠ componentName path) :
      HeaderBinds c path t (normalForm u.name) (.member (segmentsOf b.module) (normalForm u.name))

theorem Findings.externals_meet {c : Context} {own : String} (f : Findings) (u : Use) (m : String) :
    m ∈ (f.meet c own u).externals ↔ m ∈ f.externals ∨
      ∃ b, c.resolve u.name = some b ∧ b.isExternal = true ∧ b.module = m := by
  unfold Findings.meet
  cases hresolve : c.resolve u.name with
  | none => simp [Findings.note]
  | some b =>
    simp only [Findings.use_eq, Option.some.injEq, exists_eq_left']
    by_cases hexternal : b.isExternal = true
    · by_cases hknown : b.module ∈ f.externals
      · simp only [hexternal, hknown, not_true, and_false, if_false, true_and]
        constructor
        · exact .inl
        · rintro (h | rfl)
          · exact h
          · exact hknown
      · simp [hexternal, hknown, eq_comm]
    · simp [hexternal]

/-- The modules that are noted for tags are those that external tags lie in. -/
theorem Findings.externals_foldl_meet {c : Context} {own : String} (m : String) (us : List Use) :
    ∀ f : Findings, m ∈ (us.foldl (Findings.meet c own) f).externals ↔ m ∈ f.externals ∨
      ∃ u ∈ us, ∃ b, c.resolve u.name = some b ∧ b.isExternal = true ∧ b.module = m := by
  induction us with
  | nil => simp
  | cons u us ih =>
    intro f
    rw [List.foldl_cons, ih, externals_meet, or_assoc]
    simp only [List.mem_cons, exists_eq_or_imp]

theorem mem_usedModules {t : Template} {m : String} :
    m ∈ usedModules t ↔ ∃ u ∈ t.usings, u.module = m := by
  have hfold (us : List Template.Using) : ∀ ms : List String,
      m ∈ us.foldl (fun ms u => if ms.contains u.module then ms else ms ++ [u.module]) ms ↔
        m ∈ ms ∨ ∃ u ∈ us, u.module = m := by
    induction us with
    | nil => simp
    | cons u us ih =>
      intro ms
      have hfirst : m ∈ (if ms.contains u.module then ms else ms ++ [u.module]) ↔
          m ∈ ms ∨ u.module = m := by
        split
        · next hknown =>
          constructor
          · exact .inl
          · rintro (h | rfl)
            · exact h
            · exact List.contains_iff_mem.mp hknown
        · rw [List.mem_append, List.mem_singleton, eq_comm (a := m)]
      rw [List.foldl_cons, ih, hfirst, or_assoc]
      simp only [List.mem_cons, exists_eq_or_imp]
  rw [usedModules, hfold]
  simp

theorem importOf?_eq_some {c : Context} {own name m : String} :
    importOf? c own name = some m ↔
      ∃ b, c.resolve name = some b ∧ b.isExternal = false ∧ name ≠ own ∧ b.module = m := by
  unfold importOf?
  cases c.resolve name with
  | none => simp
  | some b =>
    by_cases hexternal : b.isExternal = true
    · simp [hexternal]
    · by_cases hown : name = own
      · simp [hown]
      · simp [hexternal, hown]

section Header

variable {c : Context} {path content : String} {t : Template} {p : Progress}

/-- The modules that a header imports as such. -/
theorem mem_modules (ht : Template.ofChars content.toList = .ok t)
    (hp : writeNodes c (componentName path) ⟨.empty, .empty⟩ t.body = .ok p) (m : String) :
    m ∈ usedModules t ++ Module.sortNames
        (p.findings.externals.filter fun m => !(usedModules t).contains m) ↔
      (∃ u ∈ t.usings, u.module = m) ∨
        ∃ u ∈ t.uses, ∃ b, c.resolve u.name = some b ∧ b.isExternal = true ∧ b.module = m := by
  have hexternals := congrArg (fun f => m ∈ f.externals) (findings_of_read ht hp)
  simp only [Findings.externals_foldl_meet] at hexternals
  change (m ∈ p.findings.externals) = _ at hexternals
  rw [List.mem_append, Module.sortNames, List.mem_mergeSort, List.mem_filter, hexternals,
    ← mem_usedModules]
  by_cases hused : m ∈ usedModules t
  · simp [hused]
  · simp [hused, Findings.empty]

/-- The components that a header imports. -/
theorem mem_componentImports (ht : Template.ofChars content.toList = .ok t)
    (hp : writeNodes c (componentName path) ⟨.empty, .empty⟩ t.body = .ok p) (name m : String) :
    (name, m) ∈ sortImports p.findings.imports.entries ↔
      ∃ u ∈ t.uses, u.name = name ∧ ∃ b, c.resolve name = some b ∧ b.isExternal = false ∧
        name ≠ componentName path ∧ b.module = m := by
  rw [sortImports, List.mem_mergeSort, Table.mem_entries_iff, imports_of_read ht hp]
  split
  · next hused =>
    rw [importOf?_eq_some]
    constructor
    · intro h
      obtain ⟨u, hu, hname⟩ := hused
      exact ⟨u, hu, hname, h⟩
    · rintro ⟨u, hu, hname, h⟩
      exact h
  · next hunused =>
    constructor
    · intro h
      cases h
    · rintro ⟨u, hu, hname, h⟩
      exact absurd ⟨u, hu, hname⟩ hunused

/-- A header binds what there is a reason to import, and nothing else. -/
theorem mem_header (ht : Template.ofChars content.toList = .ok t)
    (hp : writeNodes c (componentName path) ⟨.empty, .empty⟩ t.body = .ok p) (name : String)
    (meaning : Meaning) :
    (name, meaning) ∈ (header t p.findings).flatMap Statement.imports ↔
      HeaderBinds c path t name meaning := by
  have hmodules := mem_modules ht hp
  have hcomponents := mem_componentImports ht hp
  rw [header, List.append_assoc, List.flatMap_append, List.flatMap_append, List.mem_append,
    List.mem_append, List.flatMap_map, List.flatMap_map, List.mem_flatMap, List.mem_flatMap,
    List.mem_flatMap]
  constructor
  · rintro (h | ⟨m, hm, h⟩ | ⟨⟨n, m⟩, hm, h⟩)
    · exact .fixed (List.mem_flatMap.mpr h)
    · obtain ⟨rfl, rfl⟩ := Prod.mk.inj (List.mem_singleton.mp h)
      rcases (hmodules m).mp hm with ⟨u, hu, rfl⟩ | ⟨u, hu, b, hresolve, hexternal, rfl⟩
      · exact .named hu
      · exact .external hu hresolve hexternal
    · obtain ⟨rfl, rfl⟩ := Prod.mk.inj (List.mem_singleton.mp h)
      obtain ⟨u, hu, rfl, b, hresolve, hdeclared, hother, rfl⟩ := (hcomponents n m).mp hm
      exact .declared hu hresolve hdeclared hother
  · intro h
    cases h with
    | fixed h => exact .inl (List.mem_flatMap.mp h)
    | named h =>
      exact .inr (.inl ⟨_, (hmodules _).mpr (.inl ⟨_, h, rfl⟩), List.mem_singleton_self _⟩)
    | external h hresolve hexternal =>
      exact .inr (.inl ⟨_, (hmodules _).mpr (.inr ⟨_, h, _, hresolve, hexternal, rfl⟩),
        List.mem_singleton_self _⟩)
    | declared h hresolve hdeclared hother =>
      exact .inr (.inr ⟨(_, _), (hcomponents _ _).mpr
        ⟨_, h, rfl, _, hresolve, hdeclared, hother, rfl⟩, List.mem_singleton_self _⟩)

end Header

/-! ## Names of tags -/

theorem exists_dottedParts (name : String) :
    ∃ s names, Module.dottedParts name = s :: names ∧
      name.toList = s.toList ++ Code.pointedText names := by
  obtain ⟨s, names, hparts⟩ := List.exists_cons_of_ne_nil (Module.dottedParts_ne_nil name)
  refine ⟨s, names, hparts, ?_⟩
  rw [← Code.toList_intercalate_cons, ← hparts, Module.intercalate_dottedParts]

/-- The name that a tag begins with has no underscore at its front. -/
theorem head?_rootOf_ne_underscore {name : String} (h : TagName name) :
    (rootOf name).toList.head? ≠ some '_' := by
  obtain ⟨s, names, hparts, htext⟩ := exists_dottedParts name
  obtain ⟨c, hhead, hletter⟩ := h.letter
  obtain ⟨d, rest, hs, -⟩ := Code.exists_cons_of_isIdentifier
    (h.segments s (hparts ▸ List.mem_cons_self))
  have hfirst : s.toList.head? = some c := by
    rw [htext, hs] at hhead
    rw [hs]
    exact hhead
  have hne : c ≠ '_' := by
    rintro rfl
    exact absurd hletter (by decide)
  have hascii : c.toNat < 128 := by
    simp only [Template.isLetter, Bool.or_eq_true, Bool.and_eq_true, decide_eq_true_eq] at hletter
    rcases hletter with h | h
    · exact Nat.lt_of_le_of_lt h.2 (by decide)
    · exact Nat.lt_of_le_of_lt h.2 (by decide)
  rw [rootOf, segmentsOf, hparts]
  exact Text.head?_normalForm_ne_underscore hfirst hascii hne

theorem dottedParts_eq_singleton {name : String} (h : Context.modulePart? name = none) :
    Module.dottedParts name = [name] := by
  have hjoined := Module.intercalate_dottedParts name
  unfold Context.modulePart? at h
  dsimp only at h
  split at h
  · next hinit =>
    obtain ⟨s, names, hparts⟩ := List.exists_cons_of_ne_nil (Module.dottedParts_ne_nil name)
    have hnames : names = [] := by
      have hlength := congrArg List.length hinit
      have hmap := congrArg List.length hparts
      rw [List.length_dropLast, List.length_nil] at hlength
      rw [Module.dottedParts, List.length_map, List.length_cons] at hmap
      exact List.length_eq_zero_iff.mp (by omega)
    rw [hparts, hnames, String.intercalate_singleton] at hjoined
    rw [hparts, hnames, hjoined]
  · cases h

/-- The module that a dotted name lies in begins with the same name. -/
theorem rootOf_modulePart {name m : String} (h : Context.modulePart? name = some m) :
    rootOf m = rootOf name := by
  unfold Context.modulePart? at h
  dsimp only at h
  split at h
  · cases h
  · next hne =>
    cases h
    have hdots : ∀ piece ∈ (Location.pieces '.' name.toList).dropLast, '.' ∉ piece :=
      fun piece hpiece =>
        Location.not_mem_of_mem_pieces _ piece ((List.dropLast_sublist _).subset hpiece)
    have hpieces : Location.pieces '.'
        (['.'].intercalate (Location.pieces '.' name.toList).dropLast) =
          (Location.pieces '.' name.toList).dropLast := by
      rw [Location.pieces_eq_splitOn '.' (['.'].intercalate _)]
      exact List.splitOn_intercalate '.' hdots hne
    have hhead : (Location.pieces '.' name.toList).dropLast.head? =
        (Location.pieces '.' name.toList).head? := by
      cases hall : Location.pieces '.' name.toList with
      | nil => rfl
      | cons first rest =>
        cases rest with
        | nil =>
          rw [hall] at hne
          exact absurd rfl hne
        | cons second rest => rfl
    simp only [rootOf, segmentsOf, Module.dottedParts, String.toList_ofList, hpieces,
      List.headD_eq_head?_getD, List.head?_map, hhead]

theorem isExternal_ofSurface (name : String) (s : Surface) :
    (Binding.ofSurface name s).isExternal = false := rfl

/-- An external component lies in the module that its name spells. -/
theorem modulePart?_of_external {c : Context} {name : String} {b : Binding}
    (hresolve : c.resolve name = some b) (hexternal : b.isExternal = true) :
    Context.modulePart? name = some b.module := by
  unfold Context.resolve at hresolve
  split at hresolve
  · next m hmodule =>
    split at hresolve
    · cases hresolve
      exact hmodule
    · cases hresolve
  · obtain ⟨s, -, rfl⟩ := Option.map_eq_some_iff.mp hresolve
    rw [isExternal_ofSurface] at hexternal
    cases hexternal

/-- A declared component has a name without points. -/
theorem modulePart?_of_declared {c : Context} {name : String} {b : Binding}
    (hresolve : c.resolve name = some b) (hdeclared : b.isExternal = false) :
    Context.modulePart? name = none := by
  unfold Context.resolve at hresolve
  split at hresolve
  · next m hmodule =>
    split at hresolve
    · cases hresolve
      cases hdeclared
    · cases hresolve
  · next hmodule => exact hmodule

/-- The name at the front of the target of an external tag, unless its first segment is a constant. -/
theorem rootName?_of_external {name : String} {b : Binding} {target : Expr} (hname : TagName name)
    (hexternal : b.isExternal = true) (htarget : targetOf name b = .ok target) :
    target.rootName? = if isKeyword ((Module.dottedParts name).headD "") then none
      else some (rootOf name) := by
  obtain ⟨s, names, hparts, -⟩ := exists_dottedParts name
  rw [targetOf, if_pos hexternal] at htarget
  have hspelled := Code.read_dotted_eq_ok hname.segments htarget
  rw [hparts] at hspelled
  obtain ⟨-, root, hroot, rfl⟩ := Code.dotted?_eq_some hspelled
  rw [Code.rootName?_attributes, Code.rootName?_wordAtom hroot, rootOf, segmentsOf, hparts]
  rfl

/-! ## Tags of a document -/

/-- What a tag `u`, bound to `b`, calls in a document of a template, and what binds its name there. -/
structure TagScope (c : Context) (path : String) (t : Template) (p : Progress) (u : Use)
    (b : Binding) : Prop where
  /-- A declared component is called by its name. -/
  declared : b.isExternal = false → targetOf u.name b = .ok (.name u.name) ∧
    rootOf u.name = normalForm u.name
  /-- An external component is called by the chain that its name spells. -/
  external : b.isExternal = true → ∃ target, targetOf u.name b = .ok target ∧
    target.rootName? = if isKeyword ((Module.dottedParts u.name).headD "") then none
      else some (rootOf u.name)
  /-- In the render method the name is local exactly if it is one of the open names. -/
  captured : rootOf u.name ∈ (renderer t p.draft.finish).locals ↔ rootOf u.name ∈ openNames t
  /-- The header binds the name to the module that the component lies in. -/
  external_bound : b.isExternal = true →
    HeaderBinds c path t (rootOf u.name) (.module (rootOf u.name))
  /-- The header binds the name to the component. -/
  declared_bound : b.isExternal = false → u.name ≠ componentName path →
    HeaderBinds c path t (rootOf u.name) (.member (segmentsOf b.module) (rootOf u.name))
  /-- The class of the document itself has its own name. -/
  own_bound : b.isExternal = false → u.name = componentName path →
    rootOf u.name ∈ (componentClass t path p.draft.finish).binds

/-- Every tag of a document that stands for something is called by a name that the header binds to it,
or that is the name of the generated class. In the render method this name is local exactly if it is
that of the component itself, of its content or of a parameter; no other local name of the compiler
takes it. The header binds all its names for the reasons given, so that another meaning of the name
has one of them. -/
theorem bindings_of_tag {c : Context} {path content : String} {document : Document}
    (hdocument : Document.generate c path content = .ok document) :
    ∃ t p, Template.ofChars content.toList = .ok t ∧
      writeNodes c (componentName path) ⟨.empty, .empty⟩ t.body = .ok p ∧
      document.code = Statement.text (moduleOf t path p) ∧
      (∀ name meaning, (name, meaning) ∈ (header t p.findings).flatMap Statement.imports ↔
        HeaderBinds c path t name meaning) ∧
      ∀ u ∈ t.uses, ∀ b, c.resolve u.name = some b → TagScope c path t p u b := by
  obtain ⟨t, ht, hcompile⟩ := generate_eq_ok hdocument
  obtain ⟨p, hp, htext, -⟩ := compile_eq_ok hcompile
  obtain ⟨-, -, -, -, hcode⟩ := moduleText_eq_ok htext
  refine ⟨t, p, ht, hp, hcode, mem_header ht hp, fun u hu b hresolve => ?_⟩
  have hname : TagName u.name := (Template.wellNamed_of_read ht).2 u hu
  have hroot (hdeclared : b.isExternal = false) : rootOf u.name = normalForm u.name := by
    have hmodule := modulePart?_of_declared hresolve hdeclared
    rw [rootOf, segmentsOf, dottedParts_eq_singleton hmodule]
    rfl
  constructor
  case declared =>
    intro hdeclared
    exact ⟨by rw [targetOf, hdeclared]; rfl, hroot hdeclared⟩
  case external =>
    intro hexternal
    obtain ⟨target, htarget⟩ :=
      targets_writeNodes t.body (Template.slashEmpty_of_read ht) _ p hp u hu b hresolve
    exact ⟨target, htarget, rootName?_of_external hname hexternal htarget⟩
  case captured => exact mem_locals_renderer (hidden_written hp) (head?_rootOf_ne_underscore hname)
  case external_bound =>
    intro hexternal
    rw [← rootOf_modulePart (modulePart?_of_external hresolve hexternal)]
    exact .external hu hresolve hexternal
  case declared_bound =>
    intro hdeclared hother
    rw [hroot hdeclared]
    exact .declared hu hresolve hdeclared hother
  case own_bound =>
    intro hdeclared hown
    rw [hroot hdeclared, hown, componentClass, Statement.binds]
    exact List.mem_cons_self

/-! ## A parameter with the name of a module -/

/-- A template that calls a component of a module and has a parameter of its name. -/
def badgePage (mark place : Template.Position) : Template :=
  ⟨[⟨mark, "widgets", none, none⟩], [], [.element place "widgets.Badge" [] [] .slash]⟩

def badgeText : String := "@param widgets\n<widgets.Badge />"

def widgetsContext : Context := .new [⟨"widgets", none, [], false⟩] "declarations"

/-- A single parameter with nothing but a name. -/
def isWidgetsParam : List Template.Param → Bool
  | [⟨_, "widgets", none, none⟩] => true
  | _ => false

/-- A single badge to which nothing is given. -/
def isBadgeBody : List Template.Node → Bool
  | [.element _ "widgets.Badge" [] [] .slash] => true
  | _ => false

theorem read_badgePage :
    ∃ mark place, Template.ofChars badgeText.toList = .ok (badgePage mark place) := by
  have hread : (Template.ofChars badgeText.toList).toOption.map (fun t =>
      isWidgetsParam t.params && t.usings.isEmpty && isBadgeBody t.body) = some true := by
    decide +kernel
  cases ht : Template.ofChars badgeText.toList with
  | error objection =>
    rw [ht] at hread
    cases hread
  | ok t =>
    obtain ⟨params, usings, body⟩ := t
    rw [ht] at hread
    have hparts := Option.some.inj hread
    rw [Bool.and_eq_true, Bool.and_eq_true, List.isEmpty_iff] at hparts
    obtain ⟨⟨hparams, rfl⟩, hbody⟩ := hparts
    change isWidgetsParam params = true at hparams
    change isBadgeBody body = true at hbody
    unfold isWidgetsParam at hparams
    unfold isBadgeBody at hbody
    split at hparams
    · next mark =>
      split at hbody
      · next place => exact ⟨mark, place, rfl⟩
      · cases hbody
    · cases hparams

/-- What the tag of the page is bound to. -/
def badgeBinding : Binding := { name := "widgets.Badge", module := "widgets" }

theorem resolve_badge : widgetsContext.resolve "widgets.Badge" = some badgeBinding := by
  have hmodule : Context.modulePart? "widgets.Badge" = some "widgets" := by decide +kernel
  rw [Context.resolve, hmodule]
  simp [widgetsContext, badgeBinding, Context.hasModule, Context.new, Module.sortByName]

theorem read_badge :
    Expr.read "widgets.Badge" = .ok (.attribute (.name "widgets") "Badge") := by
  have hparts : Module.dottedParts "widgets.Badge" = ["widgets", "Badge"] := by decide +kernel
  have hidentifiers : ∀ s ∈ ["widgets", "Badge"], Text.isIdentifier s.toList = true := by
    decide +kernel
  have hkeywords : ∀ s ∈ ["widgets", "Badge"], isKeyword s = false := by decide +kernel
  have hnormal : ∀ s ∈ ["widgets", "Badge"], normalForm s = s := by decide +kernel
  have hspelled : dotted? ["widgets", "Badge"] = some (.attribute (.name "widgets") "Badge") := by
    simp [dotted?, Code.wordAtom?, attributes, hkeywords, hnormal]
  rw [Code.read_dotted (hparts ▸ hidentifiers), hparts, hspelled]

/-- The call of the badge. -/
def badgeCall : Statement :=
  Draft.appending (renderCall (.attribute (.name "widgets") "Badge") [] (.constant .none))

theorem writeNodes_badgePage (mark place : Template.Position) (own : String) :
    ∃ p, writeNodes widgetsContext own ⟨.empty, .empty⟩ (badgePage mark place).body = .ok p ∧
      p.draft.finish = [badgeCall] ∧ p.findings.externals = ["widgets"] ∧
      p.findings.imports = ∅ := by
  have htag : Template.isComponentTag "widgets.Badge" = true := by decide
  have hbinding : binding? widgetsContext "widgets.Badge" = some badgeBinding := by
    rw [binding?, if_pos htag, resolve_badge]
  have hexternal : badgeBinding.isExternal = true := rfl
  simp only [badgePage, writeNodes, writeNode, hbinding, targetOf, hexternal, if_true, read_badge,
    Findings.use_eq]
  exact ⟨_, rfl, rfl, rfl, rfl⟩

/-- The module that the page is compiled to. -/
def badgeModule : List Statement :=
  fixedImports ++ [.importModule "widgets"] ++
    [componentClass (badgePage .start .start) "Page.tpl" [badgeCall]]

theorem text_badgeModule :
    moduleText "Page.tpl" badgeModule = .ok (Statement.text badgeModule) :=
  moduleText_of_unrefusable (by decide +kernel) (by decide +kernel) (by decide +kernel)

theorem exists_badgeDocument :
    ∃ document, Document.generate widgetsContext "Page.tpl" badgeText = .ok document := by
  obtain ⟨mark, place, hread⟩ := read_badgePage
  obtain ⟨p, hp, hdraft, hexternals, himports⟩ :=
    writeNodes_badgePage mark place (componentName "Page.tpl")
  have hheader : header (badgePage mark place) p.findings =
      fixedImports ++ [.importModule "widgets"] := by
    have hentries : p.findings.imports.entries = [] := by rw [himports]; rfl
    simp [header, usedModules, badgePage, hexternals, hentries, Module.sortNames, sortImports]
  have htext := text_badgeModule
  rw [badgeModule, ← hheader, ← hdraft] at htext
  change moduleText "Page.tpl" (header (badgePage mark place) p.findings ++
    [componentClass (badgePage mark place) "Page.tpl" p.draft.finish]) = _ at htext
  rw [Document.generate, hread]
  simp only [compile, hp, htext]
  exact ⟨_, rfl⟩

/-- In the document of the page the module is covered by the parameter. -/
theorem captured_badge {t : Template} {p : Progress}
    (ht : Template.ofChars badgeText.toList = .ok t)
    (hp : writeNodes widgetsContext (componentName "Page.tpl") ⟨.empty, .empty⟩ t.body = .ok p) :
    ∃ u ∈ t.uses, widgetsContext.resolve u.name = some badgeBinding ∧
      rootOf u.name ∈ (renderer t p.draft.finish).locals := by
  obtain ⟨mark, place, hread⟩ := read_badgePage
  rw [hread, Except.ok.injEq] at ht
  subst ht
  have htag : Template.isComponentTag "widgets.Badge" = true := by decide
  have hroot : rootOf "widgets.Badge" = "widgets" := by decide +kernel
  have hnormal : normalForm "widgets" = "widgets" := by decide +kernel
  refine ⟨⟨place, "widgets.Badge", []⟩, ?_, resolve_badge, ?_⟩
  · simp [badgePage, Template.uses, Template.bodyUses, Template.Node.uses, htag]
  · rw [hroot, mem_locals_renderer (hidden_written hp) (by decide +kernel)]
    simp [openNames, badgePage, hnormal]

/-- The tag of the page begins with a name that is local to the render method. -/
theorem bindings_of_tag_badge : ∃ document t p u b,
    Document.generate widgetsContext "Page.tpl" badgeText = .ok document ∧
    Template.ofChars badgeText.toList = .ok t ∧
    document.code = Statement.text (moduleOf t "Page.tpl" p) ∧
    u ∈ t.uses ∧ widgetsContext.resolve u.name = some b ∧
    TagScope widgetsContext "Page.tpl" t p u b ∧
    rootOf u.name ∈ (renderer t p.draft.finish).locals := by
  obtain ⟨document, hdocument⟩ := exists_badgeDocument
  obtain ⟨t, p, ht, hp, hcode, -, hscope⟩ := bindings_of_tag hdocument
  obtain ⟨u, hu, hresolve, hlocal⟩ := captured_badge ht hp
  exact ⟨document, t, p, u, _, hdocument, ht, hcode, hu, hresolve, hscope u hu _ hresolve, hlocal⟩

/-- The name that a tag begins with may be local to the render method. -/
theorem bindings_of_tag_not_kept :
    ¬ ∀ (c : Context) (path content : String) (document : Document),
      Document.generate c path content = .ok document →
      ∀ t p, Template.ofChars content.toList = .ok t →
        writeNodes c (componentName path) ⟨.empty, .empty⟩ t.body = .ok p →
        ∀ u ∈ t.uses, ∀ b, c.resolve u.name = some b →
          rootOf u.name ∉ (renderer t p.draft.finish).locals := by
  intro hclaim
  obtain ⟨document, hdocument⟩ := exists_badgeDocument
  obtain ⟨mark, place, hread⟩ := read_badgePage
  obtain ⟨p, hp, -⟩ := writeNodes_badgePage mark place (componentName "Page.tpl")
  obtain ⟨u, hu, hresolve, hlocal⟩ := captured_badge hread hp
  exact hclaim _ _ _ document hdocument _ p hread hp u hu _ hresolve hlocal

end Component

end LivePreview
