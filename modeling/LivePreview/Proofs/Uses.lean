import LivePreview.Component.Document
import LivePreview.Proofs.Steps

/-!
# Uses of components

What is found out about a body depends on the component tags in it alone, in the order of the text.
An element with a slash at the end of its tag has no content, so that no tag of a text is passed over.
So the diagnostics of a body are those of its tags, one after another, and an import is noted for
exactly the names of tags that ask for one.
-/

namespace LivePreview

namespace Template

/-! ## Component tags -/

/-- A component tag with its place and what is given to it. -/
structure Use where
  place : Position
  name : String
  attributes : List Attribute

mutual

/-- The component tags of a node, in the order of the text. -/
def Node.uses : Node → List Use
  | .data _ _ | .output _ _ => []
  | .element place name attributes body _ =>
    (if isComponentTag name then [⟨place, name, attributes⟩] else []) ++ bodyUses body

def bodyUses : List Node → List Use
  | [] => []
  | n :: ns => n.uses ++ bodyUses ns

end

def uses (t : Template) : List Use := bodyUses t.body

mutual

theorem isComponentTag_of_mem_node (n : Node) {u : Use} (h : u ∈ n.uses) :
    isComponentTag u.name = true := by
  cases n with
  | data _ _ => exact absurd h List.not_mem_nil
  | output _ _ => exact absurd h List.not_mem_nil
  | element place name attributes body closing =>
    rw [Node.uses] at h
    rcases List.mem_append.mp h with hown | hbody
    · split at hown
      · next htag =>
        rw [List.mem_singleton.mp hown]
        exact htag
      · exact absurd hown List.not_mem_nil
    · exact isComponentTag_of_mem_body body hbody

theorem isComponentTag_of_mem_body (ns : List Node) {u : Use} (h : u ∈ bodyUses ns) :
    isComponentTag u.name = true := by
  cases ns with
  | nil => exact absurd h List.not_mem_nil
  | cons n ns =>
    rcases List.mem_append.mp h with hfirst | hrest
    · exact isComponentTag_of_mem_node n hfirst
    · exact isComponentTag_of_mem_body ns hrest

end

/-! ## Elements without content -/

mutual

/-- An element with a slash at the end of its tag has no content. -/
def Node.SlashEmpty : Node → Prop
  | .data _ _ | .output _ _ => True
  | .element _ _ _ body closing => (closing = .slash → body = []) ∧ AllSlashEmpty body

def AllSlashEmpty : List Node → Prop
  | [] => True
  | n :: ns => n.SlashEmpty ∧ AllSlashEmpty ns

end

theorem allSlashEmpty_iff {ns : List Node} : AllSlashEmpty ns ↔ ∀ n ∈ ns, n.SlashEmpty := by
  induction ns with
  | nil => simp [AllSlashEmpty]
  | cons n ns ih => rw [AllSlashEmpty, ih, List.forall_mem_cons]

theorem builds_slashEmpty : Builds Node.SlashEmpty where
  data _ _ := trivial
  output _ _ := trivial
  single _ _ _ _ _ _ := ⟨fun _ => rfl, trivial⟩
  paired _ _ _ _ _ hbody := ⟨nofun, allSlashEmpty_iff.mpr hbody⟩

theorem slashEmpty_of_read {cs : List Char} {t : Template} (h : ofChars cs = .ok t) :
    AllSlashEmpty t.body := allSlashEmpty_iff.mpr (forall_nodes_of_read builds_slashEmpty h)

end Template

namespace Component

open LivePreview.Template (Node Use bodyUses AllSlashEmpty)

/-! ## What a tag adds -/

/-- What is reported of a tag. -/
def useDiagnostics (c : Context) (u : Use) : List Diagnostic :=
  match c.resolve u.name with
  | none => [.unresolvedComponent u.place u.name]
  | some b => misfits u.place u.name u.attributes b

/-- The module that a tag is imported from; the component `own` imports no name of its own. -/
def importOf? (c : Context) (own name : String) : Option String :=
  match c.resolve name with
  | none => none
  | some b => if b.isExternal ∨ name = own then none else some b.module

namespace Findings

/-- What is found out at a tag. -/
def meet (c : Context) (own : String) (f : Findings) (u : Use) : Findings :=
  match c.resolve u.name with
  | none => f.note [.unresolvedComponent u.place u.name]
  | some b => f.use own u.place u.name u.attributes b

/-- All but the number of functions for content. -/
def uncounted (f : Findings) : Findings := { f with contents := 0 }

variable {c : Context} {own : String}

/-- Each part of the findings after a use, by itself. -/
theorem use_eq (f : Findings) (place : Template.Position) (name : String)
    (attributes : List Template.Attribute) (b : Binding) :
    f.use own place name attributes b = {
      contents := f.contents
      diagnostics := f.diagnostics ++ misfits place name attributes b
      imports := if b.isExternal ∨ name = own then f.imports else f.imports.insert name b.module
      externals := if b.isExternal ∧ b.module ∉ f.externals then f.externals ++ [b.module]
        else f.externals
      resolved := if name ∈ f.resolved then f.resolved else f.resolved ++ [name] } := by
  unfold use note
  cases hexternal : b.isExternal with
  | true =>
    by_cases hmodule : b.module ∈ f.externals
    · by_cases hresolved : name ∈ f.resolved <;> simp [hmodule, hresolved]
    · by_cases hresolved : name ∈ f.resolved <;> simp [hmodule, hresolved]
  | false =>
    by_cases hown : name = own
    · subst hown
      by_cases hresolved : name ∈ f.resolved <;> simp [hresolved]
    · by_cases hresolved : name ∈ f.resolved <;> simp [hown, hresolved]

theorem uncounted_meet (f : Findings) (u : Use) :
    (f.meet c own u).uncounted = f.uncounted.meet c own u := by
  unfold meet
  split
  · rfl
  · rw [use_eq, use_eq]
    rfl

theorem diagnostics_meet (f : Findings) (u : Use) :
    (f.meet c own u).diagnostics = f.diagnostics ++ useDiagnostics c u := by
  unfold meet useDiagnostics
  split
  · rfl
  · rw [use_eq]

theorem diagnostics_foldl_meet (us : List Use) : ∀ f : Findings,
    (us.foldl (meet c own) f).diagnostics = f.diagnostics ++ us.flatMap (useDiagnostics c) := by
  induction us with
  | nil => exact fun f => (List.append_nil _).symm
  | cons u us ih =>
    intro f
    rw [List.foldl_cons, ih, diagnostics_meet, List.flatMap_cons, List.append_assoc]

theorem imports_meet (f : Findings) (u : Use) (name : String) :
    (f.meet c own u).imports.get? name =
      if u.name = name then (importOf? c own name).or (f.imports.get? name)
      else f.imports.get? name := by
  unfold meet importOf?
  by_cases hname : u.name = name
  · subst hname
    rw [if_pos rfl]
    cases c.resolve u.name with
    | none => rfl
    | some b =>
      simp only [use_eq]
      split
      · rfl
      · rw [Table.get?_insert, if_pos rfl]
        rfl
  · rw [if_neg hname]
    cases c.resolve u.name with
    | none => rfl
    | some b =>
      simp only [use_eq]
      split
      · rfl
      · rw [Table.get?_insert, if_neg hname]

/-- An import is noted for the names of these tags that ask for one, and for no others. -/
theorem imports_foldl_meet (name : String) (us : List Use) : ∀ f : Findings,
    (us.foldl (meet c own) f).imports.get? name =
      if ∃ u ∈ us, u.name = name then (importOf? c own name).or (f.imports.get? name)
      else f.imports.get? name := by
  induction us with
  | nil =>
    intro f
    rw [if_neg (by rintro ⟨u, hu, -⟩; exact absurd hu List.not_mem_nil)]
    rfl
  | cons u us ih =>
    intro f
    rw [List.foldl_cons, ih, imports_meet]
    simp only [List.mem_cons, or_and_right, exists_or, exists_eq_left]
    by_cases hfirst : u.name = name
    · simp only [hfirst, if_true, true_or]
      split
      · cases importOf? c own name with
        | none => rfl
        | some m => rfl
      · rfl
    · simp only [hfirst, if_false, false_or]

end Findings

/-! ## What a body adds -/

theorem findings_openMarkup (p : Progress) (name : String) (attributes : List Template.Attribute) :
    (p.openMarkup name attributes).findings = p.findings := by
  have hmarkup : ∀ (q : Progress) (a : Template.Attribute),
      (q.attributeMarkup a).findings = q.findings := by
    intro q a
    unfold Progress.attributeMarkup
    split
    · rfl
    · rfl
    · rfl
  unfold Progress.openMarkup
  refine List.foldlRecOn (motive := fun q : Progress => q.findings = p.findings) attributes _ rfl ?_
  intro q hq a _
  rw [hmarkup, hq]

theorem binding?_eq_some {c : Context} {name : String} {b : Binding}
    (h : binding? c name = some b) :
    Template.isComponentTag name = true ∧ c.resolve name = some b := by
  unfold binding? at h
  split at h
  · next htag => exact ⟨htag, h⟩
  · cases h

section Writing

variable {c : Context} {own : String}

/-- A tag without a binding adds what it adds as a use, and then is opened as markup. -/
theorem findings_of_unbound (own : String) (p : Progress) (place : Template.Position)
    {name : String} (attributes : List Template.Attribute) (hbinding : binding? c name = none) :
    ((if Template.isComponentTag name then
      { p with findings := p.findings.note [.unresolvedComponent place name] }
    else p).openMarkup name attributes).findings.uncounted =
      (if Template.isComponentTag name then [⟨place, name, attributes⟩] else []).foldl
        (Findings.meet c own) p.findings.uncounted := by
  rw [findings_openMarkup]
  unfold binding? at hbinding
  split at hbinding
  · next htag =>
    rw [if_pos htag, if_pos htag, List.foldl_cons, List.foldl_nil, Findings.meet, hbinding]
    rfl
  · next htag =>
    rw [if_neg htag, if_neg htag, List.foldl_nil]

mutual

theorem findings_writeNode (n : Node) (hn : n.SlashEmpty) (p q : Progress)
    (h : writeNode c own p n = .ok q) :
    q.findings.uncounted = n.uses.foldl (Findings.meet c own) p.findings.uncounted := by
  cases n with
  | data place text =>
    rw [writeNode] at h
    cases h
    rfl
  | output place e =>
    rw [writeNode] at h
    cases h
    rfl
  | element place name attributes body closing =>
    obtain ⟨hslash, hbody⟩ := hn
    have hwrite (p q : Progress) (h : writeNodes c own p body = .ok q) :
        q.findings.uncounted =
          (bodyUses body).foldl (Findings.meet c own) p.findings.uncounted :=
      findings_writeNodes body hbody p q h
    rw [Node.uses, List.foldl_append]
    rw [writeNode] at h
    cases hbinding : binding? c name with
    | none =>
      simp only [hbinding] at h
      rw [← findings_of_unbound own p place attributes hbinding]
      generalize Progress.openMarkup _ name attributes = opened at h ⊢
      split at h
      · next hclosing =>
        cases h
        rw [hslash hclosing]
        rfl
      · split at h
        · next hvoid =>
          rw [Bool.and_eq_true, List.isEmpty_iff] at hvoid
          cases h
          rw [hvoid.1]
          rfl
        · obtain ⟨inner, hinner, h⟩ := bind_eq_ok_iff.mp h
          cases h
          exact hwrite (opened.text ">") inner hinner
    | some b =>
      obtain ⟨htag, hresolve⟩ := binding?_eq_some hbinding
      simp only [hbinding] at h
      have hused : (p.findings.use own place name attributes b).uncounted =
          p.findings.uncounted.meet c own ⟨place, name, attributes⟩ := by
        rw [← Findings.uncounted_meet, Findings.meet, hresolve]
      rw [if_pos htag, List.foldl_cons, List.foldl_nil, ← hused]
      generalize p.findings.use own place name attributes b = used at h ⊢
      obtain ⟨target, -, h⟩ := bind_eq_ok_iff.mp h
      split at h
      · next hempty =>
        rw [List.isEmpty_iff] at hempty
        cases h
        rw [hempty]
        rfl
      · obtain ⟨inner, hinner, h⟩ := bind_eq_ok_iff.mp h
        cases h
        exact hwrite _ inner hinner

theorem findings_writeNodes (ns : List Node) (hns : AllSlashEmpty ns) (p q : Progress)
    (h : writeNodes c own p ns = .ok q) :
    q.findings.uncounted = (bodyUses ns).foldl (Findings.meet c own) p.findings.uncounted := by
  cases ns with
  | nil =>
    rw [writeNodes] at h
    cases h
    rfl
  | cons n ns =>
    obtain ⟨hfirst, hrest⟩ := hns
    rw [writeNodes] at h
    obtain ⟨between, hn, hns⟩ := bind_eq_ok_iff.mp h
    rw [bodyUses, List.foldl_append, ← findings_writeNode n hfirst p between hn]
    exact findings_writeNodes ns hrest between q hns

end

/-- The findings of a template: those of its tags, one after another. -/
theorem findings_of_read {content : String} {t : Template}
    (ht : Template.ofChars content.toList = .ok t) {p : Progress}
    (hp : writeNodes c own ⟨.empty, .empty⟩ t.body = .ok p) :
    p.findings.uncounted = t.uses.foldl (Findings.meet c own) .empty :=
  findings_writeNodes t.body (Template.slashEmpty_of_read ht) _ p hp

theorem diagnostics_of_read {content : String} {t : Template}
    (ht : Template.ofChars content.toList = .ok t) {p : Progress}
    (hp : writeNodes c own ⟨.empty, .empty⟩ t.body = .ok p) :
    p.findings.diagnostics = t.uses.flatMap (useDiagnostics c) := by
  have hdiagnostics := congrArg Findings.diagnostics (findings_of_read ht hp)
  rw [Findings.diagnostics_foldl_meet] at hdiagnostics
  exact hdiagnostics

theorem imports_of_read {content : String} {t : Template}
    (ht : Template.ofChars content.toList = .ok t) {p : Progress}
    (hp : writeNodes c own ⟨.empty, .empty⟩ t.body = .ok p) (name : String) :
    p.findings.imports.get? name =
      if ∃ u ∈ t.uses, u.name = name then importOf? c own name else none := by
  have himports := congrArg (fun f => f.imports.get? name) (findings_of_read ht hp)
  simp only [Findings.imports_foldl_meet] at himports
  change p.findings.imports.get? name = _ at himports
  rw [himports]
  split
  · exact Option.or_none
  · rfl

end Writing

end Component

end LivePreview
