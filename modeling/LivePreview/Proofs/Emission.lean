import LivePreview.Proofs.Uses

/-!
# What a body is written as

A body becomes statements of four kinds: static text is appended, the escaped value of an expression
is, the call of a component is, and the content of a component becomes a function of such statements.
So a property of these kinds holds of every statement that is written for a body. All tags that stand
for something are called by a target, and only a tag without one keeps a body from being written.
-/

namespace LivePreview

namespace Template

/-! ## Expressions of a template -/

def Attribute.expressions (a : Attribute) : List Expression :=
  match a.value with
  | .expression e => [e]
  | .bare | .literal _ => []

mutual

/-- The expressions in a node, in the order of the text. -/
def Node.expressions : Node → List Expression
  | .data _ _ => []
  | .output _ e => [e]
  | .element _ _ attributes body _ =>
    attributes.flatMap Attribute.expressions ++ bodyExpressions body

def bodyExpressions : List Node → List Expression
  | [] => []
  | n :: ns => n.expressions ++ bodyExpressions ns

end

def Param.expressions (p : Param) : List Expression := p.hint.toList ++ p.default.toList

/-- The expressions in a template: those of its parameters, and those of its body. -/
def expressions (t : Template) : List Expression :=
  t.params.flatMap Param.expressions ++ bodyExpressions t.body

end Template

namespace Component

open LivePreview.Code (Expr Statement)
open LivePreview.Template (AllSlashEmpty Node Use Expression bodyUses bodyExpressions)

/-- What the content of a component is given as: nothing, or a function. -/
def IsContent (content : Expr) : Prop :=
  content = .constant .none ∨ ∃ number, content = .name (contentName number)

/-- A property that holds of all that is written for tags and expressions. -/
structure Written (c : Context) (P : Statement → Prop) (us : List Use) (es : List Expression) :
    Prop where
  text : ∀ s, P (Draft.appending (.ofText s))
  escaped : ∀ e ∈ es, P (Draft.appending (Progress.escaped e.tree))
  call : ∀ u ∈ us, ∀ b target, c.resolve u.name = some b → targetOf u.name b = .ok target →
    ∀ content, IsContent content → P (Draft.appending (renderCall target u.attributes content))
  content : ∀ number ss, (∀ s ∈ ss, P s) →
    P (.function (contentName number) [] (bufferStart ++ ss ++ [bufferEnd]))

theorem Written.mono {c : Context} {P : Statement → Prop} {us vs : List Use}
    {es fs : List Expression} (h : Written c P us es) (huses : ∀ u ∈ vs, u ∈ us)
    (hexpressions : ∀ e ∈ fs, e ∈ es) : Written c P vs fs :=
  ⟨h.text, fun e he => h.escaped e (hexpressions e he), fun u hu => h.call u (huses u hu),
    h.content⟩

/-! ## Drafts -/

namespace Draft

variable {P : Statement → Prop} {d : Draft}

/-- Every statement of the draft has the property, and so has static text. -/
structure All (P : Statement → Prop) (d : Draft) : Prop where
  text : ∀ s, P (appending (.ofText s))
  statements : ∀ s ∈ d.statements, P s

theorem all_empty (htext : ∀ s, P (appending (.ofText s))) : All P .empty :=
  ⟨htext, fun _ hs => absurd hs List.not_mem_nil⟩

theorem All.addText (h : All P d) (s : String) : All P (d.text s) := ⟨h.text, h.statements⟩

theorem All.flush (h : All P d) : All P d.flush := by
  unfold Draft.flush
  split
  · exact h
  · exact ⟨h.text, List.forall_mem_cons.mpr ⟨h.text d.pending, h.statements⟩⟩

theorem All.statement (h : All P d) {s : Statement} (hs : P s) : All P (d.statement s) :=
  ⟨h.text, List.forall_mem_cons.mpr ⟨hs, h.flush.statements⟩⟩

theorem All.finish (h : All P d) : ∀ s ∈ d.finish, P s :=
  fun s hs => h.flush.statements s (List.mem_reverse.mp hs)

end Draft

/-! ## Bodies -/

section Writing

variable {c : Context} {own : String} {P : Statement → Prop}

theorem all_openMarkup {p : Progress} (hp : p.draft.All P) (name : String)
    (attributes : List Template.Attribute)
    (hescaped : ∀ e ∈ attributes.flatMap Template.Attribute.expressions,
      P (Draft.appending (Progress.escaped e.tree))) :
    (p.openMarkup name attributes).draft.All P := by
  have hmarkup (q : Progress) (hq : q.draft.All P) (a : Template.Attribute)
      (ha : a ∈ attributes) : (q.attributeMarkup a).draft.All P := by
    unfold Progress.attributeMarkup
    split
    · exact hq.addText _
    · exact hq.addText _
    · next e he =>
      have hmem : e ∈ attributes.flatMap Template.Attribute.expressions := by
        refine List.mem_flatMap.mpr ⟨a, ha, ?_⟩
        rw [Template.Attribute.expressions, he]
        exact List.mem_singleton_self e
      exact ((hq.addText _).statement (hescaped e hmem)).addText _
  exact List.foldlRecOn (motive := fun q : Progress => q.draft.All P) attributes _
    (hp.addText _) hmarkup

mutual

theorem all_writeNode (n : Node) (hn : Written c P n.uses n.expressions) (p q : Progress)
    (hp : p.draft.All P) (h : writeNode c own p n = .ok q) : q.draft.All P := by
  cases n with
  | data place text =>
    rw [writeNode] at h
    cases h
    exact hp.addText text
  | output place e =>
    rw [writeNode] at h
    cases h
    exact hp.statement (hn.escaped e (List.mem_singleton_self e))
  | element place name attributes body closing =>
    have hbody : Written c P (bodyUses body) (bodyExpressions body) :=
      hn.mono (fun u hu => List.mem_append_right _ hu) (fun e he => List.mem_append_right _ he)
    have hwrite (p q : Progress) (hp : p.draft.All P) (h : writeNodes c own p body = .ok q) :
        q.draft.All P := all_writeNodes body hbody p q hp h
    rw [writeNode] at h
    cases hbinding : binding? c name with
    | none =>
      simp only [hbinding] at h
      generalize hnoted : (if Template.isComponentTag name then
          { p with findings := p.findings.note [.unresolvedComponent place name] }
        else p) = noted at h
      have hnoted : noted.draft.All P := by
        rw [← hnoted]
        split <;> exact hp
      have hopened := all_openMarkup hnoted name attributes fun e he =>
        hn.escaped e (List.mem_append_left _ he)
      generalize Progress.openMarkup noted name attributes = opened at h hopened
      split at h
      · cases h
        exact hopened.addText _
      · split at h
        · cases h
          exact hopened.addText _
        · obtain ⟨inner, hinner, h⟩ := bind_eq_ok_iff.mp h
          cases h
          exact (hwrite _ inner (hopened.addText _) hinner).addText _
    | some b =>
      obtain ⟨htag, hresolve⟩ := binding?_eq_some hbinding
      have hmem : (⟨place, name, attributes⟩ : Use) ∈
          (Node.element place name attributes body closing).uses := by
        rw [Node.uses, if_pos htag]
        exact List.mem_append_left _ (List.mem_singleton_self _)
      simp only [hbinding] at h
      obtain ⟨target, htarget, h⟩ := bind_eq_ok_iff.mp h
      have hcall := hn.call _ hmem b target hresolve htarget
      split at h
      · cases h
        exact hp.statement (hcall _ (.inl rfl))
      · obtain ⟨inner, hinner, h⟩ := bind_eq_ok_iff.mp h
        cases h
        have hinside := hwrite _ inner (Draft.all_empty hn.text) hinner
        have houtside : (p.draft.statement (.function
            (contentName ((p.findings.use own place name attributes b).contents + 1)) []
            (bufferStart ++ inner.draft.finish ++ [bufferEnd]))).All P :=
          hp.statement (hn.content _ _ hinside.finish)
        exact houtside.statement (hcall _ (.inr ⟨_, rfl⟩))

theorem all_writeNodes (ns : List Node) (hns : Written c P (bodyUses ns) (bodyExpressions ns))
    (p q : Progress) (hp : p.draft.All P) (h : writeNodes c own p ns = .ok q) :
    q.draft.All P := by
  cases ns with
  | nil =>
    rw [writeNodes] at h
    cases h
    exact hp
  | cons n ns =>
    have hfirst : Written c P n.uses n.expressions :=
      hns.mono (fun u hu => List.mem_append_left _ hu) (fun e he => List.mem_append_left _ he)
    have hrest : Written c P (bodyUses ns) (bodyExpressions ns) :=
      hns.mono (fun u hu => List.mem_append_right _ hu) (fun e he => List.mem_append_right _ he)
    rw [writeNodes] at h
    obtain ⟨between, hn, h⟩ := bind_eq_ok_iff.mp h
    exact all_writeNodes ns hrest between q (all_writeNode n hfirst p between hp hn) h

end

/-- What is written for a whole body. -/
theorem written_body {ns : List Node} (hns : Written c P (bodyUses ns) (bodyExpressions ns))
    {p : Progress} (h : writeNodes c own ⟨.empty, .empty⟩ ns = .ok p) : ∀ s ∈ p.draft.finish, P s :=
  (all_writeNodes ns hns _ p (Draft.all_empty hns.text) h).finish

/-! ## Targets -/

mutual

/-- Where a node is written, every tag in it that stands for something has a target. -/
theorem targets_writeNode (n : Node) (hn : n.SlashEmpty) (p q : Progress)
    (h : writeNode c own p n = .ok q) : ∀ u ∈ n.uses, ∀ b, c.resolve u.name = some b →
      ∃ target, targetOf u.name b = .ok target := by
  cases n with
  | data place text => exact fun u hu => absurd hu List.not_mem_nil
  | output place e => exact fun u hu => absurd hu List.not_mem_nil
  | element place name attributes body closing =>
    obtain ⟨hslash, hbody⟩ := hn
    have hwrite (p q : Progress) (h : writeNodes c own p body = .ok q) :
        ∀ u ∈ bodyUses body, ∀ b, c.resolve u.name = some b →
          ∃ target, targetOf u.name b = .ok target := targets_writeNodes body hbody p q h
    have hempty (hbody : body = []) : ∀ u ∈ bodyUses body, ∀ b, c.resolve u.name = some b →
        ∃ target, targetOf u.name b = .ok target := by
      rw [hbody]
      exact fun u hu => absurd hu List.not_mem_nil
    rw [writeNode] at h
    intro u hu
    rcases List.mem_append.mp hu with hown | hinside
    · split at hown
      · next htag =>
        rw [List.mem_singleton.mp hown]
        intro b hresolve
        have hbinding : binding? c name = some b := by rw [binding?, if_pos htag, hresolve]
        simp only [hbinding] at h
        obtain ⟨target, htarget, -⟩ := bind_eq_ok_iff.mp h
        exact ⟨target, htarget⟩
      · exact absurd hown List.not_mem_nil
    · cases hbinding : binding? c name with
      | none =>
        simp only [hbinding] at h
        split at h
        · next hclosing => exact hempty (hslash hclosing) u hinside
        · split at h
          · next hvoid =>
            rw [Bool.and_eq_true, List.isEmpty_iff] at hvoid
            exact hempty hvoid.1 u hinside
          · obtain ⟨inner, hinner, -⟩ := bind_eq_ok_iff.mp h
            exact hwrite _ inner hinner u hinside
      | some b =>
        simp only [hbinding] at h
        obtain ⟨target, -, h⟩ := bind_eq_ok_iff.mp h
        split at h
        · next hvoid => exact hempty (List.isEmpty_iff.mp hvoid) u hinside
        · obtain ⟨inner, hinner, -⟩ := bind_eq_ok_iff.mp h
          exact hwrite _ inner hinner u hinside

theorem targets_writeNodes (ns : List Node) (hns : AllSlashEmpty ns) (p q : Progress)
    (h : writeNodes c own p ns = .ok q) : ∀ u ∈ bodyUses ns, ∀ b, c.resolve u.name = some b →
      ∃ target, targetOf u.name b = .ok target := by
  cases ns with
  | nil => exact fun u hu => absurd hu List.not_mem_nil
  | cons n ns =>
    obtain ⟨hfirst, hrest⟩ := hns
    rw [writeNodes] at h
    obtain ⟨between, hn, h⟩ := bind_eq_ok_iff.mp h
    intro u hu
    rcases List.mem_append.mp hu with hu | hu
    · exact targets_writeNode n hfirst p between hn u hu
    · exact targets_writeNodes ns hrest between q h u hu

end

mutual

/-- A node is not written only where a tag in it has no target. -/
theorem target_writeNode_error (n : Node) (p : Progress) {fault : HostFault}
    (h : writeNode c own p n = .error fault) :
    ∃ u ∈ n.uses, ∃ b, c.resolve u.name = some b ∧ targetOf u.name b = .error fault := by
  cases n with
  | data place text =>
    rw [writeNode] at h
    cases h
  | output place e =>
    rw [writeNode] at h
    cases h
  | element place name attributes body closing =>
    have hinside {p : Progress} (h : writeNodes c own p body = .error fault) :
        ∃ u ∈ (Node.element place name attributes body closing).uses,
          ∃ b, c.resolve u.name = some b ∧ targetOf u.name b = .error fault := by
      obtain ⟨u, hu, hb⟩ := target_writeNodes_error body p h
      exact ⟨u, List.mem_append_right _ hu, hb⟩
    rw [writeNode] at h
    cases hbinding : binding? c name with
    | none =>
      simp only [hbinding] at h
      split at h
      · cases h
      · split at h
        · cases h
        · rcases bind_eq_error_iff.mp h with h | ⟨inner, -, h⟩
          · exact hinside h
          · cases h
    | some b =>
      obtain ⟨htag, hresolve⟩ := binding?_eq_some hbinding
      simp only [hbinding] at h
      rcases bind_eq_error_iff.mp h with h | ⟨target, -, h⟩
      · refine ⟨⟨place, name, attributes⟩, List.mem_append_left _ ?_, b, hresolve, h⟩
        rw [if_pos htag]
        exact List.mem_singleton_self _
      · split at h
        · cases h
        · rcases bind_eq_error_iff.mp h with h | ⟨inner, -, h⟩
          · exact hinside h
          · cases h

theorem target_writeNodes_error (ns : List Node) (p : Progress) {fault : HostFault}
    (h : writeNodes c own p ns = .error fault) :
    ∃ u ∈ bodyUses ns, ∃ b, c.resolve u.name = some b ∧ targetOf u.name b = .error fault := by
  cases ns with
  | nil =>
    rw [writeNodes] at h
    cases h
  | cons n ns =>
    rw [writeNodes] at h
    rcases bind_eq_error_iff.mp h with h | ⟨between, -, h⟩
    · obtain ⟨u, hu, hb⟩ := target_writeNode_error n p h
      exact ⟨u, List.mem_append_left _ hu, hb⟩
    · obtain ⟨u, hu, hb⟩ := target_writeNodes_error ns between h
      exact ⟨u, List.mem_append_right _ hu, hb⟩

end

end Writing

end Component

end LivePreview
