import LivePreview.Component.Document

/-!
# What a document depends on

Of a context a document sees what the component tags of its template stand for, whether the modules
it names are there, and the generation, which is only its version. Contexts that agree on these give
the same document or the same failure.
-/

namespace LivePreview

namespace Template

mutual

/-- The tags of a node that stand for components, in the order of the text. -/
def Node.componentTags : Node → List String
  | .data _ _ | .output _ _ => []
  | .element _ name _ body _ =>
    (if isComponentTag name then [name] else []) ++ bodyComponentTags body

def bodyComponentTags : List Node → List String
  | [] => []
  | n :: ns => n.componentTags ++ bodyComponentTags ns

end

def componentTags (t : Template) : List String := bodyComponentTags t.body

end Template

namespace Component

open LivePreview.Template (Node bodyComponentTags)

/-- Tags stand for the same in two contexts. -/
def SameTags (c d : Context) (tags : List String) : Prop :=
  ∀ tag ∈ tags, c.resolve tag = d.resolve tag

theorem SameTags.left {c d : Context} {tags others : List String}
    (h : SameTags c d (tags ++ others)) : SameTags c d tags :=
  fun tag ht => h tag (List.mem_append_left others ht)

theorem SameTags.right {c d : Context} {tags others : List String}
    (h : SameTags c d (tags ++ others)) : SameTags c d others :=
  fun tag ht => h tag (List.mem_append_right tags ht)

theorem binding?_eq {c d : Context} {name : String}
    (h : SameTags c d (if Template.isComponentTag name then [name] else [])) :
    binding? c name = binding? d name := by
  unfold binding?
  split
  · next htag =>
    rw [if_pos htag] at h
    exact h name List.mem_cons_self
  · rfl

section Writing

variable {c d : Context} (own : String)

mutual

theorem writeNode_eq (n : Node) (p : Progress) (h : SameTags c d n.componentTags) :
    writeNode c own p n = writeNode d own p n := by
  cases n with
  | data place text => rw [writeNode, writeNode]
  | output place e => rw [writeNode, writeNode]
  | element place name attributes body closing =>
    rw [Node.componentTags] at h
    have hbody (p : Progress) : writeNodes c own p body = writeNodes d own p body :=
      writeNodes_eq body p h.right
    simp only [writeNode, binding?_eq h.left, hbody]

theorem writeNodes_eq (ns : List Node) (p : Progress) (h : SameTags c d (bodyComponentTags ns)) :
    writeNodes c own p ns = writeNodes d own p ns := by
  cases ns with
  | nil => rw [writeNodes, writeNodes]
  | cons n ns =>
    rw [bodyComponentTags] at h
    have hrest (p : Progress) : writeNodes c own p ns = writeNodes d own p ns :=
      writeNodes_eq ns p h.right
    simp only [writeNodes, writeNode_eq n p h.left, hrest]

end

end Writing

/-- Two contexts agree on all that the document of a template sees. -/
structure Agree (c d : Context) (t : Template) : Prop where
  tags : SameTags c d t.componentTags
  modules : ∀ u ∈ t.usings, c.hasModule u.module = d.hasModule u.module

variable {c d : Context}

theorem unknownModules_eq {t : Template} (h : Agree c d t) :
    unknownModules c t = unknownModules d t := by
  unfold unknownModules
  rw [List.filter_congr fun u hu => by rw [h.modules u hu]]

/-- Where contexts agree, documents are the same but for the version, and so are failures. -/
theorem compile_eq {t : Template} (h : Agree c d t) (path : String) :
    compile c t path = (compile d t path).map fun document =>
      { document with version := c.generation } := by
  unfold compile
  rw [writeNodes_eq (componentName path) t.body _ h.tags, unknownModules_eq h]
  cases writeNodes d (componentName path) ⟨.empty, .empty⟩ t.body with
  | error fault => rfl
  | ok p =>
    cases htext : moduleText path
        (header t p.findings ++ [componentClass t path p.draft.finish]) with
    | error f => simp [htext, bind, Except.bind, Except.map]
    | ok code => simp [htext, bind, Except.bind, Except.map, pure, Except.pure]

theorem generate_eq {content : String}
    (h : ∀ t, Template.ofChars content.toList = .ok t → Agree c d t) (path : String) :
    Document.generate c path content = (Document.generate d path content).map fun document =>
      { document with version := c.generation } := by
  unfold Document.generate
  cases ht : Template.ofChars content.toList with
  | error o => rfl
  | ok t => exact compile_eq (h t ht) path

end Component

end LivePreview
